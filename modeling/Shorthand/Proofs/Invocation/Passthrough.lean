import Shorthand.Plan
import Shorthand.Proofs.Invocation.Building
import Shorthand.Proofs.Success
/-!
The words that are not for the table of flags. They stand last in the command, whole and in their
order, behind the words of the base command and those of all templates that are placed behind it;
and they do so also where the command is a part of a line for `sh`.
-/
set_option autoImplicit false

namespace Shorthand

open Words (NulFree)

namespace Fragments

structure Placed (P : Bool → String → Prop) (f : Fragments) : Prop where
  before : ∀ fragment ∈ f.before, P true fragment
  after : ∀ fragment ∈ f.after, P false fragment

variable {P : Bool → String → Prop} {f g : Fragments}

theorem Placed.empty : Placed P {} := ⟨by simp, by simp⟩

theorem Placed.append (hf : f.Placed P) (hg : g.Placed P) : (f ++ g).Placed P where
  before := List.forall_mem_append.2 ⟨hf.before, hg.before⟩
  after := List.forall_mem_append.2 ⟨hf.after, hg.after⟩

theorem placed_place {position : Position} {text : String}
    (h : P position.isBefore (Text.trim text)) :
    (place position text).Placed P := by
  unfold place
  dsimp only
  split
  · exact .empty
  · split
    · rename_i hbefore
      exact ⟨by simpa [hbefore] using h, by simp⟩
    · rename_i hbefore
      exact ⟨by simp, by simpa [hbefore] using h⟩

theorem placed_renderPlaced {vars : Variables} {templates : List PlacedTemplate}
    (h : ∀ t ∈ templates, P t.position.isBefore (Text.trim (Template.render t.template vars))) :
    (renderPlaced vars templates).Placed P := by
  have hfold (f : Fragments) (hf : f.Placed P) :
      (templates.foldl (fun f t => f ++ .place t.position (Template.render t.template vars))
        f).Placed P := by
    induction templates generalizing f with
    | nil => exact hf
    | cons t templates ih =>
      have hplace := placed_place (h t (by simp))
      exact ih (fun t' h' => h t' (by simp [h'])) _ (hf.append hplace)
  exact hfold {} .empty

end Fragments

namespace Expander

variable {x : Expander}

/-- What is left of words without a separator: those that no flag is and that no flag takes for its
value. -/
inductive Leaves (x : Expander) : List String → List String → Prop
  | nil : x.Leaves [] []
  | word {word : String} {rest left : List String} (plain : x.reading word = .plain)
      (step : x.Leaves rest left) :
      x.Leaves (word :: rest) (word :: left)
  | bundle {word : String} {flags : List (String × Flag)} {rest left : List String}
      (bundle : x.reading word = .bundle flags) (step : x.Leaves rest left) :
      x.Leaves (word :: rest) left
  | flag {word key : String} {flag : Flag} {value : Option String} {rest left : List String}
      (single : x.reading word = .single key flag value)
      (whole : ∀ next ∈ rest.head?,
        value.isSome ∨ flag.takesValue = false ∨ Text.startsWith '-' next = true)
      (step : x.Leaves rest left) : x.Leaves (word :: rest) left
  | pair {word key value : String} {flag : Flag} {rest left : List String}
      (single : x.reading word = .single key flag none) (takes : flag.takesValue = true)
      (offered : Text.startsWith '-' value = false) (step : x.Leaves rest left) :
      x.Leaves (word :: value :: rest) left

/-- A flag of the table has a template for a side of the command, which is rendered as the
fragment. -/
def Renders (x : Expander) (isBefore : Bool) (fragment : String) : Prop :=
  ∃ key flag t vars, x.table.get? key = some flag ∧
    t ∈ flag.templatesFor x.shell ∧ t.position.isBefore = isBefore ∧
    fragment = Text.trim (Template.render t.template vars)

theorem placed_expand {key : String} {flag : Flag} (h : x.table.get? key = some flag)
    (name : String) (vars : Variables) :
    (flag.expand name x.shell vars).fragments.Placed x.Renders := by
  unfold Flag.expand
  dsimp only
  split
  · exact .empty
  · exact Fragments.placed_renderPlaced fun t ht => ⟨key, flag, t, vars, h, ht, rfl, rfl⟩

theorem placed_bundle {flags : List (String × Flag)} (h : ∀ e ∈ flags, x.table.get? e.1 = some e.2)
    (vars : Variables) : (x.bundle vars flags).fragments.Placed x.Renders := by
  induction flags generalizing vars with
  | nil => exact .empty
  | cons e flags ih =>
    exact (placed_expand (h e (by simp)) _ _).append (ih (fun e' h' => h e' (by simp [h'])) _)

theorem placed_single {word key : String} {flag : Flag} {value : Option String}
    (h : x.reading word = .single key flag value) (given : Option String) :
    (x.single key flag given).fragments.Placed x.Renders := by
  obtain ⟨token, -, -, hflag⟩ := token_of_reading_single h
  exact placed_expand hflag _ _

theorem placed_expandHead (x : Expander) (words : List String) :
    (x.expandHead words).fragments.Placed x.Renders := by
  fun_induction expandHead x words with
  | case1 => exact .empty
  | case2 word rest hr ih => exact .append .empty ih
  | case3 word rest flags hr ih => exact (placed_bundle (get?_of_reading_bundle hr) ∅).append ih
  | case4 word key flag value hr next rest ht ih => exact (placed_single hr _).append ih
  | case5 word key flag value hr next rest ht ih => exact (placed_single hr _).append ih
  | case6 word key flag value hr => exact placed_single hr _

theorem passthrough_expand (flag : Flag) (key : String) (shell : Shell) (vars : Variables) :
    (flag.expand key shell vars).passthrough = [] := by
  unfold Flag.expand
  dsimp only
  split <;> rfl

theorem passthrough_bundle (vars : Variables) (flags : List (String × Flag)) :
    (x.bundle vars flags).passthrough = [] := by
  induction flags generalizing vars with
  | nil => rfl
  | cons e flags ih => exact List.append_eq_nil_iff.2 ⟨passthrough_expand _ _ _ _, ih _⟩

theorem leaves_expandHead (x : Expander) (words : List String) :
    x.Leaves words (x.expandHead words).passthrough := by
  fun_induction expandHead x words with
  | case1 => exact .nil
  | case2 word rest hr ih => exact .word hr ih
  | case3 word rest flags hr ih =>
    have hpass :
        (x.bundle ∅ flags ++ x.expandHead rest).passthrough = (x.expandHead rest).passthrough :=
      congrArg (· ++ _) (passthrough_bundle ∅ flags)
    exact hpass ▸ .bundle hr ih
  | case4 word key flag value hr next rest ht ih =>
    have hpass : (x.single key flag (some next) ++ x.expandHead rest).passthrough =
      (x.expandHead rest).passthrough :=
      congrArg (· ++ _) (passthrough_expand _ _ _ _)
    simp only [Bool.and_eq_true, Bool.not_eq_true', Option.isNone_iff_eq_none] at ht
    obtain ⟨⟨rfl, htakes⟩, hdash⟩ := ht
    exact hpass ▸ .pair hr htakes hdash ih
  | case5 word key flag value hr next rest ht ih =>
    have hpass : (x.single key flag value ++ x.expandHead (next :: rest)).passthrough =
        (x.expandHead (next :: rest)).passthrough := congrArg (· ++ _) (passthrough_expand _ _ _ _)
    refine hpass ▸ .flag hr ?_ ih
    intro next' hnext
    obtain rfl := Option.some.inj hnext
    cases value <;> cases htakes : flag.takesValue <;> simp_all
  | case6 word key flag value hr =>
    have hpass : (x.single key flag value).passthrough = [] := passthrough_expand _ _ _ _
    rw [hpass]
    exact .flag hr (by simp) .nil

theorem placed_expand_words (x : Expander) (words : List String) :
    (x.expand words).fragments.Placed x.Renders :=
  (placed_expandHead x _).append .empty

end Expander

theorem Script.nulFree_of_line {shell : Shell} {words : List String} {q : String}
    (h : Script.line shell words = .ok q) :
    ∀ w ∈ words, NulFree w := by
  unfold Script.line at h
  split at h
  · cases h
  · rename_i hany
    simpa [NulFree] using hany

namespace Invocation

variable {shell : Shell} {base before command : List String} {e : Expansion} {i : Invocation}

theorem words_of_assemble (h : assemble shell before command = .ok i)
    (hb : ∀ f ∈ before, (Assignment.ofFragment? f).isSome) : i.words = command := by
  cases command with
  | nil => simp [assemble] at h
  | cons program args =>
    rw [assemble_direct shell program args hb] at h
    obtain rfl := Except.ok.inj h
    rfl

theorem exists_line_of_assemble (h : assemble shell before command = .ok i)
    (hb : ∃ f ∈ before, Assignment.ofFragment? f = none) :
    command ≠ [] ∧ ∃ q, Script.line shell command = .ok q := by
  obtain ⟨f, hf, hnone⟩ := hb
  have hne : (before.filter fun f => (Assignment.ofFragment? f).isNone).map Text.trim ≠ [] :=
    List.ne_nil_of_mem (List.mem_map_of_mem (List.mem_filter.2 ⟨hf, by simp [hnone]⟩))
  obtain ⟨g, gs, hg⟩ := List.exists_cons_of_ne_nil hne
  cases command with
  | nil => simp [assemble] at h
  | cons program args =>
    simp only [assemble, hg] at h
    obtain ⟨q, hq, -⟩ := exists_of_bind_eq_ok h
    exact ⟨by simp, q, hq⟩

/-- In a line for `sh`, the part behind the fragments reads back as the command. -/
theorem split_of_assemble (h : assemble shell before command = .ok i)
    (hs : shell = .linux ∨ shell = .unknown) (hb : ∃ f ∈ before, Assignment.ofFragment? f = none) :
    ∃ q, i.program = "sh" ∧ i.args = ["-c", scriptStart before ++ " " ++ q] ∧
      Words.split q = some command := by
  obtain ⟨hc, q, hq⟩ := exists_line_of_assemble h hb
  have hn := Script.nulFree_of_line hq
  obtain ⟨q', hj, hq'⟩ := Script.line_sh hs hn
  obtain rfl := Except.ok.inj (hq.symm.trans hq')
  have hi : Script.interpreter shell = ("sh", ["-c"]) := by rcases hs with rfl | rfl <;> rfl
  rw [assemble_script hb hc hq, hi] at h
  obtain rfl := Except.ok.inj h
  exact ⟨q, rfl, rfl, Words.split_join hn hj⟩

end Invocation

namespace Workspace

variable {w : Workspace} {short word : String} {flags : List String} {plan : Plan}

/-- What is planned for a resolved alias was built from the base command and from the expanded
flags. -/
theorem exists_build_of_planResolved {r : Resolution} (h : w.planResolved r word flags = .ok plan) :
    ∃ base, w.targetBase r.project word = .ok base ∧
      Invocation.build w.shell base
        ((w.expander (.ofResolution r (w.config.resolveTarget word).target)).expand flags) =
          .ok plan.invocation := by
  obtain ⟨base, hbase, h⟩ := exists_of_bind_eq_ok h
  obtain ⟨invocation, hbuild, h⟩ := exists_of_bind_eq_ok (eq_ok_of_mapError h)
  obtain rfl := Except.ok.inj h
  exact ⟨base, hbase, hbuild⟩

/-- The words of the user that no flag is and no flag takes, and all words from the separator on,
come last in the process as they are: behind the words of the base command and of the templates that
are placed behind it. Where the command is a part of a line for `sh`, they are read from it so. -/
theorem passthrough_comes_last (h : w.planAlias short word flags = .ok plan) :
    ∃ (r : Resolution) (base left : List String) (x : Expander),
      w.resolveFor short word = .ok r ∧ w.targetBase r.project word = .ok base ∧
      x = w.expander (.ofResolution r (w.config.resolveTarget word).target) ∧
      x.Leaves (flags.takeWhile (· ≠ separator)) left ∧
      (x.expand flags).passthrough =
        left ++ (if (splitAtSeparator flags).2 = [] then []
          else separator :: (splitAtSeparator flags).2) ∧
      (∀ fragment ∈ (x.expand flags).fragments.before, x.Renders true fragment) ∧
      (∀ fragment ∈ (x.expand flags).fragments.after, x.Renders false fragment) ∧
      ((∀ f ∈ (x.expand flags).fragments.before, (Assignment.ofFragment? f).isSome) →
        plan.invocation.words =
          wrap base [] (Invocation.addedWords (x.expand flags)) ++ (x.expand flags).passthrough) ∧
      ((∃ f ∈ (x.expand flags).fragments.before, Assignment.ofFragment? f = none) →
        w.shell = .linux ∨ w.shell = .unknown →
        ∃ q, plan.invocation.program = "sh" ∧
          plan.invocation.args = ["-c",
            Invocation.scriptStart (x.expand flags).fragments.before ++ " " ++ q] ∧
          Words.split q =
            some (wrap base [] (Invocation.addedWords (x.expand flags)) ++
              (x.expand flags).passthrough)) := by
  obtain ⟨r, hr, h⟩ := exists_of_bind_eq_ok h
  obtain ⟨base, hbase, hbuild⟩ := exists_build_of_planResolved h
  have hplaced :=
    (w.expander (.ofResolution r (w.config.resolveTarget word).target)).placed_expand_words flags
  refine ⟨r, base, _, _, eq_ok_of_mapError hr, hbase, rfl, Expander.leaves_expandHead _ _, ?_,
    hplaced.before, hplaced.after, Invocation.words_of_assemble hbuild,
      fun hb hs => Invocation.split_of_assemble hbuild hs hb⟩
  simp only [Expander.expand, List.isEmpty_iff]
  rfl

/-- A package with a flag for the end of the command, one that sets a variable and one that needs a
shell. -/
def flagged : Workspace where
  config :=
    { packages := .ofList [("dc", .direct "@fux/dc")]
      expandableFlags := .ofList [("f", .literal "--fix"),
        ("t", .detailed { template := some "timeout 5", position := some .start })]
      environmentFlags := .ofList [("sto", .literal "PAE_TIMEOUT=9")] }
  settings := {}
  environment := ∅

def roughWords : List String := [" ", "it's", "-x", "", "--", "-f", " "]

def directPlan : Plan where
  label := "@fux/dc"
  invocation :=
    { program := "npx"
      args := ["nx", "run", "@fux/dc:b", "--fix"] ++ roughWords
      environment := [("PAE_TIMEOUT", "9")] }
  isEchoed := false
  isTraced := false

def scriptPlan : Plan where
  label := "@fux/dc"
  invocation :=
    { program := "sh"
      args := ["-c", "timeout 5 npx nx run @fux/dc:b --fix ' ' \"it's\" -x '' -- -f ' '"] }
  isEchoed := false
  isTraced := false

theorem passthrough_comes_last_rough :
    (flagged.planAlias "dc" "b" ("--sto" :: "-f" :: roughWords) = .ok directPlan ∧
      directPlan.invocation.words = ["npx", "nx", "run", "@fux/dc:b", "--fix"] ++ roughWords) ∧
    flagged.planAlias "dc" "b" ("-t" :: "-f" :: roughWords) = .ok scriptPlan ∧
      ∃ q, scriptPlan.invocation.args = ["-c", "timeout 5" ++ " " ++ q] ∧
        Words.split q = some (["npx", "nx", "run", "@fux/dc:b", "--fix"] ++ roughWords) := by
  have hdirect : flagged.planAlias "dc" "b" ("--sto" :: "-f" :: roughWords) = .ok directPlan :=
    eq_ok_of_toOption (by decide +kernel)
  have hscript : flagged.planAlias "dc" "b" ("-t" :: "-f" :: roughWords) = .ok scriptPlan :=
    eq_ok_of_toOption (by decide +kernel)
  have hresolve : flagged.resolveFor "dc" "b" = .ok (.ofProject "@fux/dc" "dc") :=
    eq_ok_of_toOption (by decide +kernel)
  have hbase : flagged.targetBase "@fux/dc" "b" = .ok ["npx", "nx", "run", "@fux/dc:b"] :=
    eq_ok_of_toOption (by decide +kernel)
  refine ⟨⟨hdirect, ?_⟩, hscript, ?_⟩
  · obtain ⟨r, base, left, x, hr, hb, rfl, -, -, -, -, hwords, -⟩ := passthrough_comes_last hdirect
    obtain rfl := Except.ok.inj (hresolve.symm.trans hr)
    obtain rfl := Except.ok.inj (hbase.symm.trans hb)
    exact (hwords (by decide +kernel)).trans (by decide +kernel)
  · obtain ⟨r, base, left, x, hr, hb, rfl, -, -, -, -, -, hline⟩ := passthrough_comes_last hscript
    obtain rfl := Except.ok.inj (hresolve.symm.trans hr)
    obtain rfl := Except.ok.inj (hbase.symm.trans hb)
    obtain ⟨q, -, hargs, hsplit⟩ :=
      hline ⟨"timeout 5", by decide +kernel, by decide +kernel⟩ (.inr (by decide +kernel))
    have hstart :
        Invocation.scriptStart ((flagged.expander (.ofResolution (.ofProject "@fux/dc" "dc")
            (flagged.config.resolveTarget "b").target)).expand
          ("-t" :: "-f" :: roughWords)).fragments.before =
        "timeout 5" := by decide +kernel
    rw [hstart] at hargs
    exact ⟨q, hargs, hsplit.trans (by decide +kernel)⟩

end Workspace

end Shorthand
