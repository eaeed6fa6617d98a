import Shorthand.Proofs.Invocation.Passthrough
import Shorthand.Proofs.Planning
set_option autoImplicit false

namespace Shorthand

namespace Invocation

variable {shell : Shell} {base : List String} {e : Expansion} {i : Invocation}

theorem words_of_build (h : build shell base e = .ok i)
    (hb : ∀ f ∈ e.fragments.before, (Assignment.ofFragment? f).isSome) : i.words =
      base.filter (!Text.isAllBlank ·) ++
        ((addedWords e).filter (!Text.isAllBlank ·) ++ e.passthrough) := by
  rw [words_of_assemble h hb]
  simp [wrap, addedWords]

theorem exists_build_of_shown (hb : ∀ f ∈ e.fragments.before, (Assignment.ofFragment? f).isSome)
    {part : String} (hpart : part ∈ base) (hshown : Text.isAllBlank part = false) :
    ∃ i, build shell base e = .ok i ∧ base.find? (!Text.isAllBlank ·) = some i.program := by
  have hmem : part ∈ base.filter (!Text.isAllBlank ·) := List.mem_filter.2 ⟨hpart, by simp [hshown]⟩
  obtain ⟨program, rest, hfilter⟩ := List.exists_cons_of_ne_nil (List.ne_nil_of_mem hmem)
  have hne : wrap base [] (addedWords e) ++ e.passthrough ≠ [] := by simp [wrap, hfilter]
  obtain ⟨i, hbuild, -, -⟩ := build_direct shell hb hne
  have hwords := words_of_build hbuild hb
  rw [hfilter] at hwords
  refine ⟨i, hbuild, ?_⟩
  rw [← List.head?_filter, hfilter, ← (List.cons.inj hwords).1]
  rfl

end Invocation

/-- What starts begins with those of the words that are not blank, unchanged and in order, and
behind them stand only the words that an expansion adds. With a word that is not blank there is
something to start. -/
structure BeginsWith {ε : Type} (base : List String) (e : Expansion) (outcome : Except ε Plan) :
    Prop where
  planned : (∃ part ∈ base, Text.isAllBlank part = false) →
    ∃ plan, outcome = .ok plan ∧ base.find? (!Text.isAllBlank ·) = some plan.invocation.program
  words : ∀ plan, outcome = .ok plan → plan.invocation.words =
    base.filter (!Text.isAllBlank ·) ++
      ((Invocation.addedWords e).filter (!Text.isAllBlank ·) ++ e.passthrough)

namespace BeginsWith

variable {ε ε' : Type} {base : List String} {e : Expansion} {outcome : Except ε Plan}

theorem mapError (h : BeginsWith base e outcome) (f : ε → ε') :
    BeginsWith base e (outcome.mapError f) where
  planned hshown := by
    obtain ⟨plan, rfl, hprogram⟩ := h.planned hshown
    exact ⟨plan, rfl, hprogram⟩
  words plan hplan := h.words plan (eq_ok_of_mapError hplan)

theorem whole (h : BeginsWith base e outcome) (hne : base ≠ [])
    (hshown : ∀ part ∈ base, Text.isAllBlank part = false) :
    ∃ plan, outcome = .ok plan ∧
      base <+: plan.invocation.words ∧ base.head? = some plan.invocation.program := by
  have hfilter : base.filter (!Text.isAllBlank ·) = base :=
    List.filter_eq_self.2 fun part hpart => by
    simp [hshown part hpart]
  obtain ⟨part, hpart⟩ := List.exists_mem_of_ne_nil base hne
  obtain ⟨plan, hplan, hprogram⟩ := h.planned ⟨part, hpart, hshown part hpart⟩
  refine ⟨plan, hplan, ?_, ?_⟩
  · rw [h.words plan hplan, hfilter]
    exact List.prefix_append _ _
  · rw [← hprogram, ← List.head?_filter, hfilter]

end BeginsWith

namespace Workspace

variable {w : Workspace} {context : Context} {words ws : List String} {line : String}

theorem planBase_begins (label : String)
    (hb : ∀ f ∈ ((w.expander context).expand words).fragments.before,
      (Assignment.ofFragment? f).isSome) :
    BeginsWith ws ((w.expander context).expand words) (w.planBase label ws context words) where
  planned := by
    rintro ⟨part, hpart, hshown⟩
    obtain ⟨i, hbuild, hprogram⟩ := Invocation.exists_build_of_shown hb hpart hshown
    exact ⟨_, by rw [planBase, hbuild]; rfl, hprogram⟩
  words plan hplan := by
    obtain ⟨i, hbuild, hplan⟩ := exists_of_bind_eq_ok hplan
    obtain rfl := Except.ok.inj hplan
    exact Invocation.words_of_build hbuild hb

/-- The words of a configured line that are not blank come first in the process, for a command and
for a target of a package alike, as long as no flag needs a shell. -/
theorem configured_words_come_first (w : Workspace) (hws : ws ≠ []) :
    (∀ name line words, w.config.commands.get? name = some line → Words.split line = some ws →
      (∀ f ∈ ((w.expander {}).expand words).fragments.before, (Assignment.ofFragment? f).isSome) →
      BeginsWith ws ((w.expander {}).expand words) (w.planCommand name words)) ∧
    ∀ short word line flags r,
      w.resolveFor short word = .ok r → w.config.resolveTarget word = ⟨line, .external⟩ →
      Words.split line = some ws →
      (∀ f ∈ ((w.expander (.ofResolution r line)).expand flags).fragments.before,
        (Assignment.ofFragment? f).isSome) →
      BeginsWith ws ((w.expander (.ofResolution r line)).expand flags)
        (w.planAlias short word flags) := by
  constructor
  · intro name line words hline hsplit hb
    have hsome : Words.splitSome line = some ws :=
      Option.filter_eq_some_iff.2 ⟨hsplit, by simpa using hws⟩
    have hplan : w.planCommand name words = (w.planBase name ws {} words).mapError .run := by
      simp only [planCommand, hline, hsome]
    exact hplan ▸ (planBase_begins name hb).mapError CommandError.run
  · intro short word line flags r hresolve hline hsplit hb
    have hplan : w.planAlias short word flags =
        (w.planBase r.project ws (.ofResolution r line) flags).mapError .run := by
      simp only [planAlias, hresolve, planResolved, targetBase_of_split hline hsplit hws, hline]
      rfl
    exact hplan ▸ (planBase_begins r.project hb).mapError CommandError.run

def quoting : Workspace where
  config :=
    { packages := .ofList [("dc", .direct "@fux/dc")]
      targets := some { external := some (.ofList [("hi", "say 'a b' it\"'\"s")]) }
      environmentFlags := .ofList [("sto", .literal "PAE_TIMEOUT=9")]
      commands := .ofList [("p", "printf '%s|' a '' x"), ("q", "' ' x y")] }
  settings := {}
  environment := ∅

theorem configured_words_come_first_quoting :
    (∃ plan, quoting.planCommand "p" ["--sto", "z"] = .ok plan ∧
      plan.invocation.words = ["printf", "%s|", "a", "x", "z"]) ∧
    ∃ plan, quoting.planAlias "dc" "hi" ["--sto"] = .ok plan ∧
      ["say", "a b", "it's"] <+: plan.invocation.words ∧
      plan.invocation.program = "say" := by
  have hcommand : ["printf", "%s|", "a", "", "x"] ≠ [] := by decide
  have htarget : ["say", "a b", "it's"] ≠ [] := by decide
  constructor
  · have hbegins :=
      (configured_words_come_first quoting hcommand).1 "p" "printf '%s|' a '' x" ["--sto", "z"]
      (by decide +kernel) (by decide +kernel) (by decide +kernel)
    obtain ⟨plan, hplan, -⟩ := hbegins.planned ⟨"a", by decide, by decide⟩
    exact ⟨plan, hplan, (hbegins.words plan hplan).trans (by decide +kernel)⟩
  · have hresolve : quoting.resolveFor "dc" "hi" = .ok (.ofProject "@fux/dc" "dc") :=
      eq_ok_of_toOption (by decide +kernel)
    have hbegins :=
      (configured_words_come_first quoting htarget).2 "dc" "hi" "say 'a b' it\"'\"s" ["--sto"] _
      hresolve (by decide +kernel) (by decide +kernel) (by decide +kernel)
    obtain ⟨plan, hplan, hprefix, hprogram⟩ := hbegins.whole htarget (by decide)
    exact ⟨plan, hplan, hprefix, (Option.some.inj hprogram).symm⟩

/-- A quoted word without a visible character is not handed on, and the word behind it is started
where it is first. -/
theorem blank_words_left_out :
    ((quoting.expander {}).expand []).fragments.before = [] ∧
    Words.split "printf '%s|' a '' x" = some ["printf", "%s|", "a", "", "x"] ∧
    (quoting.planCommand "p" []).toOption.map (·.invocation.words) =
      some ["printf", "%s|", "a", "x"] ∧
    Words.split "' ' x y" = some [" ", "x", "y"] ∧
    (quoting.planCommand "q" []).toOption.map (·.invocation.program) = some "x" := by
  refine ⟨by decide +kernel, by decide +kernel, by decide +kernel, by decide +kernel,
    by decide +kernel⟩

end Workspace

end Shorthand
