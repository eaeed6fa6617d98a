import Shorthand.Pool.Basic
import Shorthand.Proofs.Invocation.Configured
/-!
Whether the settings that the environment gives can be used. A size that can be read may still be
too large for a pool, and a command that can be read may begin with a blank word, which is never
started.
-/
set_option autoImplicit false

namespace Shorthand

namespace Workspace

variable {w : Workspace} {r : Resolution} {word : String} {flags : List String}

/-- The first word that is not blank is what a target of the task runner starts, as long as no flag
needs a shell. -/
theorem planResolved_begins (ht : (w.config.resolveTarget word).tier ≠ .external)
    (hb : ∀ f ∈ ((w.expander
        (.ofResolution r (w.config.resolveTarget word).target)).expand flags).fragments.before,
      (Assignment.ofFragment? f).isSome) :
    ∃ plan, w.planResolved r word flags = .ok plan ∧
      (w.settings.nxCommand ++
        ["run", r.project ++ ":" ++ (w.config.resolveTarget word).target]).find?
        (!Text.isAllBlank ·) = some plan.invocation.program := by
  generalize hwords : w.settings.nxCommand ++
    ["run", r.project ++ ":" ++ (w.config.resolveTarget word).target] = words
  have hbase : w.targetBase r.project word = .ok words := by
    simp only [targetBase, ht, if_false, hwords]
  have hrun : "run" ∈ words := by simp [← hwords]
  have hbegins : BeginsWith words _ (w.planBase r.project words _ flags) :=
    planBase_begins r.project hb
  obtain ⟨plan, hplan, hprogram⟩ :=
    (hbegins.mapError CommandError.run).planned ⟨"run", hrun, by decide⟩
  exact ⟨plan, by rw [planResolved, hbase]; exact hplan, hprogram⟩

end Workspace

namespace Settings

variable {env : Environment} {processors : Option Nat}

theorem readVariable_fst {α : Type} (env : Environment) (name : String) (default : α)
    (read : String → Option α) (warning : String → Warning) :
    (readVariable env name default read warning).1 = ((env.get? name).bind read).getD default := by
  unfold readVariable
  cases env.get? name with
  | none => rfl
  | some raw => cases h : read raw <;> simp [h]

theorem poolSize_ofEnvironment (env : Environment) (processors : Option Nat) :
    (ofEnvironment env processors).1.poolSize =
      ((env.get? "PAE_POOL_SIZE").bind poolSize?).getD (processors.getD 4) := by
  simp only [ofEnvironment, readVariable_fst, usualPoolSize]

theorem nxCommand_ofEnvironment (env : Environment) (processors : Option Nat) :
    (ofEnvironment env processors).1.nxCommand =
      ((env.get? "PAE_NX_COMMAND").bind Words.splitSome).getD ["npx", "nx"] := by
  simp only [ofEnvironment, readVariable_fst]

/-- The environment asks for no pool beyond the limit. -/
def SizeFits (env : Environment) : Prop :=
  ∀ raw n, env.get? "PAE_POOL_SIZE" = some raw →
    natural? (Text.trim raw) = some n → n ≤ Pool.capacityLimit

/-- The environment names no command with a blank word in front. -/
def CommandShows (env : Environment) : Prop :=
  ∀ raw first rest, env.get? "PAE_NX_COMMAND" = some raw → Words.split raw = some (first :: rest) →
    Text.isAllBlank first = false

/-- The number of processors, where it is known, is the size of a pool. -/
def IsCount (processors : Option Nat) : Prop :=
  ∀ n, processors = some n → 1 ≤ n ∧ n ≤ Pool.capacityLimit

theorem IsCount.usualPoolSize (h : IsCount processors) :
    1 ≤ processors.getD 4 ∧ processors.getD 4 ≤ Pool.capacityLimit := by
  cases processors with
  | none => decide
  | some n => exact h n rfl

theorem one_le_poolSize (env : Environment) (hp : IsCount processors) :
    1 ≤ (ofEnvironment env processors).1.poolSize := by
  rw [poolSize_ofEnvironment]
  cases h : (env.get? "PAE_POOL_SIZE").bind poolSize? with
  | none => exact hp.usualPoolSize.1
  | some n =>
    obtain ⟨raw, -, hsize⟩ := Option.bind_eq_some_iff.1 h
    exact of_decide_eq_true (Option.filter_eq_some_iff.1 hsize).2

theorem poolSize_le_iff (env : Environment) (hp : IsCount processors) :
    (ofEnvironment env processors).1.poolSize ≤ Pool.capacityLimit ↔ SizeFits env := by
  rw [poolSize_ofEnvironment]
  constructor
  · intro h raw n hraw hread
    by_cases hn : 0 < n
    · have hsize : poolSize? raw = some n := Option.filter_eq_some_iff.2 ⟨hread, by simpa using hn⟩
      simpa [hraw, hsize] using h
    · omega
  · intro h
    cases hsize : (env.get? "PAE_POOL_SIZE").bind poolSize? with
    | none => exact hp.usualPoolSize.2
    | some n =>
      obtain ⟨raw, hraw, hread⟩ := Option.bind_eq_some_iff.1 hsize
      exact h raw n hraw (Option.filter_eq_some_iff.1 hread).1

theorem exists_nxCommand_eq_cons (env : Environment) (processors : Option Nat) :
    ∃ first rest, (ofEnvironment env processors).1.nxCommand = first :: rest := by
  rw [nxCommand_ofEnvironment]
  cases h : (env.get? "PAE_NX_COMMAND").bind Words.splitSome with
  | none => exact ⟨_, _, rfl⟩
  | some words =>
    obtain ⟨raw, -, hwords⟩ := Option.bind_eq_some_iff.1 h
    exact List.exists_cons_of_ne_nil (by simpa using (Option.filter_eq_some_iff.1 hwords).2)

theorem shows_iff {first : String} {rest : List String}
    (h : (ofEnvironment env processors).1.nxCommand = first :: rest) :
    Text.isAllBlank first = false ↔ CommandShows env := by
  rw [nxCommand_ofEnvironment] at h
  constructor
  · intro hfirst raw first' rest' hraw hsplit
    have hsome : Words.splitSome raw = some (first' :: rest') :=
      Option.filter_eq_some_iff.2 ⟨hsplit, by simp⟩
    rw [hraw, Option.bind_some, hsome] at h
    obtain ⟨rfl, -⟩ := List.cons.inj h
    exact hfirst
  · intro hshows
    cases hwords : (env.get? "PAE_NX_COMMAND").bind Words.splitSome with
    | none =>
      rw [hwords] at h
      obtain ⟨rfl, -⟩ := List.cons.inj h
      decide
    | some words =>
      rw [hwords] at h
      obtain rfl : words = first :: rest := h
      obtain ⟨raw, hraw, hsome⟩ := Option.bind_eq_some_iff.1 hwords
      exact hshows raw first rest hraw (Option.filter_eq_some_iff.1 hsome).1

/-- There is a pool for the settings exactly if the size that the environment asks for is within the
limit. The first word of the command is what targets start exactly if the command that the
environment names has no blank word in front; something is started in any case. -/
theorem usable_iff (env : Environment) (processors : Option Nat) (hp : IsCount processors) :
    1 ≤ (ofEnvironment env processors).1.poolSize ∧
    ((∃ pool, Pool.ofCapacity? (ofEnvironment env processors).1.poolSize = some pool) ↔
      SizeFits env) ∧
    ∃ first rest, (ofEnvironment env processors).1.nxCommand = first :: rest ∧
      (Text.isAllBlank first = false ↔ CommandShows env) ∧
      ∀ (w : Workspace) (r : Resolution) word flags, w.settings = (ofEnvironment env processors).1 →
        (w.config.resolveTarget word).tier ≠ .external →
        (∀ f ∈ ((w.expander
            (.ofResolution r (w.config.resolveTarget word).target)).expand flags).fragments.before,
          (Assignment.ofFragment? f).isSome) →
        ∃ plan, w.planResolved r word flags = .ok plan ∧
          (plan.invocation.program = first ↔ CommandShows env) := by
  obtain ⟨first, rest, hcommand⟩ := exists_nxCommand_eq_cons env processors
  have hshows := shows_iff hcommand
  refine ⟨one_le_poolSize env hp, ?_, first, rest, hcommand, hshows, ?_⟩
  · rw [← poolSize_le_iff env hp, Pool.ofCapacity?]
    split <;> simp [*]
  · intro w r word flags hsettings htier hbefore
    obtain ⟨plan, hplan, hprogram⟩ := Workspace.planResolved_begins htier hbefore
    refine ⟨plan, hplan, ?_⟩
    rw [hsettings, hcommand, List.cons_append] at hprogram
    rw [← hshows]
    constructor
    · rintro rfl
      simpa using List.find?_some hprogram
    · intro hfirst
      rw [List.find?_cons_of_pos (by simp [hfirst])] at hprogram
      exact (Option.some.inj hprogram).symm

def quoted : Environment :=
  .ofList [("PAE_NX_COMMAND", " 'my nx'  --quiet"), ("PAE_POOL_SIZE", " +08 ")]

def oneAlias : Config :=
  { packages := .ofList [("dc", .direct "@fux/dc")],
    environmentFlags := .ofList [("sto", .literal "PAE_TIMEOUT=9")] }

def unsized : Environment := .ofList [("PAE_NX_COMMAND", "pnpm exec nx")]

theorem usable_iff_quoted :
    (ofEnvironment unsized (some 12)).1.poolSize = 12 ∧
    (∃ pool, Pool.ofCapacity? (ofEnvironment unsized (some 12)).1.poolSize = some pool) ∧
    (ofEnvironment unsized none).1.poolSize = 4 ∧
    (ofEnvironment quoted none).1.poolSize = 8 ∧
    (∃ pool, Pool.ofCapacity? (ofEnvironment quoted none).1.poolSize = some pool) ∧
    ∃ plan,
      Workspace.planResolved ⟨oneAlias, (ofEnvironment quoted none).1, ∅⟩
        (.ofProject "@fux/dc" "dc") "b" ["--sto"] = .ok plan ∧
      plan.invocation.program = "my nx" := by
  have hunknown : IsCount none := fun n h => nomatch h
  have htwelve : IsCount (some 12) := by
    rintro n ⟨⟩
    decide
  obtain ⟨-, hpool, first, rest, hcommand, -, hplanned⟩ := usable_iff quoted none hunknown
  have hsize : quoted.get? "PAE_POOL_SIZE" = some " +08 " := by decide
  have hline : quoted.get? "PAE_NX_COMMAND" = some " 'my nx'  --quiet" := by decide
  have hfits : SizeFits quoted := by
    intro raw n hraw hread
    obtain rfl := Option.some.inj (hsize.symm.trans hraw)
    have height : natural? (Text.trim " +08 ") = some 8 := by decide +kernel
    obtain rfl := Option.some.inj (height.symm.trans hread)
    decide
  have hunsized : SizeFits unsized := by
    intro raw n hraw
    have hnone : unsized.get? "PAE_POOL_SIZE" = none := by decide
    cases hnone.symm.trans hraw
  have hshows : CommandShows quoted := by
    intro raw first rest hraw hsplit
    obtain rfl := Option.some.inj (hline.symm.trans hraw)
    have hwords : Words.split " 'my nx'  --quiet" = some ["my nx", "--quiet"] := by decide +kernel
    obtain ⟨rfl, -⟩ := List.cons.inj (Option.some.inj (hwords.symm.trans hsplit))
    decide
  have hfirst : (ofEnvironment quoted none).1.nxCommand = ["my nx", "--quiet"] := by decide +kernel
  obtain ⟨rfl, -⟩ := List.cons.inj (hcommand.symm.trans hfirst)
  obtain ⟨plan, hplan, hprogram⟩ :=
    hplanned ⟨oneAlias, (ofEnvironment quoted none).1, ∅⟩ (.ofProject "@fux/dc" "dc") "b"
    ["--sto"] rfl (by decide +kernel) (by decide +kernel)
  exact ⟨by decide +kernel, (usable_iff unsized (some 12) htwelve).2.1.2 hunsized,
    by decide +kernel, by decide +kernel, hpool.2 hfits, plan, hplan, hprogram.2 hshows⟩

/-- A size that can be read but is too large for a pool. -/
def oversized : Environment := .ofList [("PAE_POOL_SIZE", "2305843009213693952")]

/-- A command that can be read but begins with an empty word. -/
def nameless : Environment := .ofList [("PAE_NX_COMMAND", "'' nx")]

theorem not_usable :
    IsCount (some 12) ∧
    ofEnvironment oversized (some 12) = ({ poolSize := 2305843009213693952 }, []) ∧
    Pool.ofCapacity? 2305843009213693952 = none ∧
    ofEnvironment nameless (some 12) = ({ poolSize := 12, nxCommand := ["", "nx"] }, []) ∧
      Text.isAllBlank "" = true ∧
    (Workspace.planAlias
      ⟨oneAlias, { poolSize := 12, nxCommand := ["", "nx"] }, ∅⟩ "dc" "b" []).toOption.map
        (·.invocation.words) = some ["nx", "run", "@fux/dc:b"] := by
  have hcount : IsCount (some 12) := by
    rintro n ⟨⟩
    decide
  refine ⟨hcount, by decide +kernel, by decide +kernel, by decide +kernel, by decide,
    by decide +kernel⟩

end Settings

end Shorthand
