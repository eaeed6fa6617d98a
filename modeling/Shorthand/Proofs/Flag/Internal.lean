import Shorthand.Plan
import Shorthand.Proofs.Override
import Shorthand.Proofs.Success
/-!
Internal flags are switches for this program itself. What their templates say and where they are
placed has no influence on the command: it is the same as if they had none.
-/
set_option autoImplicit false

namespace Shorthand

/-- What an expansion puts into a command, without the switches for this program. -/
def Expansion.command (e : Expansion) : Expansion := { e with internal := [] }

@[simp] theorem Expansion.command_append (e f : Expansion) :
    (e ++ f).command = e.command ++ f.command := rfl

theorem Expansion.command_eq_iff {e f : Expansion} : e.command = f.command ↔
    e.fragments = f.fragments ∧
      e.bindings = f.bindings ∧ e.passthrough = f.passthrough ∧ e.applied = f.applied := by
  simp [Expansion.command]

namespace Flag

/-- An internal flag without its templates. Any other flag is left as it is. -/
def muted (f : Flag) : Flag :=
  if f.kind = .internal then { kind := .internal, defaults := f.defaults } else f

variable {f : Flag}

theorem kind_muted (f : Flag) : f.muted.kind = f.kind := by
  unfold muted
  split
  · rename_i h
    exact h.symm
  · rfl

theorem defaults_muted (f : Flag) : f.muted.defaults = f.defaults := by
  unfold muted
  split <;> rfl

theorem takesValue_muted (f : Flag) : f.muted.takesValue = f.takesValue := by
  rw [takesValue, defaults_muted, takesValue]

theorem scope_muted (f : Flag) (context : Context) (value : Option String) (scope : Variables) :
    f.muted.scope context value scope = f.scope context value scope := by
  simp only [Flag.scope, kind_muted, defaults_muted]

theorem command_expand_muted (f : Flag) (key : String) (shell : Shell) (scope : Variables) :
    (f.muted.expand key shell scope).command = (f.expand key shell scope).command := by
  by_cases h : f.kind = .internal
  · simp only [Flag.expand, kind_muted, h, if_true, Expansion.command]
  · rw [muted, if_neg h]

end Flag

def Reading.muted : Reading → Reading
  | plain => plain
  | single key flag value => single key flag.muted value
  | bundle flags => bundle (flags.map fun e => (e.1, e.2.muted))

namespace Expander

variable {x y : Expander}

def muted (x : Expander) : Expander := { x with table := x.table.map Flag.muted }

theorem members?_muted (x : Expander) (key : String) :
    x.muted.members? key = (x.members? key).map (List.map fun e => (e.1, e.2.muted)) := by
  unfold members?
  induction key.toList with
  | nil => rfl
  | cons c cs ih =>
    have hget : x.muted.table.get? c.toString = (x.table.get? c.toString).map Flag.muted :=
      SortedMap.get?_map _ _ _
    rw [List.mapM_cons, List.mapM_cons, ih, hget]
    cases x.table.get? c.toString with
    | none => rfl
    | some flag => cases cs.mapM fun c => (x.table.get? c.toString).map (c.toString, ·) <;> rfl

theorem reading_muted (x : Expander) (word : String) :
    x.muted.reading word = (x.reading word).muted := by
  unfold reading
  cases FlagToken.ofWord? word with
  | none => rfl
  | some token =>
    have hget : x.muted.table.get? token.key = (x.table.get? token.key).map Flag.muted :=
      SortedMap.get?_map _ _ _
    simp only [hget]
    cases x.table.get? token.key with
    | some flag => rfl
    | none =>
      simp only [Option.map_none, members?_muted]
      split
      · cases x.members? token.key <;> rfl
      · rfl

theorem command_single_muted (x : Expander) (key : String) (flag : Flag) (value : Option String) :
    (x.muted.single key flag.muted value).command = (x.single key flag value).command := by
  rw [single, Flag.scope_muted, Flag.command_expand_muted]
  rfl

theorem command_bundle_muted (x : Expander) (scope : Variables) (flags : List (String × Flag)) :
    (x.muted.bundle scope (flags.map fun e => (e.1, e.2.muted))).command =
      (x.bundle scope flags).command := by
  induction flags generalizing scope with
  | nil => rfl
  | cons e flags ih =>
    rw [List.map_cons, bundle, bundle, Expansion.command_append, Expansion.command_append,
      Flag.scope_muted, Flag.command_expand_muted, ih]
    rfl

theorem command_expandHead_muted (x : Expander) (words : List String) :
    (x.muted.expandHead words).command = (x.expandHead words).command := by
  fun_induction expandHead x words with
  | case1 => rfl
  | case2 word rest hr ih =>
    rw [expandHead, reading_muted, hr]
    exact congrArg ((Expansion.ofWords [word]).command ++ ·) ih
  | case3 word rest flags hr ih =>
    rw [expandHead, reading_muted, hr]
    exact congrArg₂ (· ++ ·) (command_bundle_muted x ∅ flags) ih
  | case4 word key flag value hr next rest ht ih =>
    rw [expandHead, reading_muted, hr]
    simp only [Reading.muted, Flag.takesValue_muted, ht, if_true]
    exact congrArg₂ (· ++ ·) (command_single_muted x key flag _) ih
  | case5 word key flag value hr next rest ht ih =>
    rw [expandHead, reading_muted, hr]
    simp only [Reading.muted, Flag.takesValue_muted, ht, if_false, Bool.false_eq_true]
    exact congrArg₂ (· ++ ·) (command_single_muted x key flag _) ih
  | case6 word key flag value hr =>
    rw [expandHead, reading_muted, hr]
    exact command_single_muted x key flag _

theorem command_expand_muted (x : Expander) (words : List String) :
    (x.muted.expand words).command = (x.expand words).command := by
  rw [expand, expand, Expansion.command_append, command_expandHead_muted]
  rfl

end Expander

/-- The variables that an entry declares, without its templates. -/
def FlagEntry.defaults : FlagEntry → List (String × Json.Value)
  | .literal _ => []
  | .detailed flag => flag.defaults

namespace Config

variable {c d : Config}

/-- The configurations differ at most in the templates of internal flags and in the positions of
these. -/
structure AgreesButInternalTemplates (c d : Config) : Prop where
  others : d = { c with internalFlags := d.internalFlags }
  defaults : c.internalFlags.map FlagEntry.defaults = d.internalFlags.map FlagEntry.defaults

theorem muted_ofEntry_internal (entry : FlagEntry) : (Flag.ofEntry .internal entry).muted =
    { kind := .internal, defaults := entry.defaults.map fun d => (d.1, Flag.defaultText d.2) } := by
  cases entry <;> rfl

theorem map_muted_flagsOf (h : c.AgreesButInternalTemplates d) (kind : FlagKind) :
    ((c.flagsOf kind).map (Flag.ofEntry kind)).map Flag.muted =
      ((d.flagsOf kind).map (Flag.ofEntry kind)).map Flag.muted := by
  have hmuted : Flag.muted ∘ Flag.ofEntry .internal = (fun defaults : List (String × Json.Value) =>
      { kind := .internal, defaults := defaults.map fun d => (d.1, Flag.defaultText d.2) }) ∘
        FlagEntry.defaults :=
    funext muted_ofEntry_internal
  cases kind with
  | internal =>
    rw [SortedMap.map_map, SortedMap.map_map, hmuted, ← SortedMap.map_map, ← SortedMap.map_map]
    exact congrArg _ h.defaults
  | expandable | contextAware | environment => rw [h.others]; rfl

theorem map_muted_flagTable (h : c.AgreesButInternalTemplates d) :
    c.flagTable.map Flag.muted = d.flagTable.map Flag.muted := by
  simp only [flagTable, List.foldl_cons, List.foldl_nil, SortedMap.map_override,
    map_muted_flagsOf h]

end Config

namespace Workspace

variable {v w : Workspace}

theorem command_expand_eq (hconfig : v.config.AgreesButInternalTemplates w.config)
    (henv : v.environment = w.environment) (context : Context) (words : List String) :
    ((v.expander context).expand words).command = ((w.expander context).expand words).command := by
  have hshell : v.shell = w.shell := congrArg Shell.detect henv
  have hmuted : (v.expander context).muted = (w.expander context).muted := by
    simp only [expander, Expander.muted, Config.map_muted_flagTable hconfig, hshell]
  -- Muted, the two are one expander.
  rw [← Expander.command_expand_muted, hmuted, Expander.command_expand_muted]

theorem build_expand_eq (hconfig : v.config.AgreesButInternalTemplates w.config)
    (henv : v.environment = w.environment) (base : List String) (context : Context)
    (words : List String) :
    Invocation.build v.shell base ((v.expander context).expand words) =
      Invocation.build w.shell base ((w.expander context).expand words) := by
  have hshell : v.shell = w.shell := congrArg Shell.detect henv
  obtain ⟨hfragments, -, hpass, -⟩ :=
    Expansion.command_eq_iff.1 (command_expand_eq hconfig henv context words)
  rw [Invocation.build, Invocation.build, hshell, hfragments, hpass]

/-- Internal flags have no part in the command. Whatever their templates say and wherever these are
placed, the words are expanded alike but for the switches of this program, and what is built around
a base is the same process or the same error. -/
theorem build_of_internalTemplates (hconfig : v.config.AgreesButInternalTemplates w.config)
    (henv : v.environment = w.environment) (context : Context) (words : List String) :
    ((v.expander context).expand words).fragments.before =
      ((w.expander context).expand words).fragments.before ∧
    ((v.expander context).expand words).fragments.after =
      ((w.expander context).expand words).fragments.after ∧
    ((v.expander context).expand words).passthrough =
      ((w.expander context).expand words).passthrough ∧
    ((v.expander context).expand words).applied = ((w.expander context).expand words).applied ∧
    ((v.expander context).expand words).bindings = ((w.expander context).expand words).bindings ∧
    ∀ base, Invocation.build v.shell base ((v.expander context).expand words) =
      Invocation.build w.shell base ((w.expander context).expand words) := by
  obtain ⟨hfragments, hbindings, hpass, happlied⟩ :=
    Expansion.command_eq_iff.1 (command_expand_eq hconfig henv context words)
  exact ⟨congrArg _ hfragments, congrArg _ hfragments, hpass, happlied, hbindings,
    fun base => build_expand_eq hconfig henv base context words⟩

def switching (entry : FlagEntry) : Workspace where
  config :=
    { expandableFlags := .ofList [("f", .literal "--fix")]
      internalFlags := .ofList [("e", entry)] }
  settings := {}
  environment := ∅

/-- One flag echoes, and the other would add a command of its own if it were no internal one. -/
theorem build_of_internalTemplates_switching :
    (((switching (.literal "--pae-echo")).expander {}).expand ["-fe", "-e", "x"]).internal =
      ["pae-echo", "pae-echo"] ∧
    (((switching (.detailed { template := some "rm", position := some .start })).expander {}).expand
      ["-fe", "-e", "x"]).internal = ["rm", "rm"] ∧
    Invocation.build (switching (.literal "--pae-echo")).shell ["nx"]
        (((switching (.literal "--pae-echo")).expander {}).expand ["-fe", "-e", "x"]) =
      Invocation.build
        (switching (.detailed { template := some "rm", position := some .start })).shell ["nx"]
        (((switching
          (.detailed { template := some "rm", position := some .start })).expander {}).expand
            ["-fe", "-e", "x"]) := by
  have hconfig : (switching (.literal "--pae-echo")).config.AgreesButInternalTemplates
      (switching (.detailed { template := some "rm", position := some .start })).config :=
    ⟨rfl, by decide +kernel⟩
  obtain ⟨-, -, -, -, -, hbuild⟩ := build_of_internalTemplates hconfig rfl {} ["-fe", "-e", "x"]
  exact ⟨by decide +kernel, by decide +kernel, hbuild ["nx"]⟩

end Workspace

end Shorthand
