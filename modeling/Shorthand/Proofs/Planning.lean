import Shorthand.Plan
import Shorthand.Proofs.Config.NulFree
import Shorthand.Proofs.Invocation.Building
/-!
What can keep an alias of a valid configuration from being planned. The checks of the configuration
rule out that an alias stands for nothing; they look neither at the variants that features name nor
at the lines of external targets.
-/
set_option autoImplicit false

namespace Shorthand.Workspace

open Words (NulFree)

/-- Why nothing can be started for a target of what an alias was resolved to. -/
inductive LineFault (w : Workspace) (r : Resolution) (word : String) (flags : List String) :
    CommandError → Prop
  /-- The line of the target cannot be read, or has no words. -/
  | unread {line : String} (external : w.config.resolveTarget word = ⟨line, .external⟩)
      (unread : ∀ words, Words.split line = some words → words = []) :
      LineFault w r word flags (.badLine word)
  /-- All words of the line are blank, and the flags add none that is not. -/
  | blank {line : String} {words : List String}
      (external : w.config.resolveTarget word = ⟨line, .external⟩)
      (read : Words.split line = some words) (some : words ≠ [])
      (blank : ∀ part ∈ words ++
        Invocation.addedWords ((w.expander (.ofResolution r line)).expand flags),
        Text.isAllBlank part = true)
      (passthrough : ((w.expander (.ofResolution r line)).expand flags).passthrough = []) :
      LineFault w r word flags (.run .emptyCommand)

/-- Why nothing can be started for an alias and a target. -/
inductive Fault (w : Workspace) (short word : String) (flags : List String) : CommandError → Prop
  /-- The feature is to be run from a variant that the package of the alias does not have. -/
  | variant {name variant : String} {p : StructuredPackage}
      (feature : w.config.featureVariant? word = some variant)
      (entry : (name, .structured p) ∈ w.config.packages.entries) (base : short ∈ p.aliases)
      (undeclared : variant ∉ p.variants.keys) :
      Fault w short word flags (.resolve (.unknownVariant name variant))
  | line {r : Resolution} {error : CommandError} (resolved : w.config.resolve short = .ok r)
      (fault : w.LineFault r word flags error) : Fault w short word flags error

variable {w : Workspace} {r : Resolution} {short word line : String} {flags : List String}

theorem LineFault.external {error : CommandError} (h : w.LineFault r word flags error) :
    (w.config.resolveTarget word).tier = .external := by
  cases h with
  | unread hline _ => rw [hline]
  | blank hline => rw [hline]

theorem resolveFor_of_external (h : (w.config.resolveTarget word).tier = .external) :
    w.resolveFor short word = w.config.resolve short := by
  have hnone : w.config.featureVariant? word = none :=
    Option.eq_none_iff_forall_ne_some.2 fun variant hvariant => by
    simp [Config.tier_of_featureVariant? hvariant] at h
  simp only [resolveFor, hnone]

theorem resolveFor_eq_error_iff (hc : w.config.isValid = true) (ha : w.config.hasAlias short = true)
    {error : ResolveError} :
    w.resolveFor short word = .error error ↔
      ∃ name variant p, w.config.featureVariant? word = some variant ∧
        (name, .structured p) ∈ w.config.packages.entries ∧
          short ∈ p.aliases ∧ variant ∉ p.variants.keys ∧
        error = .unknownVariant name variant := by
  obtain ⟨r, hr⟩ := Config.exists_resolve ha
  constructor
  · intro h
    unfold resolveFor at h
    split at h
    · rename_i variant hvariant
      split at h
      · rename_i hbase
        obtain ⟨name, p, htarget, hp, hshort⟩ := Config.isBaseAlias_iff.1 hbase
        rw [Config.resolveVariant_of_package htarget hp] at h
        split at h
        · cases h
        · rename_i hlacking
          rw [SortedMap.contains_iff_mem_keys] at hlacking
          exact ⟨name, variant, p, hvariant, Config.structuredPackage?_eq_some_iff.1 hp,
            hshort, hlacking, (Except.error.inj h).symm⟩
      · cases hr.symm.trans h
    · cases hr.symm.trans h
  · rintro ⟨name, variant, p, hvariant, hentry, hshort, hlacking, rfl⟩
    have hp := Config.structuredPackage?_eq_some_iff.2 hentry
    have htarget := (Config.Claims.base hentry hshort).aliasTarget?_eq hc
    have hbase : w.config.isBaseAlias short = true :=
      Config.isBaseAlias_iff.2 ⟨name, p, htarget, hp, hshort⟩
    rw [← SortedMap.contains_iff_mem_keys] at hlacking
    simp only [resolveFor, hvariant, hbase, if_true, Config.resolveVariant_of_package htarget hp,
      if_neg hlacking]

theorem targetBase_of_split {project : String} {words : List String}
    (hline : w.config.resolveTarget word = ⟨line, .external⟩)
    (hread : Words.split line = some words) (hsome : words ≠ []) :
    w.targetBase project word = .ok words := by
  have hwords : Words.splitSome line = some words :=
    Option.filter_eq_some_iff.2 ⟨hread, by simpa using hsome⟩
  simp [targetBase, hline, hwords]

theorem splitSome_eq_none_iff :
    Words.splitSome line = none ↔ ∀ words, Words.split line = some words → words = [] := by
  simp [Words.splitSome]

theorem targetBase_eq_error_iff {project : String} {error : CommandError} :
    w.targetBase project word = .error error ↔
      ∃ line, w.config.resolveTarget word = ⟨line, .external⟩ ∧
        (∀ words, Words.split line = some words → words = []) ∧
        error = .badLine word := by
  simp only [← splitSome_eq_none_iff]
  rcases hresolved : w.config.resolveTarget word with ⟨line, tier⟩
  by_cases htier : tier = .external
  · subst htier
    cases hsplit : Words.splitSome line <;> simp [targetBase, hresolved, hsplit, eq_comm]
  · simp [targetBase, hresolved, htier]

theorem targetBase_cases {project : String} {base : List String}
    (h : w.targetBase project word = .ok base) :
    (∃ line, w.config.resolveTarget word = ⟨line, .external⟩ ∧
      Words.split line = some base ∧ base ≠ []) ∨
      base = w.settings.nxCommand ++
        ["run", project ++ ":" ++ (w.config.resolveTarget word).target] := by
  rcases hresolved : w.config.resolveTarget word with ⟨line, tier⟩
  by_cases htier : tier = .external
  · subst htier
    cases hsplit : Words.splitSome line with
    | none => simp [targetBase, hresolved, hsplit] at h
    | some words =>
      obtain rfl : words = base := by simpa [targetBase, hresolved, hsplit] using h
      exact .inl ⟨line, rfl, by simpa [Words.splitSome] using hsplit⟩
  · simp only [targetBase, hresolved, htier, if_false] at h
    exact .inr (Except.ok.inj h).symm

theorem nulFree_of_targetBase (hnx : ∀ part ∈ w.settings.nxCommand, NulFree part) {project : String}
    (hproject : NulFree project) (htarget : NulFree (w.config.resolveTarget word).target)
    {base : List String} (h : w.targetBase project word = .ok base) :
    ∀ part ∈ base, NulFree part := by
  rcases targetBase_cases h with ⟨line, hline, hread, -⟩ | rfl
  · rw [hline] at htarget
    exact fun part hpart => htarget.of_subset (Words.subset_of_split hread hpart)
  · have hlabel : NulFree (project ++ ":" ++ (w.config.resolveTarget word).target) :=
      (hproject.append (by decide)).append htarget
    exact List.forall_mem_append.2 ⟨hnx, List.forall_mem_cons.2 ⟨by decide, by simpa using hlabel⟩⟩

theorem nulFree_expander (hw : w.config.NulFree) {context : Context}
    (hc : Variables.NulFree context.bindings) :
    (w.expander context).NulFree where
  table _ _ := hw.flagTable
  context := hc

theorem planBase_eq_error_iff {label : String} {base : List String} {context : Context}
    {error : RunError} (hb : ∀ part ∈ base, NulFree part)
    (he : ((w.expander context).expand flags).NulFree) :
    w.planBase label base context flags = .error error ↔ error = .emptyCommand ∧
      (∀ part ∈ base ++ Invocation.addedWords ((w.expander context).expand flags),
        Text.isAllBlank part = true) ∧
      ((w.expander context).expand flags).passthrough = [] := by
  rw [planBase]
  simp only [bind_eq_error_iff, reduceCtorEq, and_false, exists_false, or_false]
  exact Invocation.build_eq_error_iff hb he

/-- What has been resolved cannot be planned only if it is an external target whose line gives
nothing to start. -/
theorem planResolved_eq_error_iff (hw : w.config.NulFree)
    (hnx : ∀ part ∈ w.settings.nxCommand, NulFree part) (hr : r.NulFree) (hword : NulFree word)
    (hflags : ∀ flag ∈ flags, NulFree flag) {error : CommandError} :
    w.planResolved r word flags = .error error ↔ w.LineFault r word flags error := by
  have htarget : NulFree (w.config.resolveTarget word).target := hw.resolveTarget hword
  have he := (nulFree_expander hw (Context.nulFree_ofResolution hr htarget)).expand hflags
  have hbase {base : List String} :
      w.targetBase r.project word = .ok base → ∀ part ∈ base, NulFree part :=
    nulFree_of_targetBase hnx hr.project htarget
  rw [planResolved, bind_eq_error_iff, targetBase_eq_error_iff]
  constructor
  · rintro (⟨line, hline, hunread, rfl⟩ | ⟨base, hok, h⟩)
    · exact .unread hline hunread
    · obtain ⟨runError, hplan, rfl⟩ := mapError_eq_error_iff.1 h
      obtain ⟨rfl, hblank, hpassthrough⟩ := (planBase_eq_error_iff (hbase hok) he).1 hplan
      rcases targetBase_cases hok with ⟨line, hline, hread, hsome⟩ | rfl
      · rw [hline] at hblank hpassthrough
        exact .blank hline hread hsome hblank hpassthrough
      · exact absurd (hblank "run" (by simp)) (by decide)
  · rintro (⟨hline, hunread⟩ | ⟨hline, hread, hsome, hblank, hpassthrough⟩)
    · exact .inl ⟨_, hline, hunread, rfl⟩
    · have hok : w.targetBase r.project word = .ok _ := targetBase_of_split hline hread hsome
      refine .inr ⟨_, hok,
        mapError_eq_error_iff.2 ⟨_, (planBase_eq_error_iff (hbase hok) he).2 ?_, rfl⟩⟩
      rw [hline]
      exact ⟨rfl, hblank, hpassthrough⟩

theorem nulFree_of_resolveFor (hw : w.config.NulFree) (h : w.resolveFor short word = .ok r) :
    r.NulFree := by
  unfold resolveFor at h
  split at h
  · rename_i variant hvariant
    split at h
    · obtain ⟨feature, hfeature, hfrom⟩ := Option.bind_eq_some_iff.1 hvariant
      exact hw.resolveVariant ((hw.feature (SortedMap.get?_eq_some_iff.1 hfeature)).2 variant hfrom)
        h
    · exact hw.resolve h
  · exact hw.resolve h

/-- An alias of a valid configuration fails to be planned just for a feature whose variant its
package lacks and for a line with nothing to start; it is never unknown. -/
theorem planAlias_eq_error_iff (hc : w.config.isValid = true) (hw : w.config.NulFree)
    (hnx : ∀ part ∈ w.settings.nxCommand, NulFree part) (ha : short ∈ w.config.aliases.keys)
    (hword : NulFree word) (hflags : ∀ flag ∈ flags, NulFree flag) :
    (∀ error, w.planAlias short word flags = .error error ↔ w.Fault short word flags error) ∧
    ((∀ error, ¬w.Fault short word flags error) →
      ∃ plan, w.planAlias short word flags = .ok plan) := by
  have halias : w.config.hasAlias short = true := Config.mem_keys_aliases.1 ha
  have hiff (error : CommandError) :
      w.planAlias short word flags = .error error ↔ w.Fault short word flags error := by
    rw [planAlias, bind_eq_error_iff]
    simp only [mapError_eq_error_iff, mapError_eq_ok_iff, resolveFor_eq_error_iff hc halias]
    constructor
    · rintro (⟨_, ⟨name, variant, p, hvariant, hentry, hbase, hlacking, rfl⟩, rfl⟩
        | ⟨r, hresolve, h⟩)
      · exact .variant hvariant hentry hbase hlacking
      · have hfault :=
          (planResolved_eq_error_iff hw hnx (nulFree_of_resolveFor hw hresolve) hword hflags).1 h
        exact .line (resolveFor_of_external hfault.external ▸ hresolve) hfault
    · rintro (⟨hvariant, hentry, hbase, hlacking⟩ | ⟨hresolve, hfault⟩)
      · exact .inl ⟨_, ⟨_, _, _, hvariant, hentry, hbase, hlacking, rfl⟩, rfl⟩
      · refine .inr ⟨_, (resolveFor_of_external hfault.external).trans hresolve, ?_⟩
        exact (planResolved_eq_error_iff hw hnx (hw.resolve hresolve) hword hflags).2 hfault
  refine ⟨hiff, fun hnone => ?_⟩
  cases h : w.planAlias short word flags with
  | ok plan => exact ⟨plan, rfl⟩
  | error error => exact absurd ((hiff error).1 h) (hnone error)

/-- A feature that is to be run from a variant that is not there, a line with an open quote, and one
with an empty word alone. -/
def uneven : Workspace where
  config :=
    { packages := .ofList [("dc", .structured
        { aliases := ["dc"], variants := .ofList [("core", "dcc")], default := "core" })]
      targets := some
        { nx := some (.ofList [("b", "build")])
          external := some (.ofList [("hi", "say 'x"), ("no", "''")]) }
      features := .ofList [("s", ⟨"serve", some "ext"⟩)] }
  settings := {}
  environment := ∅

theorem planAlias_eq_error_iff_uneven :
    (uneven.config.isValid = true ∧ uneven.config.NulFree ∧ "dc" ∈ uneven.config.aliases.keys ∧
      "dcc" ∈ uneven.config.aliases.keys) ∧
    (∃ plan, uneven.planAlias "dcc" "b" ["--prod"] = .ok plan) ∧
    uneven.planAlias "dc" "s" [] = .error (.resolve (.unknownVariant "dc" "ext")) := by
  have hvalid : uneven.config.isValid = true := by decide +kernel
  have hfree : uneven.config.NulFree := by decide +kernel
  have hbase : "dc" ∈ uneven.config.aliases.keys := by decide +kernel
  have hvariant : "dcc" ∈ uneven.config.aliases.keys := by decide +kernel
  have hnx : ∀ part ∈ uneven.settings.nxCommand, NulFree part := by decide
  have hplain : uneven.config.featureVariant? "b" = none := by decide +kernel
  refine ⟨⟨hvalid, hfree, hbase, hvariant⟩, ?_, ?_⟩
  · refine (planAlias_eq_error_iff hvalid hfree hnx hvariant (by decide) (by decide)).2 fun error
      hfault => ?_
    cases hfault with
    | variant feature _ _ _ => exact absurd (hplain.symm.trans feature) (by simp)
    | line _ fault => exact absurd fault.external (by decide +kernel)
  · refine ((planAlias_eq_error_iff hvalid hfree hnx hbase (by decide) (by decide)).1 _).2 ?_
    exact .variant (by decide +kernel) (List.mem_cons_self ..) (by decide) (by decide +kernel)

theorem planAlias_uneven :
    (uneven.config.isValid = true ∧ uneven.config.NulFree ∧ "dc" ∈ uneven.config.aliases.keys ∧
      uneven.settings.nxCommand = ["npx", "nx"]) ∧
    uneven.planAlias "dc" "s" [] = .error (.resolve (.unknownVariant "dc" "ext")) ∧
    uneven.planAlias "dc" "hi" [] = .error (.badLine "hi") ∧
    uneven.planAlias "dc" "no" [] = .error (.run .emptyCommand) ∧
    ¬∀ short ∈ uneven.config.aliases.keys, ∀ word, NulFree word →
      ∃ plan, uneven.planAlias short word [] = .ok plan := by
  have hbase : "dc" ∈ uneven.config.aliases.keys := by decide +kernel
  have hfeature : uneven.planAlias "dc" "s" [] =
    .error (.resolve (.unknownVariant "dc" "ext")) := by decide +kernel
  refine ⟨⟨by decide +kernel, by decide +kernel, hbase, rfl⟩, hfeature, by decide +kernel,
    by decide +kernel, ?_⟩
  intro hplanned
  obtain ⟨plan, hplan⟩ := hplanned "dc" hbase "s" (by decide)
  cases hfeature.symm.trans hplan

end Shorthand.Workspace
