import Shorthand.Config.Validation
import Shorthand.Plan
import Shorthand.Proofs.Config.Resolution
/-!
One package in a run over many, against the same package on its own. The two calls resolve the alias
on their own: alone, a feature may send the alias of a package to another variant; among many it is
not asked.
-/
set_option autoImplicit false

namespace Shorthand

theorem Resolution.ofPackage_project_inj {package short : String} {v v' : Option String}
    (h : (Resolution.ofPackage package short v).project =
      (Resolution.ofPackage package short v').project) :
    v = v' := by
  simp only [ofPackage, String.append_right_inj] at h
  cases v <;> cases v' <;> simp_all [← String.toList_inj]

/-- A feature wants the alias of a package run from a variant, and not by chance the one it stands
for. -/
def Config.Redirects (c : Config) (short word : String) : Prop :=
  ∃ variant name p, c.featureVariant? word = some variant ∧
    c.aliasTarget? short = some (.package name) ∧
    c.structuredPackage? name = some p ∧ short ∈ p.aliases ∧
    ¬(variant ∈ p.variants.keys ∧ p.variantOf short = some variant)

namespace Config

variable {c : Config} {short name : String} {p : StructuredPackage}

/-- Forcing a variant changes nothing exactly if it is declared and is the one the alias stands
for. -/
theorem resolveVariant_eq_resolve_iff (ha : c.aliasTarget? short = some (.package name))
    (hp : c.structuredPackage? name = some p) (variant : String) :
    c.resolveVariant short variant = c.resolve short ↔
      variant ∈ p.variants.keys ∧ p.variantOf short = some variant := by
  rw [resolveVariant_of_package ha hp, resolve_of_package ha hp, ← SortedMap.contains_iff_mem_keys]
  by_cases hv : p.variants.contains variant = true
  · rw [if_pos hv, Except.ok.injEq]
    constructor
    · exact fun h => ⟨hv, (Resolution.ofPackage_project_inj (congrArg Resolution.project h)).symm⟩
    · exact fun ⟨_, h⟩ => by rw [h]
  · simp [hv]

end Config

namespace Workspace

variable {w : Workspace} {short word : String} {flags : List String}

theorem resolveFor_eq_resolve_iff (w : Workspace) (short word : String) :
    w.resolveFor short word = w.config.resolve short ↔ ¬w.config.Redirects short word := by
  unfold resolveFor
  cases hvariant : w.config.featureVariant? word with
  | none =>
    refine iff_of_true rfl ?_
    rintro ⟨variant, -, -, h, -⟩
    exact absurd (hvariant.symm.trans h) (by simp)
  | some variant =>
    dsimp only
    by_cases hbase : w.config.isBaseAlias short = true
    · obtain ⟨name, p, ha, hp, hshort⟩ := Config.isBaseAlias_iff.1 hbase
      rw [if_pos hbase, Config.resolveVariant_eq_resolve_iff ha hp]
      constructor
      · rintro hsame ⟨variant', name', p', hvariant', ha', hp', -, hother⟩
        cases hvariant.symm.trans hvariant'
        cases ha.symm.trans ha'
        cases hp.symm.trans hp'
        exact hother hsame
      · exact fun h => Classical.byContradiction fun hother =>
          h ⟨variant, name, p, hvariant, ha, hp, hshort, hother⟩
    · rw [if_neg hbase]
      refine iff_of_true rfl ?_
      rintro ⟨-, name, p, -, ha, hp, hshort, -⟩
      exact hbase (Config.isBaseAlias_iff.2 ⟨name, p, ha, hp, hshort⟩)

/-- A redirected alias resolves without the feature too, and to the same package. -/
theorem exists_resolve_of_redirects (h : w.config.Redirects short word) :
    ∃ (name : String) (v : Option String), w.config.resolve short = .ok (.ofPackage name short v) ∧
      ∀ r, w.resolveFor short word = .ok r → ∃ variant, r = .ofPackage name short variant := by
  obtain ⟨variant, name, p, hvariant, ha, hp, hshort, -⟩ := h
  have hbase : w.config.isBaseAlias short = true :=
    Config.isBaseAlias_iff.2 ⟨name, p, ha, hp, hshort⟩
  refine ⟨name, _, Config.resolve_of_package ha hp, fun r hr => ⟨some variant, ?_⟩⟩
  simp only [resolveFor, hvariant, hbase, if_true, Config.resolveVariant_of_package ha hp] at hr
  split at hr
  · exact (Except.ok.inj hr).symm
  · cases hr

theorem planMany_singleton (w : Workspace) (short word : String) (flags : List String) :
    w.planMany .all [short] word flags =
      ((w.config.resolve short).mapError .resolve).bind fun r =>
        (w.planResolved r word flags).map ([·]) := by
  have hrs : w.resolutions .all [short] = (w.config.resolve short).map ([·]) :=
    mapM_singleton w.config.resolve short
  rw [planMany, hrs]
  cases w.config.resolve short with
  | error e => rfl
  | ok r => exact mapM_singleton (w.planResolved · word flags) r

theorem label_of_planResolved {r : Resolution} {plan : Plan}
    (h : w.planResolved r word flags = .ok plan) :
    plan.label = r.project := by
  obtain ⟨base, -, h⟩ := exists_of_bind_eq_ok h
  obtain ⟨invocation, -, h⟩ := exists_of_bind_eq_ok (eq_ok_of_mapError h)
  cases h
  rfl

/-- Over one package, a run over many plans what a run of the package plans, with the same error if
there is one, unless a feature sends the alias to another variant. Then they agree at most in an
error that comes later. -/
theorem planMany_eq_planAlias_iff (w : Workspace) (short word : String) (flags : List String) :
    w.planMany .all [short] word flags = (w.planAlias short word flags).map ([·]) ↔
      ¬w.config.Redirects short word ∨
        ∃ e, w.planMany .all [short] word flags = .error e ∧
          w.planAlias short word flags = .error e := by
  constructor
  · intro hsame
    refine Classical.or_iff_not_imp_left.2 fun hredirects => ?_
    have hredirects : w.config.Redirects short word := Classical.not_not.1 hredirects
    obtain ⟨name, v, hresolve, hpackage⟩ := exists_resolve_of_redirects hredirects
    cases hmany : w.planMany .all [short] word flags with
    | error e => exact ⟨e, rfl, eq_error_of_map (hsame.symm.trans hmany)⟩
    | ok plans =>
      obtain ⟨plan, halias, rfl⟩ := exists_of_map_eq_ok (hsame.symm.trans hmany)
      obtain ⟨r, hr, hplan⟩ := exists_of_bind_eq_ok halias
      obtain ⟨variant, rfl⟩ := hpackage r (eq_ok_of_mapError hr)
      have hplain : w.planResolved (.ofPackage name short v) word flags = .ok plan := by
        rw [planMany_singleton, hresolve] at hmany
        obtain ⟨plan', hplan', heq⟩ := exists_of_map_eq_ok hmany
        rwa [← List.singleton_inj.1 heq]
      -- The label of a plan names the project, and so the variant.
      have hproject := (label_of_planResolved hplain).symm.trans (label_of_planResolved hplan)
      obtain rfl := Resolution.ofPackage_project_inj hproject
      exact absurd ((eq_ok_of_mapError hr).trans hresolve.symm)
        (mt (resolveFor_eq_resolve_iff w short word).1 (not_not_intro hredirects))
  · rintro (hstays | ⟨e, hmany, halias⟩)
    · rw [planMany_singleton, planAlias, (resolveFor_eq_resolve_iff w short word).2 hstays]
      cases w.config.resolve short <;> rfl
    · rw [hmany, halias]
      rfl

def serving : Workspace where
  config :=
    { packages := .ofList [("dc", .structured
        { aliases := ["dc"], variants := .ofList [("core", "dcc"), ("ext", "dce")],
          default := "core" })]
      features := .ofList [("s", ⟨"serve", some "ext"⟩)] }
  settings := {}
  environment := ∅

def servingPlan (variant : String) : Plan where
  label := "@fux/dc-" ++ variant
  invocation := { program := "npx", args := ["nx", "run", "@fux/dc-" ++ variant ++ ":serve"] }
  isEchoed := false
  isTraced := false

/-- Alone the package is served from the variant that the feature names, among many from its own
default. -/
theorem planMany_ne_planAlias_serving :
    serving.config.isValid = true ∧ serving.config.hasAlias "dc" = true ∧
    serving.planAlias "dc" "s" [] = .ok (servingPlan "ext") ∧
    serving.planMany .all ["dc"] "s" [] = .ok [servingPlan "core"] ∧
    (servingPlan "core").invocation ≠ (servingPlan "ext").invocation := by
  refine ⟨by decide +kernel, by decide +kernel, eq_ok_of_toOption ?_, eq_ok_of_toOption ?_,
    by decide +kernel⟩
  · decide +kernel
  · decide +kernel

end Workspace

end Shorthand
