import Shorthand.Proofs.Config.Validity
import Shorthand.Proofs.Override
import Shorthand.Proofs.Success
import Shorthand.Target
set_option autoImplicit false

namespace Shorthand

theorem SortedMap.exists_find?_value {m : SortedMap String} {key value : String}
    (h : (key, value) ∈ m.entries) :
    ∃ first, m.entries.find? (·.2 = value) = some (first, value) ∧ (first, value) ∈ m.entries ∧
      ∀ other, (other, value) ∈ m.entries → first ≤ other := by
  have hsome : (m.entries.find? (·.2 = value)).isSome := List.find?_isSome.2 ⟨_, h, by simp⟩
  obtain ⟨⟨first, found⟩, hfind⟩ := Option.isSome_iff_exists.1 hsome
  obtain rfl : found = value := by simpa using List.find?_some hfind
  refine ⟨first, hfind, List.mem_of_find?_eq_some hfind, fun other hother => ?_⟩
  obtain ⟨-, before, after, hentries, hbefore⟩ := List.find?_eq_some_iff_append.1 hfind
  have hrising := m.rising
  rw [hentries] at hother hrising
  rcases List.mem_append.1 hother with hmem | hmem
  · exact absurd (hbefore _ hmem) (by simp)
  · rcases List.mem_cons.1 hmem with heq | hmem
    · exact Std.le_of_eq (congrArg Prod.fst heq).symm
    · exact Std.le_of_lt ((List.pairwise_cons.1 (List.pairwise_append.1 hrising).2.1).1 _ hmem)

namespace Config

variable {c : Config} {short name : String} {p : StructuredPackage}

theorem structuredPackage?_eq_some_iff :
    c.structuredPackage? name = some p ↔ (name, .structured p) ∈ c.packages.entries :=
  SortedMap.get?_eq_some_iff.trans mem_structuredPackages

theorem isBaseAlias_iff : c.isBaseAlias short = true ↔
    ∃ name p, c.aliasTarget? short = some (.package name) ∧ c.structuredPackage? name = some p ∧
      short ∈ p.aliases := by
  have hany (found : Option StructuredPackage) :
      found.any (fun p => p.aliases.contains short) = true ↔
        ∃ p, found = some p ∧ short ∈ p.aliases := by
    cases found <;> simp
  rcases htarget : c.aliasTarget? short with _ | name | project
  · simp [isBaseAlias, htarget]
  · simpa [isBaseAlias, htarget] using hany (c.structuredPackage? name)
  · simp [isBaseAlias, htarget]

theorem resolve_of_package (ha : c.aliasTarget? short = some (.package name))
    (hp : c.structuredPackage? name = some p) :
    c.resolve short = .ok (.ofPackage name short (p.variantOf short)) := by
  rw [resolve, ha]
  simp only [hp]

theorem resolveVariant_of_package (ha : c.aliasTarget? short = some (.package name))
    (hp : c.structuredPackage? name = some p) (variant : String) :
    c.resolveVariant short variant =
      if p.variants.contains variant then .ok (.ofPackage name short (some variant))
      else .error (.unknownVariant name variant) := by
  have hname : (Resolution.ofPackage name short (p.variantOf short)).package = name := rfl
  rw [resolveVariant, resolve_of_package ha hp]
  simp only [ok_bind, hname, hp]

theorem exists_resolve (h : c.hasAlias short = true) : ∃ r, c.resolve short = .ok r := by
  obtain ⟨claimed, hclaims⟩ := hasAlias_iff.1 h
  obtain ⟨target, htarget⟩ := hclaims.exists_aliasTarget?
  cases target with
  | project project => exact ⟨_, by rw [resolve, htarget]⟩
  | package name =>
    obtain ⟨p, hp⟩ : ∃ p, (name, .structured p) ∈ c.packages.entries := by
      cases claims_of_aliasTarget? htarget with
      | base entry _ => exact ⟨_, entry⟩
      | variant entry _ => exact ⟨_, entry⟩
    exact ⟨_, resolve_of_package htarget (structuredPackage?_eq_some_iff.2 hp)⟩

theorem short_of_resolve {r : Resolution} (h : c.resolve short = .ok r) : r.short = short := by
  unfold resolve at h
  split at h
  · exact Except.ok.inj h ▸ rfl
  · split at h
    · exact Except.ok.inj h ▸ rfl
    · cases h
  · cases h

theorem resolveTarget_cases (c : Config) (word : String) :
    c.resolveTarget word = ⟨word, .unknown⟩ ∨
    ∃ tier m target, (tier, m) ∈ c.targetTiers ∧ m.get? word = some target ∧
      c.resolveTarget word = ⟨target, tier⟩ := by
  rw [resolveTarget]
  cases hfind : c.targetTiers.findSome? fun t => (t.2.get? word).map (ResolvedTarget.mk · t.1) with
  | none => exact .inl rfl
  | some resolved =>
    obtain ⟨⟨tier, m⟩, hmem, hresolved⟩ := List.exists_of_findSome?_eq_some hfind
    obtain ⟨target, hget, rfl⟩ := Option.map_eq_some_iff.1 hresolved
    exact .inr ⟨tier, m, target, hmem, hget, rfl⟩

theorem tier_of_featureVariant? {word variant : String}
    (h : c.featureVariant? word = some variant) :
    (c.resolveTarget word).tier = .feature := by
  obtain ⟨feature, hfeature, -⟩ := Option.bind_eq_some_iff.1 h
  have hget : c.featureTargets.get? word = some feature.target := by
    refine SortedMap.get?_eq_some_iff.2 (List.mem_map.2 ⟨(word, feature), ?_, rfl⟩)
    exact SortedMap.get?_eq_some_iff.1 hfeature
  simp [resolveTarget, targetTiers, hget]

theorem Claims.aliasTarget?_eq {target : AliasTarget} (h : c.Claims short target)
    (hc : c.isValid = true) :
    c.aliasTarget? short = some target := by
  obtain ⟨first, hfirst⟩ := h.exists_aliasTarget?
  rw [hfirst,
    (isValid_iff_wellFormed c).1 hc |>.claims short first target (claims_of_aliasTarget? hfirst) h]

/-- An alias of a variant resolves to its package, and to the variant itself just if no variant
before it has the same alias. -/
theorem resolve_variantAlias {variant : String} (hc : c.isValid = true)
    (hp : (name, .structured p) ∈ c.packages.entries) (hv : (variant, short) ∈ p.variants.entries) :
    ∃ first, c.resolve short =
        .ok { package := name, short, variant := some first,
              project := "@fux/" ++ name ++ "-" ++ first } ∧
      (first, short) ∈ p.variants.entries ∧
      (first = variant ↔ ∀ other, (other, short) ∈ p.variants.entries → variant ≤ other) := by
  obtain ⟨first, hfind, hmem, hleast⟩ := SortedMap.exists_find?_value hv
  have hvariant : p.variantOf short = some first := by simp [StructuredPackage.variantOf, hfind]
  have htarget : c.aliasTarget? short = some (.package name) :=
    (Claims.variant hp hv).aliasTarget?_eq hc
  refine ⟨first, ?_, hmem, ?_⟩
  · rw [resolve_of_package htarget (structuredPackage?_eq_some_iff.2 hp), hvariant]
    simp [Resolution.ofPackage, packageScope, String.append_assoc]
  · constructor
    · rintro rfl
      exact hleast
    · exact fun h => Std.le_antisymm (hleast _ hv) (h _ hmem)

def twins : StructuredPackage where
  aliases := ["dc"]
  variants := .ofList [("core", "dx"), ("ext", "dx"), ("web", "dw")]
  default := "core"

def twinConfig : Config := { packages := .ofList [("dc", .structured twins)] }

theorem resolve_variantAlias_twins :
    (twinConfig.isValid = true ∧ ("dc", .structured twins) ∈ twinConfig.packages.entries) ∧
    (("web", "dw") ∈ twins.variants.entries ∧ ("ext", "dx") ∈ twins.variants.entries) ∧
    twinConfig.resolve "dw" = .ok ⟨"dc", "dw", some "web", "@fux/dc-web"⟩ ∧
    ∃ first, twinConfig.resolve "dx" =
      .ok ⟨"dc", "dx", some first, "@fux/" ++ "dc" ++ "-" ++ first⟩ ∧
      first ≠ "ext" := by
  have hvalid : twinConfig.isValid = true := by decide +kernel
  have hentry : ("dc", .structured twins) ∈ twinConfig.packages.entries := by decide +kernel
  have hweb : ("web", "dw") ∈ twins.variants.entries := by decide +kernel
  have hext : ("ext", "dx") ∈ twins.variants.entries := by decide +kernel
  have hcore : ("core", "dx") ∈ twins.variants.entries := by decide +kernel
  obtain ⟨first, hresolve, -, hfirst⟩ := resolve_variantAlias hvalid hentry hweb
  obtain ⟨other, hshared, -, hother⟩ := resolve_variantAlias hvalid hentry hext
  have hleast : ∀ e ∈ twins.variants.entries, e.2 = "dw" → "web" ≤ e.1 := by decide +kernel
  obtain rfl := hfirst.2 fun k hk => hleast (k, "dw") hk rfl
  exact ⟨⟨hvalid, hentry⟩, ⟨hweb, hext⟩, hresolve, other, hshared,
    fun heq => absurd (hother.1 heq "core" hcore) (by decide +kernel)⟩

/-- The alias of the variant `ext` picks another variant, although nothing is wrong with the
configuration. -/
theorem resolve_secondTwin :
    twinConfig.isValid = true ∧ ("dc", .structured twins) ∈ twinConfig.packages.entries ∧
    ("ext", "dx") ∈ twins.variants.entries ∧
    twinConfig.resolve "dx" = .ok ⟨"dc", "dx", some "core", "@fux/dc-core"⟩ ∧
    twinConfig.resolve "dx" ≠ .ok ⟨"dc", "dx", some "ext", "@fux/dc-ext"⟩ := by
  have hcore : twinConfig.resolve "dx" = .ok ⟨"dc", "dx", some "core", "@fux/dc-core"⟩ :=
    eq_ok_of_toOption (by decide +kernel)
  refine ⟨by decide +kernel, by decide +kernel, by decide +kernel, hcore, ?_⟩
  rw [hcore]
  simp

end Config

end Shorthand
