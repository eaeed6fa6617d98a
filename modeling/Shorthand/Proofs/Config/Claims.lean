import Shorthand.Alias
/-!
Who lays claim to which alias, read off the package entries, and what becomes of the claims: the
first on an alias decides what it stands for, and a claim is lost exactly if an earlier one gave its
alias another meaning.
-/
set_option autoImplicit false

namespace Shorthand

namespace SortedMap

variable {α β : Type}

@[simp] theorem contains_iff_mem_keys (m : SortedMap α) (k : String) :
    m.contains k = true ↔ k ∈ m.keys := by
  simp [contains, keys]

theorem mem_entries_filterMap {f : α → Option β} {m : SortedMap α} {k : String} {b : β} :
    (k, b) ∈ (m.filterMap f).entries ↔ ∃ a, (k, a) ∈ m.entries ∧ f a = some b := by
  simp only [filterMap, List.mem_filterMap, Option.map_eq_some_iff, Prod.mk.injEq]
  constructor
  · rintro ⟨e, he, b', hf, rfl, rfl⟩
    exact ⟨e.2, he, hf⟩
  · rintro ⟨a, ha, hf⟩
    exact ⟨(k, a), ha, b, hf, rfl, rfl⟩

end SortedMap

namespace Config

inductive Claims (c : Config) : String → AliasTarget → Prop
  | base {key : String} {p : StructuredPackage} {short : String}
      (entry : (key, .structured p) ∈ c.packages.entries) (mem : short ∈ p.aliases) :
      Claims c short (.package key)
  | variant {key : String} {p : StructuredPackage} {name short : String}
      (entry : (key, .structured p) ∈ c.packages.entries)
      (mem : (name, short) ∈ p.variants.entries) :
      Claims c short (.package key)
  | direct {key project : String} (entry : (key, .direct project) ∈ c.packages.entries) :
      Claims c key (.project project)
  | bucket {key : String} {projects : SortedMap String} {short project : String}
      (entry : (key, .bucket projects) ∈ c.packages.entries)
      (mem : (short, project) ∈ projects.entries) :
      Claims c short (.project project)

variable {c : Config} {short key : String} {target : AliasTarget}

theorem mem_structuredPackages {p : StructuredPackage} :
    (key, p) ∈ c.structuredPackages.entries ↔ (key, .structured p) ∈ c.packages.entries := by
  rw [structuredPackages, SortedMap.mem_entries_filterMap]
  constructor
  · rintro ⟨entry, he, hentry⟩
    cases entry <;> cases hentry
    exact he
  · exact fun h => ⟨_, h, rfl⟩

theorem Claims.of_mem {entry : PackageEntry} (he : (key, entry) ∈ c.packages.entries)
    (h : ⟨short, target⟩ ∈ entry.claims key) : c.Claims short target := by
  cases entry with
  | structured p =>
    obtain ⟨a, ha, heq⟩ := List.mem_map.1 h
    cases heq
    rcases List.mem_append.1 ha with ha | ha
    · exact .base he ha
    · obtain ⟨⟨name, a⟩, hv, rfl⟩ := List.mem_map.1 ha
      exact .variant he hv
  | direct project =>
    cases List.mem_singleton.1 h
    exact .direct he
  | bucket projects =>
    obtain ⟨⟨a, project⟩, hp, heq⟩ := List.mem_map.1 h
    cases heq
    exact .bucket he hp

theorem mem_claims_iff : ⟨short, target⟩ ∈ c.claims ↔ c.Claims short target := by
  constructor
  · intro h
    obtain ⟨⟨key, entry⟩, he, hclaim⟩ := List.mem_flatMap.1 h
    exact .of_mem he hclaim
  · intro h
    refine List.mem_flatMap.2 ?_
    cases h with
    | @base key p _ entry mem =>
      exact ⟨(key, .structured p), entry, by simp [PackageEntry.claims, mem]⟩
    | @variant key p name _ entry mem =>
      have hvalue : short ∈ p.variants.values := List.mem_map_of_mem mem
      exact ⟨(key, .structured p), entry, by simp [PackageEntry.claims, hvalue]⟩
    | @direct _ project entry => exact ⟨(short, .direct project), entry, List.mem_singleton.2 rfl⟩
    | @bucket key projects _ project entry mem =>
      exact ⟨(key, .bucket projects), entry, List.mem_map.2 ⟨(short, project), mem, rfl⟩⟩

theorem hasAlias_iff : c.hasAlias short = true ↔ ∃ target, c.Claims short target := by
  simp only [hasAlias, List.any_eq_true, decide_eq_true_eq, ← mem_claims_iff]
  constructor
  · rintro ⟨claim, h, rfl⟩
    exact ⟨claim.target, h⟩
  · exact fun ⟨target, h⟩ => ⟨_, h, rfl⟩

theorem claims_of_aliasTarget? (h : c.aliasTarget? short = some target) :
    c.Claims short target := by
  obtain ⟨claim, hfind, rfl⟩ := Option.map_eq_some_iff.1 h
  obtain rfl : claim.short = short := by simpa using List.find?_some hfind
  exact mem_claims_iff.1 (List.mem_of_find?_eq_some hfind)

/-- A claimed alias stands for something, though not always for what this claim says. -/
theorem Claims.exists_aliasTarget? (h : c.Claims short target) :
    ∃ first, c.aliasTarget? short = some first := by
  have hsome : (c.claims.find? (·.short = short)).isSome := by
    rw [List.isSome_find?]
    exact hasAlias_iff.2 ⟨target, h⟩
  exact Option.isSome_iff_exists.1 (by rwa [aliasTarget?, Option.isSome_map])

theorem lostClaims_eq_nil_iff :
    c.lostClaims = [] ↔ ∀ short first second,
      c.Claims short first → c.Claims short second → first = second := by
  simp only [lostClaims, List.filter_eq_nil_iff, decide_eq_true_eq, Decidable.not_not]
  constructor
  · intro h short first second hfirst hsecond
    have hone := h _ (mem_claims_iff.2 hfirst)
    have htwo := h _ (mem_claims_iff.2 hsecond)
    exact Option.some.inj (hone.symm.trans htwo)
  · intro h claim hclaim
    have hown : c.Claims claim.short claim.target := mem_claims_iff.1 hclaim
    obtain ⟨first, hfirst⟩ := hown.exists_aliasTarget?
    rw [hfirst, h _ _ _ (claims_of_aliasTarget? hfirst) hown]

private theorem get?_entered (m : SortedMap AliasTarget) (claim : Claim) (short : String) :
    (if m.contains claim.short then m else m.insert claim.short claim.target).get? short =
      (m.get? short).or (if claim.short = short then some claim.target else none) := by
  rw [SortedMap.contains_eq_isSome_get?]
  by_cases hs : claim.short = short
  · subst hs
    cases hget : m.get? claim.short <;> simp [hget]
  · split <;> simp [hs]

/-- Entering the claims one after the other, none over an earlier one, gives every alias its first
claim. -/
@[simp] theorem get?_aliases (c : Config) (short : String) :
    c.aliases.get? short = c.aliasTarget? short := by
  have hfold (claims : List Claim) (m : SortedMap AliasTarget) :
      (claims.foldl
        (fun m claim => if m.contains claim.short then m else m.insert claim.short claim.target)
        m).get? short = (m.get? short).or ((claims.find? (·.short = short)).map (·.target)) := by
    induction claims generalizing m with
    | nil => simp
    | cons claim claims ih =>
      rw [List.foldl_cons, ih, get?_entered, Option.or_assoc, List.find?_cons]
      by_cases hs : claim.short = short <;> simp [hs]
  exact (hfold c.claims ∅).trans (by simp [aliasTarget?])

theorem mem_keys_aliases : short ∈ c.aliases.keys ↔ c.hasAlias short = true := by
  rw [← SortedMap.contains_iff_mem_keys, SortedMap.contains_eq_isSome_get?, get?_aliases,
    aliasTarget?, Option.isSome_map, List.isSome_find?, hasAlias]

end Config

end Shorthand
