import Shorthand.Proofs.Fanout.Single
/-!
The projects of a run over many packages. One variant of every package is never the same project
twice. A run over everything goes through all that is declared, each declaration once, and so
through a project as often as it is declared.
-/
set_option autoImplicit false

namespace Shorthand

namespace Config

/-- No two declarations of the configuration give the same project: neither two aliases of projects,
nor such an alias and a variant of a package, nor variants of two packages, whose names may differ
in where the dash stands. -/
structure NamesProjectsOnce (c : Config) : Prop where
  aliases : ∀ short other project, c.aliasTarget? short = some (.project project) →
    c.aliasTarget? other = some (.project project) → short = other
  apart : ∀ short name p variant,
    (name, .structured p) ∈ c.packages.entries → variant ∈ p.variants.keys →
    c.aliasTarget? short ≠ some (.project ("@fux/" ++ (name ++ "-" ++ variant)))
  packages : ∀ name p variant name' p' variant', (name, .structured p) ∈ c.packages.entries →
    variant ∈ p.variants.keys →
      (name', .structured p') ∈ c.packages.entries → variant' ∈ p'.variants.keys →
    name ++ "-" ++ variant = name' ++ "-" ++ variant' → name = name'

variable {c : Config} {coverage : Coverage} {r : Resolution}

theorem mem_coveredVariants : r ∈ c.coveredVariants coverage ↔
    ∃ name p variant short, (name, .structured p) ∈ c.packages.entries ∧
      (variant, short) ∈ p.variants.entries ∧
      coverage.covers variant = true ∧ r = .ofPackage name short (some variant) := by
  simp only [coveredVariants, List.mem_flatMap, List.mem_map, List.mem_filter]
  constructor
  · rintro ⟨⟨name, p⟩, hp, ⟨variant, short⟩, ⟨hv, hcovers⟩, rfl⟩
    exact ⟨name, p, variant, short, mem_structuredPackages.1 hp, hv, hcovers, rfl⟩
  · rintro ⟨name, p, variant, short, hp, hv, hcovers, rfl⟩
    exact ⟨(name, p), mem_structuredPackages.2 hp, (variant, short), ⟨hv, hcovers⟩, rfl⟩

theorem mem_directProjects : r ∈ c.directProjects ↔
    ∃ short project, c.aliasTarget? short = some (.project project) ∧
      r = .ofProject project short := by
  simp only [directProjects, List.mem_filterMap, ← get?_aliases, SortedMap.get?_eq_some_iff]
  constructor
  · rintro ⟨⟨short, target⟩, hentry, hr⟩
    cases target with
    | package name => cases hr
    | project project => exact ⟨short, project, hentry, (Option.some.inj hr).symm⟩
  · rintro ⟨short, project, hentry, rfl⟩
    exact ⟨(short, .project project), hentry, rfl⟩

theorem mem_covered_all :
    r ∈ c.covered .all ↔ r ∈ c.coveredVariants .all ∨ r ∈ c.directProjects := by
  simp [covered]

theorem covered_eq_coveredVariants (h : coverage ≠ .all) :
    c.covered coverage = c.coveredVariants coverage := by
  simp [covered, h]

theorem nodup_coveredVariants (c : Config) (coverage : Coverage) :
    (c.coveredVariants coverage).Nodup := by
  rw [coveredVariants, List.nodup_flatMap]
  constructor
  · intro e _
    refine List.Nodup.map_on ?_ ?_
    · intro v hv v' hv' heq
      have hvariant : some v.1 = some v'.1 := congrArg Resolution.variant heq
      exact Prod.ext (Option.some.inj hvariant) (congrArg Resolution.short heq)
    · exact e.2.variants.nodup_entries.filter _
  · refine c.structuredPackages.rising.imp fun {e e'} hlt => ?_
    intro r hr hr'
    obtain ⟨v, -, rfl⟩ := List.mem_map.1 hr
    obtain ⟨v', -, heq⟩ := List.mem_map.1 hr'
    have hname : e'.1 = e.1 := congrArg Resolution.package heq
    exact String.lt_irrefl _ (hname ▸ hlt)

theorem nodup_directProjects (c : Config) : c.directProjects.Nodup := by
  refine List.Nodup.filterMap ?_ c.aliases.nodup_entries
  rintro ⟨short, target⟩ ⟨short', target'⟩ r hr hr'
  cases target with
  | package name => cases hr
  | project project =>
    cases target' with
    | package name => cases hr'
    | project project' =>
      obtain rfl := Option.some.inj hr
      have heq := Option.some.inj hr'
      have hshort : short' = short := congrArg Resolution.short heq
      have hproject : project' = project := congrArg Resolution.project heq
      rw [hshort, hproject]

theorem nodup_covered (c : Config) (coverage : Coverage) : (c.covered coverage).Nodup := by
  rw [covered, List.nodup_append]
  refine ⟨nodup_coveredVariants c coverage, ?_, ?_⟩
  · split
    · exact nodup_directProjects c
    · exact .nil
  · intro r hr r' hr' heq
    obtain ⟨name, p, variant, short, -, -, -, rfl⟩ := mem_coveredVariants.1 hr
    split at hr'
    · obtain ⟨short', project, -, rfl⟩ := mem_directProjects.1 hr'
      exact absurd (congrArg Resolution.variant heq)
        (by simp [Resolution.ofPackage, Resolution.ofProject])
    · cases hr'

/-- Where one variant is covered, packages are told apart by their names alone. -/
theorem nodup_project_of_variant {wanted : String} (h : coverage.variant? = some wanted) :
    ((c.covered coverage).map (·.project)).Nodup := by
  have hall : coverage ≠ .all := by
    rintro rfl
    cases h
  rw [covered_eq_coveredVariants hall, List.nodup_map_iff_inj_on (nodup_coveredVariants c coverage)]
  intro r hr r' hr' heq
  obtain ⟨name, p, variant, short, hp, hv, hcovers, rfl⟩ := mem_coveredVariants.1 hr
  obtain ⟨name', p', variant', short', hp', hv', hcovers', rfl⟩ := mem_coveredVariants.1 hr'
  simp only [Coverage.covers, h, decide_eq_true_eq] at hcovers hcovers'
  subst hcovers
  subst hcovers'
  have hname : name = name' := by
    simpa [Resolution.ofPackage, String.append_assoc, String.append_left_inj] using heq
  subst hname
  obtain rfl : p = p' := PackageEntry.structured.inj (SortedMap.eq_of_mem hp hp')
  rw [SortedMap.eq_of_mem hv hv']

theorem project_ofPackage (name short variant : String) :
    (Resolution.ofPackage name short (some variant)).project = "@fux/" ++
      (name ++ "-" ++ variant) := by
  simp [Resolution.ofPackage, packageScope, String.append_assoc]

theorem mem_keys_iff {α : Type} {m : SortedMap α} {k : String} :
    k ∈ m.keys ↔ ∃ v, (k, v) ∈ m.entries := by
  simp [SortedMap.keys]

theorem NamesProjectsOnce.project_ne (h : c.NamesProjectsOnce) {r' : Resolution}
    (hr : r ∈ c.coveredVariants coverage) (hr' : r' ∈ c.directProjects) :
    r.project ≠ r'.project := by
  obtain ⟨name, p, variant, short, hp, hv, -, rfl⟩ := mem_coveredVariants.1 hr
  obtain ⟨other, project, htarget, rfl⟩ := mem_directProjects.1 hr'
  rw [project_ofPackage]
  intro heq
  exact h.apart other name p variant hp (mem_keys_iff.2 ⟨_, hv⟩) (heq ▸ htarget)

theorem NamesProjectsOnce.eq_of_project (h : c.NamesProjectsOnce) {r' : Resolution}
    (hr : r ∈ c.covered .all) (hr' : r' ∈ c.covered .all) (heq : r.project = r'.project) :
    r = r' := by
  rcases mem_covered_all.1 hr with hr | hr <;> rcases mem_covered_all.1 hr' with hr' | hr'
  · obtain ⟨name, p, variant, short, hp, hv, -, rfl⟩ := mem_coveredVariants.1 hr
    obtain ⟨name', p', variant', short', hp', hv', -, rfl⟩ := mem_coveredVariants.1 hr'
    rw [project_ofPackage, project_ofPackage, String.append_right_inj] at heq
    obtain rfl := h.packages name p variant name' p' variant' hp (mem_keys_iff.2 ⟨_, hv⟩) hp'
      (mem_keys_iff.2 ⟨_, hv'⟩) heq
    obtain rfl : p = p' := PackageEntry.structured.inj (SortedMap.eq_of_mem hp hp')
    obtain rfl : variant = variant' := (String.append_right_inj _).1 heq
    rw [SortedMap.eq_of_mem hv hv']
  · exact absurd heq (h.project_ne hr hr')
  · exact absurd heq.symm (h.project_ne hr' hr)
  · obtain ⟨short, project, htarget, rfl⟩ := mem_directProjects.1 hr
    obtain ⟨short', project', htarget', rfl⟩ := mem_directProjects.1 hr'
    obtain rfl : project = project' := heq
    rw [h.aliases short short' project htarget htarget']

theorem nodup_project_covered_all_iff :
    ((c.covered .all).map (·.project)).Nodup ↔ c.NamesProjectsOnce := by
  rw [List.nodup_map_iff_inj_on (nodup_covered c .all)]
  have hvariant {name variant : String} {p : StructuredPackage}
      (hp : (name, .structured p) ∈ c.packages.entries) (hv : variant ∈ p.variants.keys) :
      ∃ short, .ofPackage name short (some variant) ∈ c.covered .all := by
    obtain ⟨short, hv⟩ := mem_keys_iff.1 hv
    exact ⟨short,
      mem_covered_all.2 (.inl (mem_coveredVariants.2 ⟨name, p, variant, short, hp, hv, rfl, rfl⟩))⟩
  have hdirect {short project : String} (h : c.aliasTarget? short = some (.project project)) :
      .ofProject project short ∈ c.covered .all :=
    mem_covered_all.2 (.inr (mem_directProjects.2 ⟨short, project, h, rfl⟩))
  constructor
  · intro hinj
    refine ⟨fun short other project h h' => ?_, fun short name p variant hp hv h => ?_,
      fun name p variant name' p' variant' hp hv hp' hv' heq => ?_⟩
    · exact congrArg Resolution.short (hinj _ (hdirect h) _ (hdirect h') rfl)
    · obtain ⟨own, hown⟩ := hvariant hp hv
      have hsame := hinj _ (hdirect h) _ hown (project_ofPackage name own variant).symm
      exact absurd (congrArg Resolution.variant hsame)
        (by simp [Resolution.ofPackage, Resolution.ofProject])
    · obtain ⟨own, hown⟩ := hvariant hp hv
      obtain ⟨own', hown'⟩ := hvariant hp' hv'
      refine congrArg Resolution.package (hinj _ hown _ hown' ?_)
      rw [project_ofPackage, project_ofPackage, heq]
  · exact fun honce r hr r' hr' heq => honce.eq_of_project hr hr' heq

end Config

namespace Workspace

@[simp] theorem resolutions_nil (w : Workspace) (coverage : Coverage) :
    w.resolutions coverage [] = .ok (w.config.covered coverage) := rfl

/-- A run over one variant of all packages covers no project twice, and a run over everything covers
none twice exactly if none is declared twice. Every declaration is covered once in any case, and
there is one command for each, which is named after its project. -/
theorem nodup_project_covered (w : Workspace) :
    ((w.config.covered .core).map (·.project)).Nodup ∧
      ((w.config.covered .ext).map (·.project)).Nodup ∧
    (((w.config.covered .all).map (·.project)).Nodup ↔ w.config.NamesProjectsOnce) ∧
    (∀ coverage, (w.config.covered coverage).Nodup) ∧
    ∀ coverage word flags plans, w.planMany coverage [] word flags = .ok plans →
      plans.map (·.label) = (w.config.covered coverage).map (·.project) := by
  refine ⟨Config.nodup_project_of_variant rfl, Config.nodup_project_of_variant rfl,
    Config.nodup_project_covered_all_iff, Config.nodup_covered w.config,
      fun coverage word flags plans h => ?_⟩
  rw [planMany, resolutions_nil] at h
  exact map_eq_of_mapM (fun r plan hplan => label_of_planResolved hplan) h

/-- One project that is declared twice: by an alias of its own and as a variant of a package. -/
def doubled : Workspace where
  config :=
    { packages := .ofList [("aka", .direct "@fux/dc-core"),
        ("dc", .structured
          { aliases := ["dc"], variants := .ofList [("core", "dcc")], default := "core" })] }
  settings := {}
  environment := ∅

def doubledPlan : Plan where
  label := "@fux/dc-core"
  invocation := { program := "npx", args := ["nx", "run", "@fux/dc-core:build"] }
  isEchoed := false
  isTraced := false

theorem nodup_project_covered_doubled :
    doubled.planMany .core [] "build" [] = .ok [doubledPlan] ∧
    [doubledPlan].map (·.label) = (doubled.config.covered .core).map (·.project) := by
  have hplan : doubled.planMany .core [] "build" [] = .ok [doubledPlan] :=
    eq_ok_of_toOption (by decide +kernel)
  exact ⟨hplan, (nodup_project_covered doubled).2.2.2.2 .core "build" [] _ hplan⟩

/-- A run over everything builds the project twice at the same time. -/
theorem planMany_doubled :
    doubled.config.isValid = true ∧
    (doubled.config.covered .all).map (·.project) = ["@fux/dc-core", "@fux/dc-core"] ∧
    doubled.planMany .all [] "build" [] = .ok [doubledPlan, doubledPlan] ∧
    ¬∀ c : Config, c.isValid = true → ∀ coverage, ((c.covered coverage).map (·.project)).Nodup := by
  have hvalid : doubled.config.isValid = true := by decide +kernel
  have htwice : (doubled.config.covered .all).map (·.project) = ["@fux/dc-core",
    "@fux/dc-core"] := by decide +kernel
  refine ⟨hvalid, htwice, eq_ok_of_toOption (by decide +kernel), fun hall => ?_⟩
  have hnodup := hall doubled.config hvalid .all
  rw [htwice] at hnodup
  exact absurd hnodup (by decide)

end Workspace

end Shorthand
