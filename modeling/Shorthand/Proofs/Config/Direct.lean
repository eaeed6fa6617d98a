import Shorthand.Proofs.Config.Resolution
/-!
Aliases of projects, which have no variants. A variant is asked for by the name of the project, so
that it changes nothing only where no package has that name.
-/
set_option autoImplicit false

namespace Shorthand

theorem Resolution.ofPackage_eq (package short variant : String) :
    ofPackage package short (some variant) =
    { package,
      short, variant := some variant, project := "@fux/" ++ package ++ "-" ++ variant } := by
  simp [ofPackage, packageScope, String.append_assoc]

namespace Config

variable {c : Config} {short project : String}

theorem resolve_of_project (h : c.aliasTarget? short = some (.project project)) :
    c.resolve short = .ok (.ofProject project short) := by
  rw [resolve, h]

theorem resolveVariant_of_project (h : c.aliasTarget? short = some (.project project))
    (variant : String) :
    c.resolveVariant short variant =
      match c.structuredPackage? project with
      | none => .ok (.ofProject project short)
      | some p =>
        if p.variants.contains variant then .ok (.ofPackage project short (some variant))
        else .error (.unknownVariant project variant) := by
  rw [resolveVariant, resolve_of_project h]
  rfl

theorem structuredPackage?_eq_none_iff {name : String} :
    c.structuredPackage? name = none ↔ ∀ p, (name, .structured p) ∉ c.packages.entries := by
  simp only [Option.eq_none_iff_forall_ne_some, ne_eq, structuredPackage?_eq_some_iff]

theorem ofPackage_ne_ofProject (name variant : String) :
    Resolution.ofPackage name short (some variant) ≠ .ofProject project short :=
  fun h =>
    absurd (congrArg Resolution.variant h) (by simp [Resolution.ofPackage, Resolution.ofProject])

/-- The alias of a project resolves to it, without a variant. A variant leaves that as it is exactly
if no package is named like the project; otherwise it is the package that is resolved, in the
variant if it has it. -/
theorem resolveVariant_eq_project_iff (hc : c.isValid = true)
    (h : c.Claims short (.project project)) (variant : String) :
    c.resolve short = .ok { package := project, short, variant := none, project } ∧
    (c.resolveVariant short variant = c.resolve short ↔
      ∀ p, (project, .structured p) ∉ c.packages.entries) ∧
    ∀ p, (project, .structured p) ∈ c.packages.entries →
      c.resolveVariant short variant =
        if variant ∈ p.variants.keys then
          .ok { package := project, short, variant := some variant,
                project := "@fux/" ++ project ++ "-" ++ variant }
        else .error (.unknownVariant project variant) := by
  have htarget := h.aliasTarget?_eq hc
  have hnamesake : ∀ p, (project, .structured p) ∈ c.packages.entries →
      c.resolveVariant short variant =
        if p.variants.contains variant then .ok (.ofPackage project short (some variant))
        else .error (.unknownVariant project variant) := by
    intro p hp
    rw [resolveVariant_of_project htarget, structuredPackage?_eq_some_iff.2 hp]
  refine ⟨resolve_of_project htarget, ?_, fun p hp => ?_⟩
  · constructor
    · intro heq p hp
      rw [hnamesake p hp, resolve_of_project htarget] at heq
      split at heq
      · exact ofPackage_ne_ofProject project variant (Except.ok.inj heq)
      · cases heq
    · intro hnone
      rw [resolveVariant_of_project htarget, structuredPackage?_eq_none_iff.2 hnone,
        resolve_of_project htarget]
  · rw [hnamesake p hp]
    simp only [SortedMap.contains_iff_mem_keys, Resolution.ofPackage_eq]

/-- A project that is named like a package, beside one that is not. -/
def namesakeConfig : Config where
  packages := .ofList [("aka", .direct "dc"),
    ("dc", .structured
      { aliases := ["dc"], variants := .ofList [("core", "dcc")], default := "core" }),
    ("tools", .bucket (.ofList [("mh", "@fux/mockly")]))]

theorem resolveVariant_eq_project_iff_bucket :
    (namesakeConfig.isValid = true ∧ namesakeConfig.Claims "mh" (.project "@fux/mockly")) ∧
    namesakeConfig.resolve "mh" = .ok ⟨"@fux/mockly", "mh", none, "@fux/mockly"⟩ ∧
    namesakeConfig.resolveVariant "mh" "core" = namesakeConfig.resolve "mh" ∧
    namesakeConfig.Claims "aka" (.project "dc") ∧
    namesakeConfig.resolveVariant "aka" "core" ≠ namesakeConfig.resolve "aka" := by
  have hvalid : namesakeConfig.isValid = true := by decide +kernel
  have hbucket : namesakeConfig.Claims "mh" (.project "@fux/mockly") :=
    mem_claims_iff.1 (by decide +kernel)
  have hdirect : namesakeConfig.Claims "aka" (.project "dc") := mem_claims_iff.1 (by decide +kernel)
  obtain ⟨hresolve, hiff, -⟩ := resolveVariant_eq_project_iff hvalid hbucket "core"
  have hnone : ∀ p, ("@fux/mockly", .structured p) ∉ namesakeConfig.packages.entries :=
    structuredPackage?_eq_none_iff.1 (by decide +kernel)
  refine ⟨⟨hvalid, hbucket⟩, hresolve, hiff.2 hnone, hdirect, fun heq => ?_⟩
  have hpackage : (namesakeConfig.structuredPackage? "dc").isSome = true := by decide +kernel
  obtain ⟨p, hp⟩ := Option.isSome_iff_exists.1 hpackage
  exact (resolveVariant_eq_project_iff hvalid hdirect "core").2.1.1 heq p
    (structuredPackage?_eq_some_iff.1 hp)

theorem resolveVariant_namesake :
    namesakeConfig.isValid = true ∧ namesakeConfig.Claims "aka" (.project "dc") ∧
    namesakeConfig.resolve "aka" = .ok ⟨"dc", "aka", none, "dc"⟩ ∧
    namesakeConfig.resolveVariant "aka" "core" = .ok ⟨"dc", "aka", some "core", "@fux/dc-core"⟩ ∧
    namesakeConfig.resolveVariant "aka" "ext" = .error (.unknownVariant "dc" "ext") ∧
    ¬∀ c : Config, c.isValid = true → ∀ short project variant, c.Claims short (.project project) →
      c.resolveVariant short variant = .ok ⟨project, short, none, project⟩ := by
  have hvalid : namesakeConfig.isValid = true := by decide +kernel
  have hdirect : namesakeConfig.Claims "aka" (.project "dc") := mem_claims_iff.1 (by decide +kernel)
  have hcore :
      namesakeConfig.resolveVariant "aka" "core" = .ok ⟨"dc", "aka", some "core", "@fux/dc-core"⟩ :=
    eq_ok_of_toOption (by decide +kernel)
  refine ⟨hvalid, hdirect, eq_ok_of_toOption (by decide +kernel), hcore, by rfl, fun hall => ?_⟩
  have hplain := hall namesakeConfig hvalid "aka" "dc" "core" hdirect
  rw [hcore] at hplain
  exact absurd (Except.ok.inj hplain) (by decide)

end Config

end Shorthand
