import Shorthand.Proofs.Config.Direct
import Shorthand.Proofs.Fanout.Projects
import Shorthand.Proofs.Text.ByteOrder
/-!
What a run over many packages covers, against what its aliases stand for one by one. The run goes
through the packages by their names; an alias is looked up among the claims. Both lead to the same
projects.
-/
set_option autoImplicit false

namespace Shorthand

open Text

namespace Config

/-- The package has the variant, under an alias of the variant's own. -/
def Declares (c : Config) (name variant short : String) : Prop :=
  ∃ p, (name, .structured p) ∈ c.packages.entries ∧ (variant, short) ∈ p.variants.entries

end Config

/-- The bytes by which variants are put in order: those of the package's name, then those of the
variant's. -/
def Resolution.place (r : Resolution) : List UInt8 × List UInt8 :=
  (toBytes r.package, toBytes (r.variant.getD ""))

namespace Config

variable {c : Config} {coverage : Coverage} {short name variant : String} {r : Resolution}

theorem mem_coveredVariants_iff : r ∈ c.coveredVariants coverage ↔
    ∃ name variant short, coverage.covers variant = true ∧ c.Declares name variant short ∧
      r = { package := name, short, variant := some variant,
            project := "@fux/" ++ name ++ "-" ++ variant } := by
  simp only [mem_coveredVariants, Resolution.ofPackage_eq]
  constructor
  · rintro ⟨name, p, variant, short, hp, hv, hcovers, rfl⟩
    exact ⟨name, variant, short, hcovers, ⟨p, hp, hv⟩, rfl⟩
  · rintro ⟨name, variant, short, hcovers, ⟨p, hp, hv⟩, rfl⟩
    exact ⟨name, p, variant, short, hp, hv, hcovers, rfl⟩

theorem pairwise_coveredVariants (c : Config) (coverage : Coverage) :
    (c.coveredVariants coverage).Pairwise fun r r' =>
      Prod.Lex (· < ·) (· < ·) r.place r'.place := by
  rw [coveredVariants, List.pairwise_flatMap]
  constructor
  · intro e _
    rw [List.pairwise_map]
    exact (e.2.variants.rising.filter _).imp fun hlt => Prod.Lex.right _ (toBytes_lt_iff.2 hlt)
  · refine c.structuredPackages.rising.imp fun {e e'} hlt r hr r' hr' => ?_
    obtain ⟨v, -, rfl⟩ := List.mem_map.1 hr
    obtain ⟨v', -, rfl⟩ := List.mem_map.1 hr'
    exact Prod.Lex.left _ _ (toBytes_lt_iff.2 hlt)

theorem covered_of_variant? {wanted : String} (h : coverage.variant? = some wanted) :
    c.covered coverage = c.coveredVariants coverage := by
  refine covered_eq_coveredVariants ?_
  rintro rfl
  cases h

theorem mem_covered_of_variant? {wanted : String} (h : coverage.variant? = some wanted) :
    r ∈ c.covered coverage ↔ ∃ name short, c.Declares name wanted short ∧
      r = { package := name, short, variant := some wanted,
            project := "@fux/" ++ name ++ "-" ++ wanted } := by
  have hcovers (variant : String) : coverage.covers variant = true ↔ wanted = variant := by
    simp [Coverage.covers, h]
  rw [covered_of_variant? h, mem_coveredVariants_iff]
  simp only [hcovers]
  constructor
  · rintro ⟨name, variant, short, rfl, hdeclares, hr⟩
    exact ⟨name, short, hdeclares, hr⟩
  · rintro ⟨name, short, hdeclares, hr⟩
    exact ⟨name, wanted, short, rfl, hdeclares, hr⟩

theorem pairwise_package_of_variant? {wanted : String} (h : coverage.variant? = some wanted) :
    (c.covered coverage).Pairwise fun r r' => toBytes r.package < toBytes r'.package := by
  have hwanted : ∀ r ∈ c.covered coverage, r.variant = some wanted := by
    intro r hr
    obtain ⟨name, short, -, rfl⟩ := (mem_covered_of_variant? h).1 hr
    rfl
  have hplaces := pairwise_coveredVariants c coverage
  rw [← covered_of_variant? h] at hplaces
  refine hplaces.imp_of_mem fun {r r'} hr hr' hlex => ?_
  rcases Prod.lex_def.1 hlex with hlt | ⟨-, hlt⟩
  · exact hlt
  · rw [Resolution.place, Resolution.place, hwanted r hr, hwanted r' hr'] at hlt
    exact absurd hlt (List.lt_irrefl _)

theorem pairwise_directProjects (c : Config) :
    c.directProjects.Pairwise fun r r' => toBytes r.short < toBytes r'.short := by
  refine List.pairwise_filterMap.2 (c.aliases.rising.imp fun {e e'} hlt r hr r' hr' => ?_)
  obtain ⟨short, name | project⟩ := e
  · cases hr
  · obtain ⟨short', name' | project'⟩ := e'
    · cases hr'
    · cases hr
      cases hr'
      exact toBytes_lt_iff.2 hlt

theorem mem_directProjects_iff (hc : c.isValid = true) : r ∈ c.directProjects ↔
    ∃ short project, c.Claims short (.project project) ∧
      r = { package := project, short, variant := none, project } := by
  rw [mem_directProjects]
  constructor
  · rintro ⟨short, project, htarget, rfl⟩
    exact ⟨short, project, claims_of_aliasTarget? htarget, rfl⟩
  · rintro ⟨short, project, hclaims, rfl⟩
    exact ⟨short, project, hclaims.aliasTarget?_eq hc, rfl⟩

theorem resolve_of_mem_directProjects (h : r ∈ c.directProjects) : c.resolve r.short = .ok r := by
  obtain ⟨short, project, htarget, rfl⟩ := mem_directProjects.1 h
  exact resolve_of_project htarget

theorem Claims.exists_package (h : c.Claims short (.package name)) :
    ∃ p, (name, .structured p) ∈ c.packages.entries := by
  cases h with
  | base entry _ => exact ⟨_, entry⟩
  | variant entry _ => exact ⟨_, entry⟩

theorem contains_iff_declares {p : StructuredPackage}
    (hp : (name, .structured p) ∈ c.packages.entries) :
    p.variants.contains variant = true ↔ ∃ own, c.Declares name variant own := by
  rw [SortedMap.contains_iff_mem_keys, mem_keys_iff]
  constructor
  · rintro ⟨own, hown⟩
    exact ⟨own, p, hp, hown⟩
  · rintro ⟨own, p', hp', hown⟩
    cases SortedMap.eq_of_mem hp' hp
    exact ⟨own, hown⟩

theorem resolveVariant_of_declares (hc : c.isValid = true) (h : c.Claims short (.package name))
    {own : String} (hv : c.Declares name variant own) :
    c.resolveVariant short variant = .ok (.ofPackage name short (some variant)) := by
  obtain ⟨p, hp⟩ := h.exists_package
  rw [resolveVariant_of_package (h.aliasTarget?_eq hc) (structuredPackage?_eq_some_iff.2 hp),
    if_pos ((contains_iff_declares hp).2 ⟨own, hv⟩)]

theorem resolveVariant_of_not_declares (hc : c.isValid = true) (h : c.Claims short (.package name))
    (hv : ∀ own, ¬c.Declares name variant own) :
    c.resolveVariant short variant = .error (.unknownVariant name variant) := by
  obtain ⟨p, hp⟩ := h.exists_package
  rw [resolveVariant_of_package (h.aliasTarget?_eq hc) (structuredPackage?_eq_some_iff.2 hp),
    if_neg fun hcontains => not_exists.2 hv ((contains_iff_declares hp).1 hcontains)]

theorem resolveVariant_of_covered {wanted : String} (hc : c.isValid = true)
    (h : coverage.variant? = some wanted) (hr : r ∈ c.covered coverage)
    (hclaims : c.Claims short (.package r.package)) :
    c.resolveVariant short wanted = .ok { r with short } := by
  obtain ⟨name, own, hdeclares, rfl⟩ := (mem_covered_of_variant? h).1 hr
  rw [resolveVariant_of_declares hc hclaims hdeclares, Resolution.ofPackage_eq]

end Config

namespace Workspace

variable {w : Workspace} {coverage : Coverage} {wanted : String}

theorem resolutions_named (hc : w.config.isValid = true) (h : coverage.variant? = some wanted)
    {pick : Resolution → String}
    (hpick : ∀ r ∈ w.config.covered coverage, w.config.Claims (pick r) (.package r.package)) :
    w.resolutions coverage ((w.config.covered coverage).map pick) =
      (w.resolutions coverage []).map (List.map fun r => { r with short := pick r }) := by
  rw [resolutions_nil, resolutions]
  split
  · rename_i hempty
    have hnone : w.config.covered coverage = [] := by simpa using hempty
    rw [hnone]
    rfl
  · simp only [h]
    rw [List.mapM_map]
    exact mapM_eq_map fun r hr => Config.resolveVariant_of_covered hc h hr (hpick r hr)

/-- A run over one variant covers each package that declares it once, by name, and an alias of a
package leads in that variant to what the run covers of the package, or to an error if that is
nothing. A run over everything covers each variant of each package once and then each direct project
once, which is what its alias stands for. -/
theorem covered_eq_resolved (w : Workspace) (hc : w.config.isValid = true) :
    (∀ coverage variant, (coverage, variant) ∈ [(Coverage.core, "core"), (Coverage.ext, "ext")] →
      (w.config.covered coverage).Pairwise (fun r r' => toBytes r.package < toBytes r'.package) ∧
      (∀ r, r ∈ w.config.covered coverage ↔ ∃ name short, w.config.Declares name variant short ∧
        r = { package := name, short, variant := some variant,
              project := "@fux/" ++ name ++ "-" ++ variant }) ∧
      (∀ short name, w.config.Claims short (.package name) →
        (∀ r ∈ w.config.covered coverage, r.package = name →
          w.config.resolveVariant short variant = .ok { r with short }) ∧
        ((∀ own, ¬w.config.Declares name variant own) →
          w.config.resolveVariant short variant = .error (.unknownVariant name variant))) ∧
      ∀ pick : Resolution → String,
        (∀ r ∈ w.config.covered coverage, w.config.Claims (pick r) (.package r.package)) →
        w.resolutions coverage ((w.config.covered coverage).map pick) =
          (w.resolutions coverage []).map (List.map fun r => { r with short := pick r })) ∧
    ∃ variants direct, w.config.covered .all = variants ++ direct ∧
      variants.Pairwise (fun r r' => Prod.Lex (· < ·) (· < ·) r.place r'.place) ∧
      (∀ r, r ∈ variants ↔ ∃ name variant short, w.config.Declares name variant short ∧
        r = { package := name, short, variant := some variant,
              project := "@fux/" ++ name ++ "-" ++ variant }) ∧
      direct.Pairwise (fun r r' => toBytes r.short < toBytes r'.short) ∧
      (∀ r, r ∈ direct ↔ ∃ short project, w.config.Claims short (.project project) ∧
        r = { package := project, short, variant := none, project }) ∧
      ∀ r ∈ direct, w.config.resolve r.short = .ok r := by
  refine ⟨fun coverage variant hmem => ?_, _, _, rfl, Config.pairwise_coveredVariants _ _,
    fun r => ?_, Config.pairwise_directProjects _, fun r => Config.mem_directProjects_iff hc,
    fun r => Config.resolve_of_mem_directProjects⟩
  · have hvariant : coverage.variant? = some variant := by
      rcases List.mem_pair.1 hmem with heq | heq <;> cases heq <;> rfl
    refine ⟨Config.pairwise_package_of_variant? hvariant,
      fun r => Config.mem_covered_of_variant? hvariant,
      fun short name hclaims =>
        ⟨fun r hr hname => ?_, Config.resolveVariant_of_not_declares hc hclaims⟩,
      fun pick => resolutions_named hc hvariant⟩
    subst hname
    exact Config.resolveVariant_of_covered hc hvariant hr hclaims
  · have hcovers (variant : String) : Coverage.all.covers variant = true := rfl
    simp only [Config.mem_coveredVariants_iff, hcovers, true_and]

/-- A package without the variant `ext`, beside one with it and two projects. -/
def unevenly : Workspace where
  config :=
    { packages := .ofList [("aka", .direct "@fux/aka-tool"),
        ("dc", .structured
          { aliases := ["dc"], variants := .ofList [("core", "dcc"), ("ext", "dce")],
            default := "core" }),
        ("gw", .structured { aliases := ["gw", "ghost"], variants := .ofList [("core", "gwc")] }),
        ("tools", .bucket (.ofList [("mh", "@fux/mockly")]))] }
  settings := {}
  environment := ∅

theorem covered_eq_resolved_unevenly :
    (unevenly.config.isValid = true ∧ unevenly.config.Claims "dc" (.package "dc") ∧
      unevenly.config.Claims "ghost" (.package "gw")) ∧
    unevenly.config.covered .ext = [⟨"dc", "dce", some "ext", "@fux/dc-ext"⟩] ∧
    unevenly.config.resolveVariant "dc" "ext" = .ok ⟨"dc", "dc", some "ext", "@fux/dc-ext"⟩ ∧
    unevenly.config.resolveVariant "ghost" "ext" = .error (.unknownVariant "gw" "ext") ∧
    unevenly.resolutions .ext ["dc"] = .ok [⟨"dc", "dc", some "ext", "@fux/dc-ext"⟩] ∧
    (unevenly.config.covered .all).map (·.short) = ["dcc", "dce", "gwc", "aka", "mh"] := by
  have hvalid : unevenly.config.isValid = true := by decide +kernel
  have hdc : unevenly.config.Claims "dc" (.package "dc") :=
    Config.mem_claims_iff.1 (by decide +kernel)
  have hghost : unevenly.config.Claims "ghost" (.package "gw") :=
    Config.mem_claims_iff.1 (by decide +kernel)
  have hcovered : unevenly.config.covered .ext = [⟨"dc", "dce", some "ext", "@fux/dc-ext"⟩] := by
    decide +kernel
  have hundeclared : ∀ own, ¬unevenly.config.Declares "gw" "ext" own := by
    rintro own ⟨p, hp, hv⟩
    have hall : ∀ e ∈ unevenly.config.structuredPackages.entries,
      e.1 = "gw" → "ext" ∉ e.2.variants.keys := by
      decide +kernel
    exact hall ("gw", p) (Config.mem_structuredPackages.2 hp) rfl (Config.mem_keys_iff.2 ⟨own, hv⟩)
  obtain ⟨-, -, hresolve, hpick⟩ := (covered_eq_resolved unevenly hvalid).1 .ext "ext" (by simp)
  have hnamed := hpick (fun r => r.package) (by rw [hcovered]; simpa using hdc)
  rw [hcovered, resolutions_nil, hcovered] at hnamed
  have hext :=
    (hresolve "dc" "dc" hdc).1 ⟨"dc", "dce", some "ext", "@fux/dc-ext"⟩ (by simp [hcovered]) rfl
  exact ⟨⟨hvalid, hdc, hghost⟩, hcovered, hext,
    (hresolve "ghost" "gw" hghost).2 hundeclared, hnamed, by decide +kernel⟩

end Workspace

end Shorthand
