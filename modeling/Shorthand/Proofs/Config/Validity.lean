import Shorthand.Config.Validation
import Shorthand.Proofs.Config.Braces
import Shorthand.Proofs.Config.Claims
/-!
What a configuration without problems is. The conditions speak of its entries alone; that the checks
of the validation find every breach of them, and report nothing else, is shown check by check.
-/
set_option autoImplicit false

namespace Shorthand

structure StructuredPackage.WellFormed (p : StructuredPackage) : Prop where
  aliases : p.aliases ≠ []
  variants : p.variants.entries ≠ []
  default : p.default = "" ∨ ∃ short, (p.default, short) ∈ p.variants.entries

structure Targets.WellFormed (t : Targets) : Prop where
  some_map : t.nx ≠ none ∨ t.external ≠ none
  disjoint : ∀ nx external, t.nx = some nx → t.external = some external →
    ∀ word, word ∈ nx.keys → word ∉ external.keys

inductive FlagEntry.Carries : FlagEntry → String → Prop
  | whole (template : String) : Carries (.literal template) template
  | own {flag : TemplateFlag} {template : String} (h : flag.template = some template) :
      Carries (.detailed flag) template
  | one {flag : TemplateFlag} {entry : TemplateEntry}
      (h : flag.pwsh = some (.one entry) ∨
        flag.linux = some (.one entry) ∨ flag.cmd = some (.one entry)) :
      Carries (.detailed flag) entry.template
  | many {flag : TemplateFlag} {entries : List TemplateEntry} {entry : TemplateEntry}
      (h : flag.pwsh = some (.many entries) ∨
        flag.linux = some (.many entries) ∨ flag.cmd = some (.many entries))
      (mem : entry ∈ entries) : Carries (.detailed flag) entry.template

theorem FlagEntry.Carries.shell {flag : TemplateFlag} {templates : ShellTemplates}
    {entry : TemplateEntry}
    (h : flag.pwsh = some templates ∨ flag.linux = some templates ∨ flag.cmd = some templates)
    (mem : entry ∈ templates.toList) : Carries (.detailed flag) entry.template := by
  cases templates with
  | one given =>
    obtain rfl := List.mem_singleton.1 mem
    exact .one h
  | many entries => exact .many h mem

structure Config.WellFormed (c : Config) : Prop where
  /-- No command is also an alias. -/
  commands : ∀ name ∈ c.commands.keys, ∀ target, ¬c.Claims name target
  packages : ∀ name p, (name, .structured p) ∈ c.packages.entries → p.WellFormed
  /-- All who claim an alias want the same of it. -/
  claims : ∀ short first second, c.Claims short first → c.Claims short second → first = second
  targets : ∀ t, c.targets = some t → t.WellFormed
  /-- Braces stand in pairs in every template of every section. -/
  templates : ∀ flags ∈ [c.expandableFlags, c.contextFlags, c.internalFlags, c.environmentFlags],
    ∀ key entry, (key, entry) ∈ flags.entries →
      ∀ template, entry.Carries template → ¬HasOddRun template.toList

theorem StructuredPackage.problems_eq_nil_iff (name : String) (p : StructuredPackage) :
    p.problems name = [] ↔ p.WellFormed := by
  have haliases : p.aliasProblems name = [] ↔ p.aliases ≠ [] := by simp [aliasProblems]
  have hvariants : p.variantProblems name = [] ↔
      p.variants.entries ≠ [] ∧
        (p.default = "" ∨ ∃ short, (p.default, short) ∈ p.variants.entries) := by
    rw [variantProblems]
    by_cases hempty : p.variants.entries = []
    · simp [SortedMap.isEmpty, hempty]
    · simp [SortedMap.isEmpty, hempty, SortedMap.keys, Decidable.or_iff_not_imp_left]
  rw [problems, List.append_eq_nil_iff, haliases, hvariants]
  exact ⟨fun h => ⟨h.1, h.2.1, h.2.2⟩, fun h => ⟨h.aliases, h.variants, h.default⟩⟩

theorem FlagEntry.mem_templates_iff {entry : FlagEntry} {template : String} :
    template ∈ entry.templates ↔ entry.Carries template := by
  cases entry with
  | literal text =>
    refine List.mem_singleton.trans ⟨?_, ?_⟩
    · rintro rfl
      exact .whole _
    · rintro ⟨⟩
      rfl
  | detailed flag =>
    have hshell (templates : Option ShellTemplates) :
        template ∈ ((templates.map ShellTemplates.toList).getD []).map (·.template) ↔
          ∃ given, templates = some given ∧ ∃ e ∈ given.toList, e.template = template := by
      cases templates <;> simp
    simp only [templates, List.mem_append, Option.mem_toList, List.flatMap_cons, List.flatMap_nil,
      List.append_nil, hshell]
    constructor
    · rintro (h | ⟨given, h, e, he, rfl⟩ | ⟨given, h, e, he, rfl⟩ | ⟨given, h, e, he, rfl⟩)
      · exact .own h
      · exact .shell (.inl h) he
      · exact .shell (.inr (.inl h)) he
      · exact .shell (.inr (.inr h)) he
    · have hgiven (given : ShellTemplates) {e : TemplateEntry} (he : e ∈ given.toList)
          (h : flag.pwsh = some given ∨ flag.linux = some given ∨ flag.cmd = some given) :
          (∃ g, flag.pwsh = some g ∧ ∃ e' ∈ g.toList, e'.template = e.template) ∨
            (∃ g, flag.linux = some g ∧ ∃ e' ∈ g.toList, e'.template = e.template) ∨
            ∃ g, flag.cmd = some g ∧ ∃ e' ∈ g.toList, e'.template = e.template := by
        rcases h with h | h | h
        · exact .inl ⟨given, h, e, he, rfl⟩
        · exact .inr (.inl ⟨given, h, e, he, rfl⟩)
        · exact .inr (.inr ⟨given, h, e, he, rfl⟩)
      rintro (_ | h | h | ⟨h, he⟩)
      · exact .inl h
      · exact .inr (hgiven (.one _) (List.mem_singleton.2 rfl) h)
      · exact .inr (hgiven (.many _) he h)

namespace Config

theorem commandProblems_eq_nil_iff (c : Config) :
    c.commandProblems = [] ↔ ∀ name ∈ c.commands.keys, ∀ target, ¬c.Claims name target := by
  simp [commandProblems, hasAlias_iff]

theorem packageProblems_eq_nil_iff (c : Config) :
    c.packageProblems = [] ↔ ∀ name p,
      (name, .structured p) ∈ c.packages.entries → p.WellFormed := by
  simp [packageProblems, mem_structuredPackages, StructuredPackage.problems_eq_nil_iff]

theorem aliasProblems_eq_nil_iff (c : Config) :
    c.aliasProblems = [] ↔
      ∀ short first second, c.Claims short first → c.Claims short second → first = second :=
  List.map_eq_nil_iff.trans lostClaims_eq_nil_iff

theorem targetProblems_eq_nil_iff (c : Config) :
    c.targetProblems = [] ↔ ∀ t, c.targets = some t → t.WellFormed := by
  have hwell (t : Targets) : t.WellFormed ↔ (t.nx ≠ none ∨ t.external ≠ none) ∧
      ∀ nx external, t.nx = some nx →
        t.external = some external → ∀ word, word ∈ nx.keys → word ∉ external.keys :=
    ⟨fun h => ⟨h.some_map, h.disjoint⟩, fun h => ⟨h.1, h.2⟩⟩
  rcases htargets : c.targets with _ | ⟨_ | nx, _ | external⟩ <;>
    simp [targetProblems, htargets, hwell]

theorem templateProblems_eq_nil_iff (c : Config) :
    c.templateProblems = [] ↔
      ∀ flags ∈ [c.expandableFlags, c.contextFlags, c.internalFlags, c.environmentFlags],
      ∀ key entry, (key, entry) ∈ flags.entries → ∀ template, entry.Carries template →
        ¬HasOddRun template.toList := by
  simp only [templateProblems, List.flatMap_eq_nil_iff, List.map_eq_nil_iff, List.filter_eq_nil_iff,
    Prod.forall, FlagEntry.mem_templates_iff, hasSingleBrace_iff, List.forall_mem_cons,
    List.not_mem_nil, flagsOf, false_imp_iff, implies_true]

/-- The validation passes exactly the configurations in which every part is as it should be. -/
theorem isValid_iff_wellFormed (c : Config) : c.isValid = true ↔ c.WellFormed := by
  rw [isValid, List.isEmpty_iff, problems]
  simp only [List.append_eq_nil_iff, commandProblems_eq_nil_iff, packageProblems_eq_nil_iff,
    aliasProblems_eq_nil_iff, targetProblems_eq_nil_iff, templateProblems_eq_nil_iff]
  constructor
  · rintro ⟨⟨⟨⟨commands, packages⟩, claims⟩, targets⟩, templates⟩
    exact ⟨commands, packages, claims, targets, templates⟩
  · intro h
    exact ⟨⟨⟨⟨h.commands, h.packages⟩, h.claims⟩, h.targets⟩, h.templates⟩

/-- A flag whose second template for one of the shells has braces that stand alone. -/
def halfBraced : Config where
  environmentFlags := .ofList
    [("mem", .detailed
      { template := some "MEM=\x7b\x7bsize\x7d\x7d"
        linux := some (.many [{ template := "MEM=1" }, { template := "ulimit \x7bsize\x7d" }]) })]

theorem isValid_iff_wellFormed_halfBraced :
    halfBraced.isValid = false ∧ ¬halfBraced.WellFormed ∧
    { halfBraced with environmentFlags := ∅ }.WellFormed := by
  have hinvalid : halfBraced.isValid = false := by decide +kernel
  refine ⟨hinvalid, fun h => ?_, (isValid_iff_wellFormed _).1 (by decide +kernel)⟩
  cases hinvalid.symm.trans ((isValid_iff_wellFormed halfBraced).2 h)

end Config

end Shorthand
