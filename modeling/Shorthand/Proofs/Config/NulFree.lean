import Shorthand.Proofs.Config.Resolution
import Shorthand.Proofs.Flag.NulFree
import Shorthand.Proofs.Json.Visible
set_option autoImplicit false

namespace Shorthand

open Words (NulFree)

theorem nulFree_of_visible {s : String} (h : Visible s.toList) : NulFree s :=
  fun hc => absurd (h _ hc) (by decide)

theorem nulFree_defaultText {value : Json.Value} (h : ∀ s, value = .string s → NulFree s) :
    NulFree (Flag.defaultText value) := by
  have hwritten (v : Json.Value) : NulFree v.text :=
    nulFree_of_visible (by simpa [Json.Value.text] using v.visible_write)
  cases value with
  | string s => exact h s rfl
  | _ => exact hwritten _

def PackageEntry.texts : PackageEntry → List String
  | structured p => p.aliases ++ p.variants.keys ++ p.variants.values ++ [p.default]
  | direct project => [project]
  | bucket projects => projects.keys ++ projects.values

def defaultTexts : String × Json.Value → List String
  | (name, .string s) => [name, s]
  | (name, _) => [name]

def FlagEntry.texts : FlagEntry → List String
  | literal template => [template]
  | detailed flag => (FlagEntry.detailed flag).templates ++ flag.defaults.flatMap defaultTexts

namespace Config

def texts (c : Config) : List String :=
  (c.packages.entries.flatMap fun e => e.1 :: e.2.texts) ++
  ((c.nxTargets?.toList ++ c.externalTargets?.toList).flatMap fun m => m.keys ++ m.values) ++
  (c.features.entries.flatMap fun e => e.1 :: e.2.target :: e.2.runFrom.toList) ++
  ([FlagKind.expandable, .contextAware, .internal, .environment].flatMap fun kind =>
    (c.flagsOf kind).entries.flatMap fun e => e.1 :: e.2.texts) ++
  c.commands.keys ++ c.commands.values

/-- No text of the configuration holds U+0000. -/
def NulFree (c : Config) : Prop := ∀ text ∈ c.texts, Words.NulFree text

instance (c : Config) : Decidable c.NulFree :=
  inferInstanceAs (Decidable (∀ text ∈ c.texts, Words.NulFree text))

namespace NulFree

variable {c : Config} {key short : String} {r : Resolution}

theorem package (h : c.NulFree) {entry : PackageEntry} (he : (key, entry) ∈ c.packages.entries) :
    ∀ text ∈ key :: entry.texts, Words.NulFree text := fun text ht => by
  refine h text ?_
  simp only [texts, List.mem_append, List.mem_flatMap]
  exact .inl (.inl (.inl (.inl (.inl ⟨_, he, ht⟩))))

theorem target (h : c.NulFree) {m : SortedMap String}
    (hm : c.nxTargets? = some m ∨ c.externalTargets? = some m) {value : String}
    (hv : (key, value) ∈ m.entries) : Words.NulFree value := by
  refine h value ?_
  simp only [texts, List.mem_append, List.mem_flatMap]
  refine .inl (.inl (.inl (.inl (.inr ⟨m, ?_, .inr (List.mem_map_of_mem hv)⟩))))
  simpa using hm

theorem feature (h : c.NulFree) {f : FeatureTarget} (hf : (key, f) ∈ c.features.entries) :
    Words.NulFree f.target ∧ ∀ variant, f.runFrom = some variant → Words.NulFree variant := by
  have hall : ∀ text ∈ key :: f.target :: f.runFrom.toList, Words.NulFree text := fun text ht => by
    refine h text ?_
    simp only [texts, List.mem_append, List.mem_flatMap]
    exact .inl (.inl (.inl (.inr ⟨_, hf, ht⟩)))
  exact ⟨hall _ (by simp), fun variant hv => hall _ (by simp [hv])⟩

theorem flag (h : c.NulFree) {kind : FlagKind} {entry : FlagEntry}
    (he : (key, entry) ∈ (c.flagsOf kind).entries) :
    ∀ text ∈ entry.texts, Words.NulFree text := fun text ht => by
  refine h text ?_
  simp only [texts, List.mem_append, List.mem_flatMap]
  refine .inl (.inl (.inr ⟨kind, ?_, _, he, List.mem_cons_of_mem _ ht⟩))
  cases kind <;> simp

end NulFree

end Config

theorem Flag.carries_of_mem_templatesFor {kind : FlagKind} {entry : FlagEntry} {shell : Shell}
    {t : PlacedTemplate} (h : t ∈ (Flag.ofEntry kind entry).templatesFor shell) :
    entry.Carries t.template := by
  cases entry with
  | literal template =>
    obtain rfl : t = ⟨template, kind.position⟩ := by
      cases shell <;> simpa [Flag.templatesFor, Flag.shellTemplates?, Flag.ofEntry] using h
    exact .whole template
  | detailed flag =>
    have hown (h : t ∈ (Flag.ofEntry kind (.detailed flag)).templates) :
        FlagEntry.Carries (.detailed flag) t.template := by
      obtain ⟨template, htemplate, rfl⟩ := List.mem_map.1 h
      exact .own (Option.mem_toList.1 htemplate)
    have hshell (given : Option ShellTemplates)
      (hgiven : flag.pwsh = given ∨ flag.linux = given ∨ flag.cmd = given)
        (h : t ∈ (given.map fun entries => entries.toList.map fun e =>
          (⟨e.template, e.position.getD (flag.position.getD kind.position)⟩ : PlacedTemplate)).getD
            (Flag.ofEntry kind (.detailed flag)).templates) :
        FlagEntry.Carries (.detailed flag) t.template := by
      cases given with
      | none => exact hown h
      | some entries =>
        obtain ⟨e, he, rfl⟩ := List.mem_map.1 h
        exact .shell hgiven he
    cases shell with
    | pwsh => exact hshell flag.pwsh (.inl rfl) h
    | linux => exact hshell flag.linux (.inr (.inl rfl)) h
    | cmd => exact hshell flag.cmd (.inr (.inr rfl)) h
    | unknown => exact hown h

theorem Flag.nulFree_ofEntry {kind : FlagKind} {entry : FlagEntry}
    (h : ∀ text ∈ entry.texts, Words.NulFree text) :
    (Flag.ofEntry kind entry).NulFree where
  templates shell t ht := by
    have hmem := FlagEntry.mem_templates_iff.2 (Flag.carries_of_mem_templatesFor ht)
    refine h _ ?_
    cases entry with
    | literal template => exact hmem
    | detailed flag => exact List.mem_append_left _ hmem
  defaults d hd := by
    cases entry with
    | literal template => cases hd
    | detailed flag =>
      obtain ⟨⟨name, value⟩, hvalue, rfl⟩ := List.mem_map.1 hd
      refine nulFree_defaultText ?_
      rintro s rfl
      exact h s (List.mem_append_right _ (List.mem_flatMap.2 ⟨_, hvalue, by simp [defaultTexts]⟩))

namespace Config

variable {c : Config} {key short : String} {r : Resolution}

theorem exists_of_get?_flagTable {flag : Flag} (h : c.flagTable.get? key = some flag) :
    ∃ kind entry, (key, entry) ∈ (c.flagsOf kind).entries ∧ flag = Flag.ofEntry kind entry := by
  have hfold (kinds : List FlagKind) (table : FlagTable)
      (h : (kinds.foldl (fun table kind =>
        table.override ((c.flagsOf kind).map (Flag.ofEntry kind))) table).get? key =
        some flag) :
      table.get? key = some flag ∨
        ∃ kind entry, (key, entry) ∈ (c.flagsOf kind).entries ∧ flag = Flag.ofEntry kind entry := by
    induction kinds generalizing table with
    | nil => exact .inl h
    | cons kind kinds ih =>
      rcases ih _ h with h | h
      · rw [SortedMap.get?_override] at h
        rcases Option.or_eq_some_iff.1 h with h | ⟨-, h⟩
        · obtain ⟨⟨k, entry⟩, hentry, heq⟩ := List.mem_map.1 (SortedMap.get?_eq_some_iff.1 h)
          obtain ⟨rfl, rfl⟩ := Prod.mk.inj heq
          exact .inr ⟨kind, entry, hentry, rfl⟩
        · exact .inl h
      · exact .inr h
  exact (hfold _ _ h).resolve_left (by simp)

namespace NulFree

theorem flagTable (h : c.NulFree) {flag : Flag} (hflag : c.flagTable.get? key = some flag) :
    flag.NulFree := by
  obtain ⟨kind, entry, he, rfl⟩ := exists_of_get?_flagTable hflag
  exact Flag.nulFree_ofEntry (h.flag he)

theorem claims (h : c.NulFree) {target : AliasTarget} (hs : c.Claims short target) :
    Words.NulFree short ∧ Words.NulFree target.name := by
  cases hs with
  | base entry mem =>
    have hfree := h.package entry
    exact ⟨hfree _ (by simp [PackageEntry.texts, mem]), hfree _ (by simp [AliasTarget.name])⟩
  | @variant _ p name _ entry mem =>
    have hfree := h.package entry
    have hvalue : short ∈ p.variants.values := List.mem_map_of_mem mem
    exact ⟨hfree _ (by simp [PackageEntry.texts, hvalue]), hfree _ (by simp [AliasTarget.name])⟩
  | direct entry =>
    have hfree := h.package entry
    exact ⟨hfree _ (by simp), hfree _ (by simp [PackageEntry.texts, AliasTarget.name])⟩
  | @bucket _ projects _ project entry mem =>
    have hfree := h.package entry
    have hkey : short ∈ projects.keys := List.mem_map_of_mem mem
    have hvalue : project ∈ projects.values := List.mem_map_of_mem mem
    exact ⟨hfree _ (by simp [PackageEntry.texts, hkey]),
      hfree _ (by simp [PackageEntry.texts, AliasTarget.name, hvalue])⟩

theorem variantOf (h : c.NulFree) {p : StructuredPackage}
    (hp : (key, .structured p) ∈ c.packages.entries) {variant : String}
    (hv : p.variantOf short = some variant) : Words.NulFree variant := by
  have hfree := h.package hp
  rcases Option.or_eq_some_iff.1 hv with hv | ⟨-, hv⟩
  · obtain ⟨e, hfind, rfl⟩ := Option.map_eq_some_iff.1 hv
    have hkey : e.1 ∈ p.variants.keys := List.mem_map_of_mem (List.mem_of_find?_eq_some hfind)
    exact hfree _ (by simp [PackageEntry.texts, hkey])
  · split at hv
    · cases hv
    · obtain rfl := Option.some.inj hv
      exact hfree _ (by simp [PackageEntry.texts])

end NulFree

end Config

structure Resolution.NulFree (r : Resolution) : Prop where
  package : Words.NulFree r.package
  short : Words.NulFree r.short
  variant : ∀ v, r.variant = some v → Words.NulFree v
  project : Words.NulFree r.project

theorem Resolution.nulFree_ofPackage {package short : String} {variant : Option String}
    (hp : Words.NulFree package) (hs : Words.NulFree short)
    (hv : ∀ v, variant = some v → Words.NulFree v) :
    (Resolution.ofPackage package short variant).NulFree where
  package := hp
  short := hs
  variant := hv
  project := by
    have hbase : Words.NulFree (packageScope ++ "/" ++ package) :=
      .append (.append (by decide) (by decide)) hp
    cases variant with
    | none => exact hbase.append (by decide)
    | some v => exact hbase.append (.append (by decide) (hv v rfl))

namespace Config.NulFree

variable {c : Config} {short variant word : String} {r : Resolution}

theorem resolve (h : c.NulFree) (hr : c.resolve short = .ok r) : r.NulFree := by
  unfold Config.resolve at hr
  split at hr
  · rename_i project htarget
    obtain rfl := Except.ok.inj hr
    obtain ⟨hshort, hproject⟩ := h.claims (claims_of_aliasTarget? htarget)
    exact ⟨hproject, hshort, by simp [Resolution.ofProject], hproject⟩
  · rename_i name htarget
    obtain ⟨hshort, hname⟩ := h.claims (claims_of_aliasTarget? htarget)
    split at hr
    · rename_i p hp
      obtain rfl := Except.ok.inj hr
      exact Resolution.nulFree_ofPackage hname hshort fun v =>
        h.variantOf (structuredPackage?_eq_some_iff.1 hp)
    · cases hr
  · cases hr

theorem resolveVariant (h : c.NulFree) (hv : Words.NulFree variant)
    (hr : c.resolveVariant short variant = .ok r) :
    r.NulFree := by
  obtain ⟨r', hresolve, hr⟩ := exists_of_bind_eq_ok hr
  have hfree := h.resolve hresolve
  split at hr
  · obtain rfl := Except.ok.inj hr
    exact hfree
  · split at hr
    · obtain rfl := Except.ok.inj hr
      have hshort : Words.NulFree short := short_of_resolve hresolve ▸ hfree.short
      exact Resolution.nulFree_ofPackage hfree.package hshort (by simpa using hv)
    · cases hr

theorem resolveTarget (h : c.NulFree) (hw : Words.NulFree word) :
    Words.NulFree (c.resolveTarget word).target := by
  rcases resolveTarget_cases c word with hself | ⟨tier, m, target, hmem, hget, heq⟩
  · rw [hself]
    exact hw
  · rw [heq]
    have hentry := SortedMap.get?_eq_some_iff.1 hget
    simp only [targetTiers, List.mem_cons, Prod.mk.injEq, List.not_mem_nil, or_false] at hmem
    rcases hmem with ⟨-, rfl⟩ | ⟨-, rfl⟩ | ⟨-, rfl⟩
    · obtain ⟨⟨key, feature⟩, hfeature, heq⟩ := List.mem_map.1 hentry
      obtain ⟨rfl, rfl⟩ := Prod.mk.inj heq
      exact (h.feature hfeature).1
    · cases hm : c.nxTargets? with
      | none => simp [hm] at hget
      | some m => exact h.target (.inl hm) (by simpa [hm] using hentry)
    · cases hm : c.externalTargets? with
      | none => simp [hm] at hget
      | some m => exact h.target (.inr hm) (by simpa [hm] using hentry)

end Config.NulFree

theorem Context.nulFree_ofResolution {r : Resolution} (hr : r.NulFree) {target : String}
    (ht : Words.NulFree target) :
    Variables.NulFree (Context.ofResolution r target).bindings := by
  refine Variables.NulFree.empty.foldl_insert fun e he => ?_
  obtain ⟨⟨name, value⟩, hmem, hvalue⟩ := List.mem_filterMap.1 he
  obtain ⟨text, htext, rfl⟩ := Option.map_eq_some_iff.1 hvalue
  dsimp only at htext
  simp only [Context.ofResolution, List.mem_cons, Prod.mk.injEq, List.not_mem_nil, or_false] at hmem
  rcases hmem with ⟨-, rfl⟩ | ⟨-, rfl⟩ | ⟨-, rfl⟩ | ⟨-, rfl⟩ | ⟨-, rfl⟩
  · exact Option.some.inj htext ▸ hr.short
  · exact Option.some.inj htext ▸ hr.package
  · exact Option.some.inj htext ▸ hr.project
  · exact hr.variant _ htext
  · exact Option.some.inj htext ▸ ht

end Shorthand
