import Shorthand.Config.Printer
import Shorthand.Config.Shape
import Shorthand.Proofs.Json.Printed
import Shorthand.Proofs.Override
/-!
Package and flag entries as the values that they are written as. An entry has the shape of its
value, and no other: only a bucket whose single key is a field of definitions is taken for a
definition.
-/
set_option autoImplicit false

namespace Shorthand

open Json

variable {α : Type} {P : Number → Prop} {depth : Nat}

theorem SortedMap.ofList_entries (m : SortedMap α) : SortedMap.ofList m.entries = m :=
  SortedMap.empty_override m

def mapValue (m : SortedMap String) : Value := .object (m.entries.map fun e => (e.1, .string e.2))

def optionValue (f : α → Value) : Option α → Value
  | none => .null
  | some a => f a

def StructuredPackage.toValue (p : StructuredPackage) : Value :=
  .object [("aliases", .list (p.aliases.map .string)), ("variants", mapValue p.variants),
    ("default", .string p.default)]

def PackageEntry.toValue : PackageEntry → Value
  | structured package => package.toValue
  | direct project => .string project
  | bucket projects => mapValue projects

def Position.toValue (p : Position) : Value := .string p.word

def TemplateEntry.toValue (t : TemplateEntry) : Value :=
  .object [("template", .string t.template), ("position", optionValue Position.toValue t.position)]

def ShellTemplates.toValue : ShellTemplates → Value
  | one entry => entry.toValue
  | many entries => .list (entries.map TemplateEntry.toValue)

def TemplateFlag.toValue (f : TemplateFlag) : Value :=
  .object [("template", optionValue .string f.template),
    ("position", optionValue Position.toValue f.position), ("defaults", .object f.defaults),
    ("pwsh-template", optionValue ShellTemplates.toValue f.pwsh),
    ("linux-template", optionValue ShellTemplates.toValue f.linux),
    ("cmd-template", optionValue ShellTemplates.toValue f.cmd)]

def FlagEntry.toValue : FlagEntry → Value
  | literal template => .string template
  | detailed flag => flag.toValue

@[simp] theorem write_list (items : List Value) :
    (Value.list items).write = writeList (items.map Value.write) := by
  rw [Value.write, writtenItems_eq_map]

@[simp] theorem write_object (entries : List (String × Value)) :
    (Value.object entries).write = writeObject (entries.map fun e => (e.1, e.2.write)) := by
  rw [Value.write, writtenEntries_eq_map]

@[simp] theorem write_string (s : String) : (Value.string s).write = writeString s := rfl

@[simp] theorem write_mapValue (m : SortedMap String) :
    (mapValue m).write = writeMap writeString m := by
  simp [mapValue, writeMap, Function.comp_def]

theorem write_optionValue {f : α → Value} {w : α → List Char} (h : ∀ a, (f a).write = w a)
    (o : Option α) :
    (optionValue f o).write = writeOption w o := by
  cases o with
  | none => rfl
  | some a => exact h a

theorem StructuredPackage.write_toValue (p : StructuredPackage) : p.toValue.write = p.write := by
  simp [toValue, write, Function.comp_def]

theorem PackageEntry.write_toValue (e : PackageEntry) : e.toValue.write = e.write := by
  cases e with
  | structured p => exact p.write_toValue
  | direct project => rfl
  | bucket projects => exact write_mapValue projects

theorem TemplateEntry.write_toValue (t : TemplateEntry) : t.toValue.write = t.write := by
  have hposition := write_optionValue (f := Position.toValue) (w := Position.write) fun _ => rfl
  simp [toValue, write, hposition]

theorem ShellTemplates.write_toValue (t : ShellTemplates) : t.toValue.write = t.write := by
  cases t with
  | one entry => exact entry.write_toValue
  | many entries =>
    simp [toValue, write, Function.comp_def, TemplateEntry.write_toValue]

theorem TemplateFlag.write_toValue (f : TemplateFlag) : f.toValue.write = f.write := by
  have htemplate := write_optionValue (f := .string) (w := writeString) fun _ => rfl
  have hposition := write_optionValue (f := Position.toValue) (w := Position.write) fun _ => rfl
  have hshell := write_optionValue ShellTemplates.write_toValue
  simp [toValue, write, htemplate, hposition, hshell]

theorem FlagEntry.write_toValue (e : FlagEntry) : e.toValue.write = e.write := by
  cases e with
  | literal template => rfl
  | detailed flag => exact flag.write_toValue

@[simp] theorem text?_string (s : String) : Value.text? (.string s) = some s := rfl

theorem mapM_map_eq {β : Type} {f : α → β} {g : β → Option α} (h : ∀ a, g (f a) = some a)
    (l : List α) :
    (l.map f).mapM g = some l := by
  induction l with
  | nil => rfl
  | cons a l ih => simp [List.mapM_cons, h, ih]

@[simp] theorem textMap?_mapValue (m : SortedMap String) : (mapValue m).textMap? = some m := by
  have hentries := mapM_map_eq (f := fun e : String × String => (e.1, Value.string e.2))
    (g := fun e => (Value.text? e.2).map fun s => (e.1, s)) (fun _ => rfl) m.entries
  simp only [mapValue, Value.textMap?, hentries, Option.map_some, SortedMap.ofList_entries]

theorem orNull?_optionValue {f : α → Value} {read : Value → Option α} (h : ∀ a, read (f a) = some a)
    (hnull : ∀ a, f a ≠ .null) (o : Option α) : Value.orNull? read (optionValue f o) = some o := by
  cases o with
  | none => rfl
  | some a =>
    have hvalue : Value.orNull? read (f a) = (read (f a)).map some := by
      unfold Value.orNull?
      split
      · rename_i heq
        exact absurd heq (hnull a)
      · rfl
    rw [optionValue, hvalue, h]
    rfl

theorem fields?_object {keys : List String} {entries : List (String × Value)}
    (hkeys : entries.map (·.1) = keys) (h : keys.Nodup) :
    Value.fields? keys (.object entries) = some
    (entries.map fun e => some e.2) := by
  subst hkeys
  have hknown : entries.filter (fun e => (entries.map (·.1)).contains e.1) = entries := by
    rw [List.filter_eq_self]
    intro e he
    simpa using ⟨e.2, he⟩
  have hfind : ∀ e ∈ entries, entries.find? (·.1 = e.1) = some e := by
    clear hknown
    induction entries with
    | nil => simp
    | cons d entries ih =>
      simp only [List.map_cons, List.nodup_cons] at h
      intro e he
      rcases List.mem_cons.1 he with rfl | he
      · simp
      · have hne : d.1 ≠ e.1 := fun heq => h.1 (heq ▸ List.mem_map_of_mem he)
        simpa [hne] using ih h.2 e he
  simp only [Value.fields?, hknown, h, if_true, List.map_map]
  congr 1
  exact List.map_congr_left fun e he => by simp [hfind e he]

theorem StructuredPackage.ofValue?_toValue (p : StructuredPackage) :
    ofValue? p.toValue = some p := by
  have hfields : p.toValue.fields? keys =
      some [some (.list (p.aliases.map .string)), some (mapValue p.variants),
        some (.string p.default)] :=
    fields?_object rfl (by decide)
  have honly : p.toValue.hasOnly keys = true := rfl
  have htexts : Value.texts? (.list (p.aliases.map .string)) = some p.aliases :=
    mapM_map_eq (f := Value.string) (g := Value.text?) (fun _ => rfl) p.aliases
  simp [ofValue?, hfields, honly, orDefault, htexts]

theorem SortedMap.nodup_keys (m : SortedMap α) : m.keys.Nodup :=
  List.pairwise_map.2 (m.rising.imp fun {a b} (hlt : a.1 < b.1) (heq : a.1 = b.1) =>
    String.lt_irrefl b.1 (heq ▸ hlt))

@[simp] theorem fields?_mapValue (keys : List String) (m : SortedMap String) :
    (mapValue m).fields? keys = some (keys.map fun k => (m.get? k).map Value.string) := by
  have hnodup :
      (((m.entries.map fun e => (e.1, Value.string e.2)).filter fun e => keys.contains e.1).map
        (·.1)).Nodup := by
    have hsub := (List.filter_sublist (p := fun e : String × Value => keys.contains e.1)
      (l := m.entries.map fun e => (e.1, Value.string e.2))).map (·.1)
    refine hsub.nodup ?_
    rw [List.map_map]
    exact m.nodup_keys
  simp only [mapValue, Value.fields?, hnodup, if_true, Option.some.injEq, List.find?_map,
    Function.comp_def, SortedMap.get?]
  refine List.map_congr_left fun k _ => ?_
  cases m.entries.find? (·.1 = k) <;> rfl

/-- Neither aliases nor variants can be texts, so that no other bucket is taken for a definition. -/
theorem StructuredPackage.ofValue?_mapValue {m : SortedMap String} (hne : m.entries ≠ [])
    (hdefault : m.keys ≠ ["default"]) : ofValue? (mapValue m) = none := by
  cases honly : (mapValue m).hasOnly keys with
  | false => simp [ofValue?, honly]
  | true =>
    have hfields := fields?_mapValue keys m
    simp only [keys, List.map_cons, List.map_nil] at hfields
    have hkeys : ∀ k ∈ m.keys, k = "aliases" ∨ k = "variants" ∨ k = "default" := by
      simpa [mapValue, Value.hasOnly, keys, SortedMap.keys] using honly
    -- Its values are texts, so that neither aliases nor variants, being a list and a map, can be
    -- among its keys.
    cases haliases : m.get? "aliases" with
    | some x => simp [ofValue?, keys, hfields, haliases, orDefault, Value.texts?]
    | none =>
      cases hvariants : m.get? "variants" with
      | some x => simp [ofValue?, keys, hfields, haliases, hvariants, orDefault, Value.textMap?]
      | none =>
        have hall : ∀ k ∈ m.keys, k = "default" := by
          intro k hk
          obtain ⟨e, he, rfl⟩ := List.mem_map.1 hk
          have hget : m.get? e.1 = some e.2 := SortedMap.get?_eq_some_iff.2 he
          rcases hkeys e.1 hk with heq | heq | heq
          · simp [heq, haliases] at hget
          · simp [heq, hvariants] at hget
          · exact heq
        refine absurd ?_ hdefault
        have hnodup := m.nodup_keys
        cases hks : m.keys with
        | nil => exact absurd (List.map_eq_nil_iff.1 hks) hne
        | cons k ks =>
          rw [hks] at hall hnodup
          obtain ⟨rfl, hrest⟩ := List.forall_mem_cons.1 hall
          obtain rfl : ks = [] := List.eq_nil_iff_forall_not_mem.2 fun k hk =>
            (List.nodup_cons.1 hnodup).1 (hrest k hk ▸ hk)
          rfl

def PackageEntry.reread : PackageEntry → PackageEntry
  | bucket projects =>
    if projects.keys = ["default"] then structured { default := (projects.get? "default").getD "" }
      else bucket projects
  | e => e

theorem PackageEntry.ofValue?_toValue {e : PackageEntry} (h : e ≠ bucket ∅) :
    ofValue? e.toValue = some e.reread := by
  cases e with
  | structured p => simp [ofValue?, toValue, StructuredPackage.ofValue?_toValue, reread]
  | direct project => rfl
  | bucket m =>
    have htext : (mapValue m).text? = none := rfl
    by_cases hkeys : m.keys = ["default"]
    · obtain ⟨l, hl⟩ := m
      obtain ⟨⟨k, d⟩, rfl, rfl⟩ := List.map_eq_singleton_iff.1 hkeys
      rfl
    · have hne : m.entries ≠ [] := fun hnil => h (congrArg bucket (SortedMap.ext hnil))
      simp [ofValue?, toValue, StructuredPackage.ofValue?_mapValue hne hkeys, htext, reread, hkeys]

theorem Position.ofValue?_toValue (p : Position) : ofValue? p.toValue = some p :=
  Position.ofWord?_word p

theorem TemplateEntry.ofValue?_toValue (t : TemplateEntry) : ofValue? t.toValue = some t := by
  have hfields : t.toValue.fields? ["template", "position"] =
      some [some (.string t.template), some (optionValue Position.toValue t.position)] :=
    fields?_object rfl (by decide)
  have hposition :=
    orNull?_optionValue Position.ofValue?_toValue (fun _ => Value.noConfusion) t.position
  simp [ofValue?, hfields, orDefault, hposition]

theorem ShellTemplates.ofValue?_toValue (t : ShellTemplates) : ofValue? t.toValue = some t := by
  cases t with
  | one entry => simp [ofValue?, toValue, TemplateEntry.ofValue?_toValue]
  | many entries =>
    have hentry : TemplateEntry.ofValue? (.list (entries.map TemplateEntry.toValue)) = none := by
      rcases entries with _ | ⟨t, _ | ⟨u, _ | ⟨v, entries⟩⟩⟩
      · rfl
      · rfl
      · rfl
      · simp [TemplateEntry.ofValue?, Value.fields?]
    have hmany := mapM_map_eq TemplateEntry.ofValue?_toValue entries
    simp [ofValue?, toValue, hentry, hmany]

theorem TemplateFlag.ofValue?_toValue (f : TemplateFlag)
    (h : mergedEntries [] f.defaults = f.defaults) :
    ofValue? f.toValue = some f := by
  have hfields : f.toValue.fields? keys =
      some [some (optionValue .string f.template), some (optionValue Position.toValue f.position),
        some (.object f.defaults), some (optionValue ShellTemplates.toValue f.pwsh),
        some (optionValue ShellTemplates.toValue f.linux),
          some (optionValue ShellTemplates.toValue f.cmd)] :=
    fields?_object rfl (by decide)
  have htemplate := orNull?_optionValue text?_string (fun _ => Value.noConfusion) f.template
  have hposition :=
    orNull?_optionValue Position.ofValue?_toValue (fun _ => Value.noConfusion) f.position
  have hshell := orNull?_optionValue ShellTemplates.ofValue?_toValue
    (fun t => by cases t <;> exact Value.noConfusion)
  simp [ofValue?, hfields, orDefault, defaultsOfValue?, h, htemplate, hposition, hshell]

theorem FlagEntry.ofValue?_toValue {e : FlagEntry}
    (h : ∀ f, e = detailed f → mergedEntries [] f.defaults = f.defaults) :
    ofValue? e.toValue = some e := by
  cases e with
  | literal template => rfl
  | detailed f =>
    have hflag := f.ofValue?_toValue (h f rfl)
    have htext : f.toValue.text? = none := rfl
    simp [ofValue?, toValue, hflag, htext]

theorem fits_mapValue (m : SortedMap String) : Fits P (depth + 1) (mapValue m) := by
  refine .object fun e he => ?_
  obtain ⟨d, -, rfl⟩ := List.mem_map.1 he
  exact .string d.2

theorem fits_optionValue {f : α → Value} (h : ∀ a, Fits P depth (f a)) (o : Option α) :
    Fits P depth (optionValue f o) := by
  cases o with
  | none => exact .null
  | some a => exact h a

theorem PackageEntry.fits_toValue (e : PackageEntry) : Fits P (depth + 2) e.toValue := by
  cases e with
  | structured p =>
    have haliases : Fits P (depth + 1) (.list (p.aliases.map .string)) :=
      .list (List.forall_mem_map.2 fun s _ => .string s)
    exact .object (by simpa [haliases, fits_mapValue] using Fits.string p.default)
  | direct project => exact .string project
  | bucket m => exact fits_mapValue m

theorem TemplateEntry.fits_toValue (t : TemplateEntry) : Fits P (depth + 1) t.toValue := by
  have hposition : Fits P depth (optionValue Position.toValue t.position) :=
    fits_optionValue (fun p => .string (Position.word p)) _
  exact .object (by simpa [hposition] using Fits.string t.template)

theorem ShellTemplates.fits_toValue (t : ShellTemplates) : Fits P (depth + 2) t.toValue := by
  cases t with
  | one entry => exact entry.fits_toValue
  | many entries => exact .list (List.forall_mem_map.2 fun t _ => t.fits_toValue)

theorem FlagEntry.fits_toValue {e : FlagEntry}
    (h : ∀ f, e = detailed f → Fits P (depth + 2) (.object f.defaults)) :
    Fits P (depth + 3) e.toValue := by
  cases e with
  | literal template => exact .string template
  | detailed f =>
    have htemplate : Fits P (depth + 2) (optionValue .string f.template) :=
      fits_optionValue (fun s => .string s) _
    have hposition : Fits P (depth + 2) (optionValue Position.toValue f.position) :=
      fits_optionValue (fun p => .string (Position.word p)) _
    have hshell (o : Option ShellTemplates) :
        Fits P (depth + 2) (optionValue ShellTemplates.toValue o) :=
      fits_optionValue ShellTemplates.fits_toValue o
    exact .object (by simp [htemplate, hposition, hshell, h f rfl])

theorem SortedMap.ofList_ne_empty {l : List (String × α)} (h : l ≠ []) :
    (SortedMap.ofList l).entries ≠ [] := by
  have hput (k : String) (v : α) (es : List (String × α)) : put k v es ≠ [] := by
    cases es with
    | nil => simp [put]
    | cons e es =>
      rw [put]
      split_ifs <;> simp
  have hfold (l : List (String × α)) (m : SortedMap α) (hm : m.entries ≠ []) :
      (l.foldl (fun m e => m.insert e.1 e.2) m).entries ≠ [] := by
    induction l generalizing m with
    | nil => exact hm
    | cons e l ih => exact ih _ (hput _ _ _)
  cases l with
  | nil => exact absurd rfl h
  | cons e l => exact hfold l _ (hput _ _ _)

theorem PackageEntry.ne_bucket_empty {v : Value} {e : PackageEntry} (h : ofValue? v = some e) :
    e ≠ bucket ∅ := by
  rintro rfl
  obtain ⟨hpackage, -, hmap⟩ :
      StructuredPackage.ofValue? v = none ∧ v.text? = none ∧ v.textMap? = some ∅ := by
        simpa [ofValue?] using h
  cases v with
  | object entries =>
    obtain ⟨l, hl, hempty⟩ := Option.map_eq_some_iff.1 hmap
    cases entries with
    | nil => cases hpackage
    | cons d entries =>
      simp only [List.mapM_cons, Option.bind_eq_bind, Option.bind_eq_some_iff] at hl
      obtain ⟨a, -, rest, -, hcons⟩ := hl
      obtain rfl := Option.some.inj hcons
      exact SortedMap.ofList_ne_empty (List.cons_ne_nil a rest) (congrArg SortedMap.entries hempty)
  | _ => cases hmap

theorem Json.Fits.of_fields? {keys : List String} {v w : Value} {found : List (Option Value)}
    (hfound : v.fields? keys = some found) (hw : some w ∈ found) (hv : Fits P (depth + 1) v) :
    Fits P depth w := by
  cases hv with
  | list h =>
    simp only [Value.fields?] at hfound
    split_ifs at hfound
    cases hfound
    simp only [List.mem_append, List.mem_map, Option.some.injEq, exists_eq_right,
      List.mem_replicate, and_false, reduceCtorEq, or_false] at hw
    exact h w hw
  | object h =>
    simp only [Value.fields?] at hfound
    split_ifs at hfound
    cases hfound
    obtain ⟨k, -, hk⟩ := List.mem_map.1 hw
    obtain ⟨e, he, rfl⟩ := Option.map_eq_some_iff.1 hk
    exact h e (List.mem_of_find?_eq_some he)
  | _ => cases hfound

theorem TemplateFlag.defaults_of_ofValue? {v : Value} {f : TemplateFlag} (h : ofValue? v = some f)
    (hv : Fits P (depth + 2) v) :
    mergedEntries [] f.defaults = f.defaults ∧ Fits P (depth + 1) (.object f.defaults) := by
  obtain ⟨found, hfound, h⟩ := Option.bind_eq_some_iff.1 h
  split at h
  · rename_i template position defaults pwsh linux cmd
    simp only [Option.bind_eq_bind, Option.bind_eq_some_iff] at h
    obtain ⟨_, -, _, -, d, hd, _, -, _, -, _, -, heq⟩ := h
    obtain rfl := Option.some.inj heq
    cases defaults with
    | none =>
      obtain rfl := Option.some.inj hd
      exact ⟨rfl, .object (by simp)⟩
    | some w =>
      have hw : Fits P (depth + 1) w := .of_fields? hfound (by simp) hv
      cases w with
      | object entries =>
        obtain rfl := Option.some.inj hd
        have hmerged := merged_merged (.object entries)
        exact ⟨Value.object.inj (merged_eq hmerged), merged_fits hw⟩
      | _ => cases hd
  · cases h

end Shorthand
