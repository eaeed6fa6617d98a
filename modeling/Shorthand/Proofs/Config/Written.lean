import Shorthand.Config.Reader
import Shorthand.Flag.Kind
import Shorthand.Proofs.Config.Shapes
set_option autoImplicit false

namespace Shorthand

open Json

variable {α β : Type} {n : Nat} {s : List Char}

theorem Json.Printed.map {read : Reader α} {text : List Char} {a : α} (h : Printed read text a)
    (f : α → β) :
    Printed (fun s => (read s).map fun p => (f p.1, p.2)) text (f a) where
  head := h.head
  read tail htail := by simp [h.read tail htail]

theorem head_writeString (text : String) :
    ∃ c t, writeString text = c :: t ∧ isSpace c = false ∧ c ≠ ']' :=
  ⟨_, _, rfl, by decide, by decide⟩

theorem head_writeObject (l : List (String × List Char)) :
    ∃ c t, writeObject l = c :: t ∧ isSpace c = false ∧ c ≠ ']' := ⟨_, _, rfl, by decide, by decide⟩

theorem text_printed (t : String) : Printed text (writeString t) t where
  head := head_writeString t
  read tail _ := by
    rw [writeString_append, text, skipSpace_eq_self (by decide)]
    exact stringAfterQuote_written t tail

theorem optional_printed {read : Reader α} {w : α → List Char} {o : Option α}
    (h : ∀ a, o = some a → Printed read (w a) a ∧ (w a).head? ≠ some 'n') :
    Printed (optional read) (writeOption w o) o := by
  cases o with
  | none =>
    refine ⟨⟨_, _, rfl, by decide, by decide⟩, fun tail _ => ?_⟩
    rfl
  | some a =>
    obtain ⟨hread, hn⟩ := h a rfl
    refine ⟨hread.head, fun tail htail => ?_⟩
    obtain ⟨c, t, htext, hspace, -⟩ := hread.head
    have hc : c ≠ 'n' := by simpa [htext] using hn
    have hagain := hread.read tail htail
    simp only [writeOption, htext, List.cons_append] at hagain ⊢
    rw [optional, skipSpace_eq_self hspace]
    simp [hc, hagain]

theorem sectionOf_printed {read : Reader α} {write : β → List Char} {g : β → α} {m : SortedMap β}
    (h : ∀ e ∈ m.entries, Printed read (write e.2) (g e.2)) :
    Printed (sectionOf read) (writeMap write m) (m.map g) where
  head := head_writeObject _
  read tail _ := by
    have hread := entries_writeObject (k := fun e : String × β => e.1) (f := fun e => write e.2)
      (g := fun e => g e.2) h tail
    have hmap : SortedMap.ofList (m.entries.map fun e => (e.1, g e.2)) = m.map g :=
      SortedMap.ofList_entries (m.map g)
    rw [writeMap, writeObject_append, List.map_map, sectionOf, skipSpace_eq_self (by decide)]
    simp only [Function.comp_def, hread, map_ok, hmap]

theorem section_printed {read : Reader α} {write : α → List Char} {m : SortedMap α}
    (h : ∀ e ∈ m.entries, Printed read (write e.2) e.2) :
    Printed (sectionOf read) (writeMap write m) m := by
  have hsection := sectionOf_printed (g := id) h
  have hid : m.map id = m := SortedMap.ext (List.map_id _)
  rwa [hid] at hsection

theorem form_printed (type : String) {read : Value → Option α} {v : Value} {a : α}
    (hv : Fits Number.IsWhole sectionDepth v) (h : read v = some a) :
    Printed (form type read) v.write a where
  head := (value_printed hv).head
  read tail htail := by simp [form, (value_printed hv).read tail htail, h]

/-- The written fields lead from one record to another, each known and none of them done before. -/
inductive Fills (fields : List (Field α)) : List String → α → List (String × List Char) → α → Prop
  | nil {done : List String} {a : α} : Fills fields done a [] a
  | cons {done : List String} {a b c : α} {text : List Char} {rest : List (String × List Char)}
      (field : Field α) (hfind : fields.find? (·.key = field.key) = some field)
      (hnew : done.contains field.key = false)
    (hread : Printed (field.read a) text b) (hrest : Fills fields (field.key :: done) b rest c) :
    Fills fields done a ((field.key, text) :: rest) c

theorem recordEntries_printed {fields : List (Field α)} {done : List String} {a b : α}
    {l : List (String × List Char)} {isFirst : Bool} (h : Fills fields done a l b)
    (hn : l.length < n) (s : List Char) :
    recordEntries fields n done isFirst a
        (joined isFirst (l.map fun e => writeString e.1 ++ ':' :: e.2) ++ '\x7d' :: s) =
          .ok (b, s) := by
  induction h generalizing n isFirst with
  | nil =>
    obtain ⟨n, rfl⟩ : ∃ k, n = k + 1 := ⟨n - 1, by omega⟩
    have hnext : nextKey isFirst ('\x7d' :: s) = .ok (.closed s) :=
      nextKey_eq_ok_iff.2 (.inl ⟨s, rfl, rfl⟩)
    simp [joined, recordEntries, hnext]
  | @cons done a b c text rest field hfind hnew hread hrest ih =>
    obtain ⟨n, rfl⟩ : ∃ k, n = k + 1 := ⟨n - 1, by omega⟩
    simp only [List.length_cons, Nat.add_lt_add_iff_right] at hn
    have hvalue := hread.read _ (endsToken_joined (by decide : isTokenChar '\x7d' = false)
      (rest.map fun e => writeString e.1 ++ ':' :: e.2) s)
    rw [recordEntries, List.map_cons, nextKey_joined]
    simp only [ok_bind, stringAfterQuote_written, hfind, hnew, afterColon_colon, hvalue, ih hn]
    rfl

theorem record_printed (type : String) {fields : List (Field α)} {init b : α}
    {l : List (String × List Char)} (h : Fills fields [] init l b) :
    Printed (record type fields init) (writeObject l) b where
  head := head_writeObject l
  read tail _ := by
    have hparts : ∀ p ∈ l.map fun e => writeString e.1 ++ ':' :: e.2, p ≠ [] :=
      List.forall_mem_map.2 fun b _ => by simp
    have hlength := length_le_joined true hparts
    rw [writeObject_append, record, skipSpace_eq_self (by decide)]
    refine recordEntries_printed h ?_ tail
    simp only [List.length_map, List.length_append, List.length_cons] at hlength ⊢
    omega

theorem texts_printed (m : SortedMap String) :
    Printed (sectionOf text) (writeMap writeString m) m :=
  section_printed fun e _ => text_printed e.2

theorem targets_printed (t : Targets) : Printed Targets.read t.write t := by
  have hmap (o : Option (SortedMap String)) :
      Printed (optional (sectionOf text)) (writeOption (writeMap writeString) o) o :=
    optional_printed fun m _ => ⟨texts_printed m, by simp [writeMap, writeObject]⟩
  have hnx := (hmap t.nx).map fun m => ({ nx := m } : Targets)
  have hexternal := (hmap t.external).map fun m => ({ nx := t.nx, external := m } : Targets)
  exact record_printed _ (.cons Targets.fields[0] rfl rfl hnx
    (.cons Targets.fields[1] rfl rfl hexternal .nil))

theorem featureTarget_printed (t : FeatureTarget) : Printed FeatureTarget.read t.write t := by
  have htarget :=
    (text_printed t.target).map fun s => ((some s, none) : Option String × Option String)
  have hrecord : Printed (record "FeatureTarget" FeatureTarget.fields (none, none)) t.write
      (some t.target, t.runFrom) := by
    cases hvariant : t.runFrom with
    | none =>
      rw [FeatureTarget.write, hvariant]
      exact record_printed _ (.cons FeatureTarget.fields[0] rfl rfl htarget .nil)
    | some variant =>
      have hoption : Printed (optional text) (writeString variant) (some variant) :=
        optional_printed (w := writeString) (o := some variant) fun a ha => by
          obtain rfl := Option.some.inj ha
          exact ⟨text_printed variant, by simp [writeString]⟩
      rw [FeatureTarget.write, hvariant]
      exact record_printed _ (.cons FeatureTarget.fields[0] rfl rfl htarget
        (.cons FeatureTarget.fields[1] rfl rfl (hoption.map fun v => (some t.target, v)) .nil))
  refine ⟨hrecord.head, fun tail htail => ?_⟩
  simp [FeatureTarget.read, hrecord.read tail htail]

/-- What a flag that is written must be like to be read again: its defaults merged, and not too
deep. -/
def FlagEntry.IsKept (e : FlagEntry) : Prop :=
  ∀ f, e = detailed f →
    mergedEntries [] f.defaults = f.defaults ∧
      Fits Number.IsWhole (sectionDepth - 1) (.object f.defaults)

theorem flags_printed {m : SortedMap FlagEntry} (h : ∀ e ∈ m.entries, e.2.IsKept) :
    Printed flags (writeMap FlagEntry.write m) m := by
  refine section_printed fun e he => ?_
  rw [← FlagEntry.write_toValue]
  exact form_printed _ (FlagEntry.fits_toValue fun f hf => (h e he f hf).2)
    (FlagEntry.ofValue?_toValue fun f hf => (h e he f hf).1)

theorem packages_printed {m : SortedMap PackageEntry} (h : ∀ e ∈ m.entries, e.2 ≠ .bucket ∅) :
    Printed (sectionOf (form "PackageEntry" PackageEntry.ofValue?)) (writeMap PackageEntry.write m)
      (m.map PackageEntry.reread) := by
  refine sectionOf_printed fun e he => ?_
  rw [← PackageEntry.write_toValue]
  exact form_printed _ e.2.fits_toValue (PackageEntry.ofValue?_toValue (h e he))

namespace Config

/-- The configuration as it is read from what it is written as. -/
def reread (c : Config) : Config := { c with packages := c.packages.map PackageEntry.reread }

theorem ofJson_write {c : Config} (hpackages : ∀ e ∈ c.packages.entries, e.2 ≠ .bucket ∅)
    (hflags : ∀ kind, ∀ e ∈ (c.flagsOf kind).entries, e.2.IsKept) :
    ofJson c.write = .ok c.reread := by
  have htargets : Printed (optional Targets.read) (writeOption Targets.write c.targets) c.targets :=
    optional_printed fun t _ => ⟨targets_printed t, by simp [Targets.write, writeObject]⟩
  have hfeatures :
      Printed (sectionOf FeatureTarget.read) (writeMap FeatureTarget.write c.features) c.features :=
    section_printed fun e _ => featureTarget_printed e.2
  have hrecord : Printed (record "AliasConfig" fields {}) c.write c.reread := by
    have packages := (packages_printed hpackages).map fun m => ({ packages := m } : Config)
    have targets := htargets.map fun t => ({ packages := c.reread.packages, targets := t } : Config)
    have features := hfeatures.map fun m =>
      ({ packages := c.reread.packages, targets := c.targets, features := m } : Config)
    have expandable := (flags_printed (hflags .expandable)).map fun m =>
      ({ packages := c.reread.packages,
         targets := c.targets, features := c.features, expandableFlags := m } : Config)
    have context := (flags_printed (hflags .contextAware)).map fun m =>
      ({ c.reread with
        contextFlags := m, internalFlags := ∅, environmentFlags := ∅, commands := ∅ } : Config)
    have internal := (flags_printed (hflags .internal)).map fun m =>
      ({ c.reread with internalFlags := m, environmentFlags := ∅, commands := ∅ } : Config)
    have environment := (flags_printed (hflags .environment)).map fun m =>
      ({ c.reread with environmentFlags := m, commands := ∅ } : Config)
    have commands := (texts_printed c.commands).map fun m => { c.reread with commands := m }
    exact record_printed _ <|
      .cons fields[0] rfl rfl packages <|
        .cons fields[1] rfl rfl targets <| .cons fields[2] rfl rfl features <|
      .cons fields[3] rfl rfl expandable <|
        .cons fields[4] rfl rfl context <| .cons fields[5] rfl rfl internal <|
      .cons fields[6] rfl rfl environment <| .cons fields[7] rfl rfl commands .nil
  have hread := hrecord.read [] (by simp [EndsToken])
  rw [List.append_nil] at hread
  simp [ofJson, hread, skipSpace]

end Config

end Shorthand
