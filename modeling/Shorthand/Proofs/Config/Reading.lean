import Shorthand.Flag.Kind
import Shorthand.Proofs.Config.Blanks
import Shorthand.Proofs.Config.Shapes
set_option autoImplicit false

namespace Shorthand

open Json

variable {α : Type} {n : Nat} {s r : List Char}

theorem SortedMap.mem_ofList {l : List (String × α)} {e : String × α}
    (h : e ∈ (SortedMap.ofList l).entries) : e ∈ l := by
  have hfold (l : List (String × α)) (m : SortedMap α)
      (h : e ∈ (l.foldl (fun m e => m.insert e.1 e.2) m).entries) : e ∈ l ∨ e ∈ m.entries := by
    induction l generalizing m with
    | nil => exact .inr h
    | cons d l ih =>
      rcases ih _ h with h | h
      · exact .inl (List.mem_cons_of_mem d h)
      · rcases mem_put h with rfl | h
        · exact .inl List.mem_cons_self
        · exact .inr h
  rcases hfold l ∅ h with h | h
  · exact h
  · cases h

theorem exists_of_mem_sectionOf {read : Reader α} {m : SortedMap α}
    (h : sectionOf read s = .ok (m, r)) :
    ∀ e ∈ m.entries, ∃ s r, read s = .ok (e.2, r) := by
  unfold sectionOf at h
  split at h
  · obtain ⟨es, hes, rfl⟩ := eq_ok_of_map_fst h
    exact fun e he => exists_of_mem_entries hes e (SortedMap.mem_ofList he)
  · cases h

theorem exists_of_form {type : String} {read : Value → Option α} {a : α}
    (h : form type read s = .ok (a, r)) :
    ∃ v, Fits Number.InRange sectionDepth v ∧ read v = some a := by
  obtain ⟨⟨v, t⟩, hv, h⟩ := exists_of_bind_eq_ok h
  dsimp only at h
  split at h
  · rename_i b hb
    cases h
    exact ⟨v, fits_of_value hv, hb⟩
  · cases h

def KeepFields (fields : List (Field α)) (Inv : α → Prop) : Prop :=
  ∀ field ∈ fields, ∀ a s b r, Inv a → field.read a s = .ok (b, r) → Inv b

theorem inv_of_recordEntries {fields : List (Field α)} {Inv : α → Prop}
    (hfields : KeepFields fields Inv) {done : List String} {isFirst : Bool} {a b : α} (ha : Inv a)
    (h : recordEntries fields n done isFirst a s = .ok (b, r)) : Inv b := by
  induction n generalizing s done isFirst a with
  | zero => cases h
  | succ n ih =>
    obtain ⟨next, -, h⟩ := exists_of_bind_eq_ok h
    cases next with
    | closed t =>
      cases h
      exact ha
    | item t =>
      obtain ⟨⟨k, t₁⟩, -, h⟩ := exists_of_bind_eq_ok h
      dsimp only at h
      split at h
      · obtain ⟨t₂, -, h⟩ := exists_of_bind_eq_ok h
        obtain ⟨t₃, -, h⟩ := exists_of_bind_eq_ok h
        exact ih ha h
      · rename_i field hfind
        split at h
        · cases h
        · obtain ⟨t₂, -, h⟩ := exists_of_bind_eq_ok h
          obtain ⟨⟨c, t₃⟩, hc, h⟩ := exists_of_bind_eq_ok h
          exact ih (hfields field (List.mem_of_find?_eq_some hfind) a t₂ c t₃ ha hc) h

theorem inv_of_recordItems {fields : List (Field α)} {Inv : α → Prop}
    (hfields : KeepFields fields Inv) {isFirst : Bool} {a b : α} (ha : Inv a)
    (h : recordItems fields isFirst a s = .ok (b, r)) :
    Inv b := by
  induction fields generalizing s isFirst a with
  | nil =>
    obtain ⟨-, rfl⟩ := recordListEnd_eq_ok_iff.1 h
    exact ha
  | cons field fields ih =>
    obtain ⟨hfield, hfields⟩ := List.forall_mem_cons.1 hfields
    obtain ⟨next, -, h⟩ := exists_of_bind_eq_ok h
    cases next with
    | closed t =>
      cases h
      exact ha
    | item t =>
      obtain ⟨⟨c, t₁⟩, hc, h⟩ := exists_of_bind_eq_ok h
      exact ih hfields (hfield a t c t₁ ha hc) h

theorem inv_of_record {type : String} {fields : List (Field α)} {Inv : α → Prop}
    (hfields : KeepFields fields Inv) {init a : α} (hinit : Inv init)
    (h : record type fields init s = .ok (a, r)) : Inv a := by
  unfold record at h
  split at h
  · exact inv_of_recordEntries hfields hinit h
  · exact inv_of_recordItems hfields hinit h
  · cases h

/-- What is granted of a flag that was read: its defaults are merged, and not too deep. -/
def FlagEntry.WasRead (e : FlagEntry) : Prop :=
  ∀ f, e = detailed f →
    mergedEntries [] f.defaults = f.defaults ∧
      Fits Number.InRange (sectionDepth - 1) (.object f.defaults)

theorem FlagEntry.wasRead_of_ofValue? {v : Value} {e : FlagEntry}
    (hv : Fits Number.InRange sectionDepth v) (h : ofValue? v = some e) : e.WasRead := by
  rintro f rfl
  have hflag : TemplateFlag.ofValue? v = some f := by
    obtain ⟨t, -, heq⟩ | ⟨-, hflag⟩ : (∃ t, v.text? = some t ∧ literal t = detailed f) ∨
        v.text? = none ∧ TemplateFlag.ofValue? v = some f := by simpa [ofValue?, and_comm] using h
    · cases heq
    · exact hflag
  exact TemplateFlag.defaults_of_ofValue? hflag hv

theorem wasRead_of_flags {m : SortedMap FlagEntry} (h : flags s = .ok (m, r)) :
    ∀ e ∈ m.entries, e.2.WasRead := by
  intro e he
  obtain ⟨t, t₁, hform⟩ := exists_of_mem_sectionOf h e he
  obtain ⟨v, hv, hread⟩ := exists_of_form hform
  exact FlagEntry.wasRead_of_ofValue? hv hread

namespace Config

structure WasRead (c : Config) : Prop where
  packages : ∀ e ∈ c.packages.entries, e.2 ≠ .bucket ∅
  expandable : ∀ e ∈ c.expandableFlags.entries, e.2.WasRead
  context : ∀ e ∈ c.contextFlags.entries, e.2.WasRead
  internal : ∀ e ∈ c.internalFlags.entries, e.2.WasRead
  environment : ∀ e ∈ c.environmentFlags.entries, e.2.WasRead

theorem WasRead.flags {c : Config} (h : c.WasRead) (kind : FlagKind) :
    ∀ e ∈ (c.flagsOf kind).entries, e.2.WasRead := by
  cases kind with
  | expandable => exact h.expandable
  | contextAware => exact h.context
  | environment => exact h.environment
  | internal => exact h.internal

theorem keepFields_wasRead : KeepFields fields WasRead := by
  intro field hfield a s b r ha hread
  simp only [fields, List.mem_cons, List.not_mem_nil, or_false] at hfield
  rcases hfield with rfl | rfl | rfl | rfl | rfl | rfl | rfl | rfl
  all_goals
    obtain ⟨⟨m, t⟩, hm, heq⟩ := exists_of_map_eq_ok hread
    cases heq
  · refine { ha with packages := fun e he => ?_ }
    obtain ⟨t, t₁, hform⟩ := exists_of_mem_sectionOf hm e he
    obtain ⟨v, -, hv⟩ := exists_of_form hform
    exact PackageEntry.ne_bucket_empty hv
  · exact { ha with }
  · exact { ha with }
  · exact { ha with expandable := wasRead_of_flags hm }
  · exact { ha with context := wasRead_of_flags hm }
  · exact { ha with internal := wasRead_of_flags hm }
  · exact { ha with environment := wasRead_of_flags hm }
  · exact { ha with }

theorem wasRead_of_ofJson {c : Config} (h : ofJson s = .ok c) : c.WasRead := by
  obtain ⟨r, hrecord, -⟩ := ofJson_eq_ok_iff.1 h
  refine inv_of_record keepFields_wasRead ?_ hrecord
  constructor <;> exact fun e he => nomatch he

end Config

end Shorthand
