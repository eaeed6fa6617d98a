import Shorthand.Config.Reader
import Shorthand.Proofs.Json.Passing
set_option autoImplicit false

namespace Shorthand

open Json

variable {α β : Type} {a b r s : List Char} {n m : Nat} {isFirst : Bool}

theorem carries_text : Carries text text := by
  intro a b v r hpad hread _
  cases ha : skipSpace a with
  | nil => simp [text, ha] at hread
  | cons c a₁ =>
    obtain ⟨b₁, hb, hpad₁, hlt⟩ := hpad.skipSpace_cons ha
    by_cases hc : c = '"'
    · subst hc
      simp only [text, ha] at hread
      obtain ⟨r', hv, hrest, hlt'⟩ := stringAfterQuote_padded hpad₁ hread
      exact ⟨r', by simpa only [text, hb] using hv, hrest, by omega⟩
    · simp [text, ha, hc] at hread

theorem optional_eq (read : Reader α) {c : Char} (hs : skipSpace s = c :: r) :
    optional read s =
      if c = 'n' then literal none ['u', 'l', 'l'] r else (read (c :: r)).map fun p =>
        (some p.1, p.2) := by
  rw [optional, hs]
  by_cases hc : c = 'n' <;> simp [hc]

theorem carries_optional {read : Reader α} (h : Carries read read) :
    Carries (optional read) (optional read) := by
  intro a b v r hpad hread hr
  cases ha : skipSpace a with
  | nil =>
    have hb := hpad.skipSpace_nil ha
    simp only [optional, ha] at hread
    obtain ⟨u, hu, rfl⟩ := eq_ok_of_map_fst hread
    obtain ⟨r', hu', hrest, hlt⟩ := h .nil hu hr
    simp at hlt
  | cons c a₁ =>
    obtain ⟨b₁, hb, hpad₁, hlt⟩ := hpad.skipSpace_cons ha
    rw [optional_eq read ha] at hread
    rw [optional_eq read hb]
    by_cases hc : c = 'n'
    · subst hc
      rw [if_pos rfl] at hread ⊢
      obtain ⟨r', hv, hrest, hle⟩ :=
        literal_padded (by decide) (hpad₁.behindToken (by decide)) hread
      exact ⟨r', hv, hrest, by omega⟩
    · rw [if_neg hc] at hread ⊢
      obtain ⟨r', hv, hrest, hlt'⟩ := h.map some (.cons hpad₁) hread hr
      exact ⟨r', hv, hrest, Nat.lt_of_lt_of_le hlt' hlt⟩

theorem carries_sectionOf {read : Reader α} (h : Carries read read) :
    Carries (sectionOf read) (sectionOf read) := by
  intro a b v r hpad hread hr
  cases ha : skipSpace a with
  | nil => simp [sectionOf, ha] at hread
  | cons c a₁ =>
    obtain ⟨b₁, hb, hpad₁, hlt⟩ := hpad.skipSpace_cons ha
    by_cases hc : c = '\x7b'
    · subst hc
      simp only [sectionOf, ha] at hread
      obtain ⟨r', hv, hrest, hlt'⟩ :=
        (carries_entries h).map SortedMap.ofList (hpad₁.behind (by decide)) hread hr
      exact ⟨r', by simpa only [sectionOf, hb] using hv, hrest, by omega⟩
    · simp [sectionOf, ha, hc] at hread

theorem carries_form (type : String) (read : Value → Option α) :
    Carries (form type read) (form type read) := by
  intro a b v r hpad hread hr
  obtain ⟨⟨u, r₁⟩, hu, hread⟩ := exists_of_bind_eq_ok hread
  dsimp only at hread
  split at hread
  · rename_i w hw
    cases hread
    obtain ⟨r', hu', hrest⟩ := carries_value sectionDepth hpad hu hr
    exact ⟨r', by simp [form, hu', hw], hrest⟩
  · cases hread

def CarryFields (fields : List (Field α)) : Prop :=
  ∀ field ∈ fields, ∀ a, Carries (field.read a) (field.read a)

theorem settled_of_recordEntries {fields : List (Field α)} {done : List String} {x y : α}
    (h : recordEntries fields n done false x s = .ok (y, r)) : Settled s := by
  cases n with
  | zero => cases h
  | succ n =>
    obtain ⟨next, hnext, -⟩ := exists_of_bind_eq_ok h
    exact settled_of_nextKey hnext

theorem recordEntries_padded {fields : List (Field α)} (hfields : CarryFields fields)
    {done : List String} {x y : α} (h : Padded (.code false) a b) (hm : b.length < m)
    (hread : recordEntries fields n done isFirst x a = .ok (y, r)) :
    ∃ r', recordEntries fields m done isFirst x b = .ok (y, r') ∧
      Padded (.code false) r r' ∧ r'.length < b.length := by
  induction n generalizing a b m done isFirst x with
  | zero => cases hread
  | succ n ih =>
    obtain ⟨m, rfl⟩ : ∃ k, m = k + 1 := ⟨m - 1, by omega⟩
    obtain ⟨next, hnext, hread⟩ := exists_of_bind_eq_ok hread
    obtain ⟨next', hnext', hpad⟩ := nextKey_padded h hnext
    rw [recordEntries, hnext']
    cases hpad with
    | closed hrest hlt =>
      cases hread
      exact ⟨_, rfl, hrest, hlt⟩
    | item hrest hle =>
      obtain ⟨⟨k, a₁⟩, hk, hread⟩ := exists_of_bind_eq_ok hread
      obtain ⟨b₁, hk', hpad₁, hlt₁⟩ := stringAfterQuote_padded hrest hk
      dsimp only [ok_bind] at hread ⊢
      rw [hk', ok_bind]
      -- Unknown fields are passed over and known ones read; that entries go on behind either
      -- settles what it leaves.
      cases hfind : fields.find? (·.key = k) with
      | none =>
        simp only [hfind] at hread ⊢
        obtain ⟨a₂, hcolon, hread⟩ := exists_of_bind_eq_ok hread
        obtain ⟨a₃, hv, hread⟩ := exists_of_bind_eq_ok hread
        obtain ⟨b₂, hcolon', hpad₂, hlt₂⟩ := afterColon_padded hpad₁ hcolon
        obtain ⟨b₃, hv', hpad₃, hlt₃⟩ := skipValue_padded hpad₂ hv (settled_of_recordEntries hread)
        obtain ⟨r', hr', hpad', hlt'⟩ := ih hpad₃ (by omega : b₃.length < m) hread
        exact ⟨r', by simp only [hcolon', hv', hr', ok_bind], hpad', by omega⟩
      | some field =>
        simp only [hfind] at hread ⊢
        by_cases hdone : done.contains k
        · rw [if_pos hdone] at hread
          cases hread
        · rw [if_neg hdone] at hread ⊢
          obtain ⟨a₂, hcolon, hread⟩ := exists_of_bind_eq_ok hread
          obtain ⟨⟨z, a₃⟩, hv, hread⟩ := exists_of_bind_eq_ok hread
          obtain ⟨b₂, hcolon', hpad₂, hlt₂⟩ := afterColon_padded hpad₁ hcolon
          obtain ⟨b₃, hv', hpad₃, hlt₃⟩ :=
            hfields field (List.mem_of_find?_eq_some hfind) x hpad₂ hv
              (settled_of_recordEntries hread)
          obtain ⟨r', hr', hpad', hlt'⟩ := ih hpad₃ (by omega : b₃.length < m) hread
          exact ⟨r', by simp only [hcolon', hv', hr', ok_bind], hpad', by omega⟩

theorem recordListEnd_eq_ok_iff {x y : α} :
    recordListEnd x s = .ok (y, r) ↔ skipSpace s = ']' :: r ∧ x = y := by
  unfold recordListEnd
  cases skipSpace s with
  | nil => simp
  | cons c t =>
    by_cases hclose : c = ']'
    · simp [hclose, and_comm]
    · by_cases hcomma : c = ','
      · subst hcomma
        cases ht : skipSpace t <;> simp [ht]
      · simp [hclose, hcomma]

theorem settled_of_recordItems {fields : List (Field α)} {x y : α}
    (h : recordItems fields false x s = .ok (y, r)) : Settled s := by
  cases fields with
  | nil => exact settled_of_skipSpace (recordListEnd_eq_ok_iff.1 h).1 (by decide)
  | cons field fields =>
    obtain ⟨next, hnext, -⟩ := exists_of_bind_eq_ok h
    exact settled_of_nextItem hnext

theorem recordItems_padded {fields : List (Field α)} (hfields : CarryFields fields) {x y : α}
    (h : Padded (.code false) a b) (hread : recordItems fields isFirst x a = .ok (y, r)) :
    ∃ r', recordItems fields isFirst x b = .ok (y, r') ∧
      Padded (.code false) r r' ∧ r'.length < b.length := by
  induction fields generalizing a b isFirst x with
  | nil =>
    obtain ⟨ha, rfl⟩ := recordListEnd_eq_ok_iff.1 hread
    obtain ⟨r', hb, hrest⟩ := h.skipMark ha (by decide)
    exact ⟨r', recordListEnd_eq_ok_iff.2 ⟨hb, rfl⟩, hrest⟩
  | cons field fields ih =>
    obtain ⟨hfield, hfields⟩ := List.forall_mem_cons.1 hfields
    obtain ⟨next, hnext, hread⟩ := exists_of_bind_eq_ok hread
    obtain ⟨next', hnext', hpad⟩ := nextItem_padded h hnext
    rw [recordItems, hnext']
    cases hpad with
    | closed hrest hlt =>
      cases hread
      exact ⟨_, rfl, hrest, hlt⟩
    | item hrest hle =>
      obtain ⟨⟨z, a₁⟩, hv, hread⟩ := exists_of_bind_eq_ok hread
      obtain ⟨b₁, hv', hpad₁, hlt₁⟩ := hfield x hrest hv (settled_of_recordItems hread)
      obtain ⟨r', hr', hpad', hlt'⟩ := ih hfields hpad₁ hread
      exact ⟨r', by simp only [ok_bind, hv', hr'], hpad', by omega⟩

theorem carries_record (type : String) {fields : List (Field α)} (hfields : CarryFields fields)
    (init : α) :
    Carries (record type fields init) (record type fields init) := by
  intro a b v r hpad hread hr
  cases ha : skipSpace a with
  | nil => simp [record, ha] at hread
  | cons c a₁ =>
    obtain ⟨b₁, hb, hpad₁, hlt⟩ := hpad.skipSpace_cons ha
    simp only [record, ha] at hread
    simp only [record, hb]
    split at hread
    · rename_i heq
      cases heq
      obtain ⟨r', hv, hrest, hlt'⟩ :=
        recordEntries_padded hfields (hpad₁.behind (by decide)) (Nat.lt_succ_self _) hread
      exact ⟨r', hv, hrest, by omega⟩
    · rename_i heq
      cases heq
      obtain ⟨r', hv, hrest, hlt'⟩ := recordItems_padded hfields (hpad₁.behind (by decide)) hread
      exact ⟨r', hv, hrest, by omega⟩
    · cases hread

theorem carries_targets : Carries Targets.read Targets.read := by
  refine carries_record _ (fun field hfield x => ?_) _
  have hmap := carries_optional (carries_sectionOf carries_text)
  simp only [Targets.fields, List.mem_cons, List.not_mem_nil, or_false] at hfield
  rcases hfield with rfl | rfl
  · exact hmap.map fun m => { x with nx := m }
  · exact hmap.map fun m => { x with external := m }

theorem carries_featureTarget : Carries FeatureTarget.read FeatureTarget.read := by
  have hrecord : Carries (record "FeatureTarget" FeatureTarget.fields (none, none))
      (record "FeatureTarget" FeatureTarget.fields (none, none)) := by
    refine carries_record _ (fun field hfield x => ?_) _
    simp only [FeatureTarget.fields, List.mem_cons, List.not_mem_nil, or_false] at hfield
    rcases hfield with rfl | rfl
    · exact carries_text.map fun target => (some target, x.2)
    · exact (carries_optional carries_text).map fun variant => (x.1, variant)
  intro a b v r hpad hread hr
  obtain ⟨⟨⟨target, runFrom⟩, r₁⟩, hu, hread⟩ := exists_of_bind_eq_ok hread
  cases target with
  | none => cases hread
  | some target =>
    cases hread
    obtain ⟨r', hu', hrest⟩ := hrecord hpad hu hr
    exact ⟨r', by simp only [FeatureTarget.read, hu', ok_bind], hrest⟩

theorem carries_flags : Carries flags flags := carries_sectionOf (carries_form _ _)

theorem carryFields_config : CarryFields Config.fields := by
  intro field hfield x
  simp only [Config.fields, List.mem_cons, List.not_mem_nil, or_false] at hfield
  rcases hfield with rfl | rfl | rfl | rfl | rfl | rfl | rfl | rfl
  · exact (carries_sectionOf (carries_form _ _)).map fun m => { x with packages := m }
  · exact (carries_optional carries_targets).map fun t => { x with targets := t }
  · exact (carries_sectionOf carries_featureTarget).map fun m => { x with features := m }
  · exact carries_flags.map fun m => { x with expandableFlags := m }
  · exact carries_flags.map fun m => { x with contextFlags := m }
  · exact carries_flags.map fun m => { x with internalFlags := m }
  · exact carries_flags.map fun m => { x with environmentFlags := m }
  · exact (carries_sectionOf carries_text).map fun m => { x with commands := m }

namespace Config

theorem ofJson_eq_ok_iff {c : Config} : ofJson s = .ok c ↔
    ∃ r, record "AliasConfig" fields {} s = .ok (c, r) ∧ skipSpace r = [] := by
  unfold ofJson
  cases hread : record "AliasConfig" fields {} s with
  | error e => simp
  | ok p =>
    obtain ⟨d, r⟩ := p
    constructor
    · intro h
      dsimp only [ok_bind, error_bind] at h
      split at h
      · rename_i hr
        cases h
        exact ⟨r, rfl, hr⟩
      · cases h
    · rintro ⟨r', heq, hr⟩
      cases heq
      simp only [ok_bind, hr]

theorem parse_eq_ok_iff {text : String} {c : Config} :
    parse text = .ok c ↔ ofJson (uncommented .code text.toList) = .ok c := mapError_eq_ok_iff

theorem ofJson_padded {c : Config} (h : Padded (.code false) a b) (ha : ofJson a = .ok c) :
    ofJson b = .ok c := by
  obtain ⟨r, hread, hr⟩ := ofJson_eq_ok_iff.1 ha
  have hsettled : Settled r := by simp [Settled, hr, EndsToken]
  obtain ⟨r', hread', hrest, -⟩ := carries_record _ carryFields_config _ h hread hsettled
  exact ofJson_eq_ok_iff.2 ⟨r', hread', hrest.skipSpace_nil hr⟩

end Config

end Shorthand
