import Shorthand.Proofs.Flag.Composition
set_option autoImplicit false

namespace Shorthand

namespace Text

theorem dropStart?_dashes_eq_none_iff {body : String} :
    dropStart? "--" ("-" ++ body) = none ↔ startsWith '-' body = false := by
  cases hbody : body.toList with
  | nil => simp [dropStart?, startsWith, hbody]
  | cons c cs =>
    by_cases hc : c = '-'
    · simp [dropStart?, startsWith, hbody, hc]
    · simp [dropStart?, startsWith, hbody, hc, Ne.symm hc]

end Text

namespace FlagToken

variable {key body value : String} {isShort : Bool}

theorem ofBody?_key (hkey : key ≠ "") (heq : '=' ∉ key.toList) :
    ofBody? isShort key = some ⟨key, none, isShort && 1 < key.length⟩ := by
  simp [ofBody?, Text.cut, Text.cutChars_eq_none_iff.2 heq, hkey]

theorem ofBody?_assigned (hkey : key ≠ "") (heq : '=' ∉ key.toList) (value : String) :
    ofBody? isShort (key ++ ("=" ++ value)) =
      some ⟨key, some value, isShort && 1 < key.length⟩ := by
  have hcut : Text.cut '=' (key ++ ("=" ++ value)) = some (key, value) := by
    simp [Text.cut, Text.cutChars_append heq]
  simp [ofBody?, hcut, hkey]

theorem ofWord?_long (body : String) : ofWord? ("--" ++ body) = ofBody? false body := by
  simp [ofWord?]

theorem ofWord?_short (h : Text.startsWith '-' body = false) :
    ofWord? ("-" ++ body) = ofBody? true body := by
  simp [ofWord?, Text.dropStart?_dashes_eq_none_iff.2 h]

theorem ofWord?_of_not_startsWith {word : String} (h : Text.startsWith '-' word = false) :
    ofWord? word = none := by
  cases hword : word.toList with
  | nil => simp [ofWord?, Text.dropStart?, hword]
  | cons c cs =>
    have hc : c ≠ '-' := by simpa [Text.startsWith, hword] using h
    simp [ofWord?, Text.dropStart?, hword, Ne.symm hc]

theorem bare_of_ofBody? {token : FlagToken} (h : ofBody? isShort body = some token)
    (hvalue : token.value = none) :
    token = ⟨body, none, isShort && 1 < body.length⟩ ∧ '=' ∉ body.toList := by
  unfold ofBody? at h
  cases hcut : Text.cut '=' body with
  | none =>
    simp only [hcut] at h
    split at h
    · cases h
    · exact ⟨(Option.some.inj h).symm, Text.cutChars_eq_none_iff.1 (by simpa [Text.cut] using hcut)⟩
  | some parts =>
    simp only [hcut] at h
    split at h
    · cases h
    · obtain rfl := Option.some.inj h
      cases hvalue

theorem eq_of_isBundle {word : String} {token : FlagToken} (h : ofWord? word = some token)
    (hbundle : token.isBundle = true) (hvalue : token.value = none) :
    word = "-" ++ token.key ∧ 2 ≤ token.key.length ∧ Text.startsWith '-' token.key = false ∧
      '=' ∉ token.key.toList := by
  unfold ofWord? at h
  split at h
  · obtain ⟨rfl, -⟩ := bare_of_ofBody? h hvalue
    cases hbundle
  · rename_i hlong
    obtain ⟨body, hdrop, hshort⟩ := Option.bind_eq_some_iff.1 h
    obtain rfl := Text.eq_of_dropStart? hdrop
    obtain ⟨rfl, heq⟩ := bare_of_ofBody? hshort hvalue
    have htwo : 1 < body.length := by simpa using hbundle
    exact ⟨rfl, htwo, Text.dropStart?_dashes_eq_none_iff.1 hlong, heq⟩

theorem ofWord?_separator : ofWord? separator = none := by decide +kernel

end FlagToken

/-- The word is the key behind two dashes, or behind one if the key has no dash in front itself. -/
inductive Names (key : String) : String → Prop
  | long : Names key ("--" ++ key)
  | short (undashed : Text.startsWith '-' key = false) : Names key ("-" ++ key)

namespace Names

variable {key word : String}

theorem startsWith (h : Names key word) : Text.startsWith '-' word = true := by
  cases h <;> simp [Text.startsWith]

theorem exists_ofWord? (h : Names key word) (hkey : key ≠ "") (heq : '=' ∉ key.toList) :
    ∃ isBundle, FlagToken.ofWord? word = some ⟨key, none, isBundle⟩ := by
  cases h with
  | long => exact ⟨_, (FlagToken.ofWord?_long key).trans (FlagToken.ofBody?_key hkey heq)⟩
  | short undashed =>
    exact ⟨_, (FlagToken.ofWord?_short undashed).trans (FlagToken.ofBody?_key hkey heq)⟩

theorem exists_ofWord?_assigned (h : Names key word) (hkey : key ≠ "") (heq : '=' ∉ key.toList)
    (value : String) :
    ∃ isBundle, FlagToken.ofWord? (word ++ "=" ++ value) = some ⟨key, some value, isBundle⟩ := by
  have hassigned (isShort : Bool) : FlagToken.ofBody? isShort (key ++ ("=" ++ value)) =
      some ⟨key, some value, isShort && 1 < key.length⟩ := FlagToken.ofBody?_assigned hkey heq value
  cases h with
  | long =>
    rw [String.append_assoc, String.append_assoc]
    exact ⟨_, (FlagToken.ofWord?_long _).trans (hassigned false)⟩
  | short undashed =>
    -- The key is not empty, so that what stands behind the dash begins as the key does.
    have hbody : Text.startsWith '-' (key ++ ("=" ++ value)) = false := by
      obtain ⟨c, cs, hcs⟩ := List.exists_cons_of_ne_nil (String.toList_eq_nil_iff.not.2 hkey)
      simpa [Text.startsWith, hcs] using undashed
    rw [String.append_assoc, String.append_assoc]
    exact ⟨_, (FlagToken.ofWord?_short hbody).trans (hassigned true)⟩

end Names

theorem ne_empty_of_two_le {key : String} (h : 2 ≤ key.length) : key ≠ "" := by
  intro heq
  exact absurd (heq ▸ h) (by decide)

theorem separator_ne_of_ofWord? {word : String} {token : FlagToken}
    (h : FlagToken.ofWord? word = some token) :
    separator ≠ word := by
  intro heq
  rw [← heq, FlagToken.ofWord?_separator] at h
  cases h

namespace Expander

variable {x : Expander} {key word : String} {members : List (String × Flag)}

/-- The members are the flags of the table that the characters of the key stand for. -/
def Spells (x : Expander) (key : String) (members : List (String × Flag)) : Prop :=
  List.Forall₂ (fun c e => e.1 = c.toString ∧ x.table.get? e.1 = some e.2) key.toList members

theorem members?_eq_some_iff : x.members? key = some members ↔ x.Spells key members := by
  unfold members? Spells
  generalize key.toList = cs
  induction cs generalizing members with
  | nil => simp [eq_comm]
  | cons c cs ih =>
    simp only [List.mapM_cons, Option.bind_eq_bind, Option.bind_eq_some_iff, Option.map_eq_some_iff,
      Option.pure_def, Option.some.injEq, List.forall₂_cons_left_iff, ih]
    constructor
    · rintro ⟨e, ⟨flag, hflag, rfl⟩, rest, hrest, rfl⟩
      exact ⟨_, _, ⟨rfl, hflag⟩, hrest, rfl⟩
    · rintro ⟨⟨key, flag⟩, rest, ⟨hkey, hflag⟩, hrest, rfl⟩
      obtain rfl : key = c.toString := hkey
      exact ⟨_, ⟨flag, hflag, rfl⟩, rest, hrest, rfl⟩

theorem token_of_reading_bundle (h : x.reading word = .bundle members) :
    ∃ token, FlagToken.ofWord? word = some token ∧
      x.table.get? token.key = none ∧ token.isBundle = true ∧
      token.value = none ∧ x.Spells token.key members := by
  unfold reading at h
  cases htoken : FlagToken.ofWord? word with
  | none => simp [htoken] at h
  | some token =>
    cases hflag : x.table.get? token.key with
    | some flag => simp [htoken, hflag] at h
    | none =>
      simp only [htoken, hflag] at h
      by_cases hbundle : token.isBundle && token.value.isNone
      · rw [if_pos hbundle] at h
        obtain ⟨hbundle, hvalue⟩ := Bool.and_eq_true_iff.1 hbundle
        have hmembers : x.members? token.key = some members := by
          cases hfound : x.members? token.key with
          | none => simp [hfound] at h
          | some found => simpa [hfound] using h
        exact ⟨token, rfl, hflag, hbundle, by simpa using hvalue, members?_eq_some_iff.1 hmembers⟩
      · simp [hbundle] at h

theorem reading_eq_bundle_iff : x.reading word = .bundle members ↔
    ∃ key, word = "-" ++ key ∧ 2 ≤ key.length ∧ Text.startsWith '-' key = false ∧ '=' ∉ key.toList ∧
      x.table.get? key = none ∧ x.Spells key members := by
  constructor
  · intro h
    obtain ⟨token, htoken, hnone, hbundle, hvalue, hmembers⟩ := token_of_reading_bundle h
    obtain ⟨hword, htwo, hdash, heq⟩ := FlagToken.eq_of_isBundle htoken hbundle hvalue
    exact ⟨token.key, hword, htwo, hdash, heq, hnone, hmembers⟩
  · rintro ⟨key, rfl, htwo, hdash, heq, hnone, hmembers⟩
    have htoken :=
      (FlagToken.ofWord?_short hdash).trans (FlagToken.ofBody?_key (ne_empty_of_two_le htwo) heq)
    have hlong : 1 < key.length := htwo
    simp [reading, htoken, hnone, hlong, members?_eq_some_iff.2 hmembers]

theorem Spells.get? (h : x.Spells key members) : ∀ e ∈ members, x.table.get? e.1 = some e.2 := by
  unfold Spells at h
  generalize key.toList = cs at h
  induction h with
  | nil => simp
  | cons hmember _ ih => exact List.forall_mem_cons.2 ⟨hmember.2, ih⟩

theorem get?_of_reading_bundle (h : x.reading word = .bundle members) :
    ∀ e ∈ members, x.table.get? e.1 = some e.2 := by
  obtain ⟨key, -, -, -, -, -, hmembers⟩ := reading_eq_bundle_iff.1 h
  exact hmembers.get?

end Expander

end Shorthand
