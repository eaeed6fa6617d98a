import Shorthand.Json.Comment
import Shorthand.Proofs.Json.Printed
set_option autoImplicit false

namespace Shorthand.Json

/-- Nothing of it is taken out as a comment, whatever follows. -/
def Commentless (w : List Char) : Prop := ∀ s, uncommented .code (w ++ s) = w ++ uncommented .code s

variable {a b : List Char} {c : Char}

@[simp] theorem commentless_nil : Commentless [] := fun _ => rfl

theorem Commentless.cons (hc : c ≠ '/' ∧ c ≠ '"') (h : Commentless a) : Commentless (c :: a) := by
  intro s
  have hstep (t : List Char) : uncommented .code (c :: t) = c :: uncommented .code t := by
    simp [uncommented, hc.1, hc.2]
  rw [List.cons_append, hstep, h s, List.cons_append]

theorem Commentless.append (ha : Commentless a) (hb : Commentless b) : Commentless (a ++ b) := by
  intro s
  rw [List.append_assoc, ha, hb, List.append_assoc]

theorem commentless_of_forall (h : ∀ c ∈ a, c ≠ '/' ∧ c ≠ '"') : Commentless a := by
  induction a with
  | nil => exact commentless_nil
  | cons c a ih =>
    obtain ⟨hc, ha⟩ := List.forall_mem_cons.1 h
    exact .cons hc (ih ha)

theorem uncommented_escaped (c : Char) (s : List Char) :
    uncommented .string (escaped c ++ s) = escaped c ++ uncommented .string s := by
  have hdigit (n : Nat) : hexDigit n ≠ '"' ∧ hexDigit n ≠ '\\' := by
    have hall : ∀ d < 16, Nat.digitChar d ≠ '"' ∧ Nat.digitChar d ≠ '\\' := by decide
    exact hall (n % 16) (Nat.mod_lt n (by decide))
  rcases escaped_cases c with ⟨d, heq, -, -⟩ | ⟨-, heq⟩ | ⟨hquote, hslash, -, heq⟩
  · simp [heq, uncommented]
  · simp [heq, uncommented, hdigit]
  · simp [heq, uncommented, hquote, hslash]

theorem commentless_writeString (text : String) : Commentless (writeString text) := by
  intro s
  have hbody (cs : List Char) :
      uncommented .string (cs.flatMap escaped ++ '"' :: s) = cs.flatMap escaped ++
        '"' :: uncommented .code s := by
    induction cs with
    | nil => simp [uncommented]
    | cons c cs ih =>
      rw [List.flatMap_cons, List.append_assoc, uncommented_escaped, ih, List.append_assoc]
  simp [writeString, uncommented, hbody]

theorem commentless_commas {parts : List (List Char)} (h : ∀ p ∈ parts, Commentless p) :
    Commentless (commas parts) :=
  commas_induction commentless_nil (fun ha hb => ha.append (.cons (by decide) hb)) h

theorem commentless_writeList {parts : List (List Char)} (h : ∀ p ∈ parts, Commentless p) :
    Commentless (writeList parts) :=
  .append (.cons (by decide) (commentless_commas h)) (.cons (by decide) commentless_nil)

theorem commentless_writeObject {l : List (String × List Char)} (h : ∀ e ∈ l, Commentless e.2) :
    Commentless (writeObject l) := by
  refine .append (.cons (by decide) (commentless_commas fun p hp => ?_))
    (.cons (by decide) commentless_nil)
  obtain ⟨e, he, rfl⟩ := List.mem_map.1 hp
  exact .append (commentless_writeString e.1) (.cons (by decide) (h e he))

theorem commentless_toDigits (n : Nat) : Commentless (Nat.toDigits 10 n) := by
  refine commentless_of_forall fun c hc => ?_
  have hdigit : c.isDigit := Nat.isDigit_of_mem_toDigits (by decide) (by decide) hc
  constructor
  · rintro rfl
    exact absurd hdigit (by decide)
  · rintro rfl
    exact absurd hdigit (by decide)

theorem Fits.commentless {depth : Nat} {v : Value} (h : Fits Number.IsWhole depth v) :
    Commentless v.write := by
  induction h with
  | null => exact commentless_of_forall (by simp [Value.write])
  | bool b => cases b <;> exact commentless_of_forall (by simp [Value.write])
  | @number depth n hn =>
    cases n with
    | natural n => exact commentless_toDigits n
    | negative n => exact .cons (by decide) (commentless_toDigits n)
    | float x => exact hn.elim
  | string text => exact commentless_writeString text
  | list h ih =>
    rw [Value.write, writtenItems_eq_map]
    exact commentless_writeList (List.forall_mem_map.2 ih)
  | object h ih =>
    rw [Value.write, writtenEntries_eq_map]
    exact commentless_writeObject (List.forall_mem_map.2 ih)

end Shorthand.Json
