import Mathlib.Data.List.TakeWhile
import Mathlib.Tactic.SplitIfs
import Shorthand.Json.Skip
import Shorthand.Proofs.Success
set_option autoImplicit false

namespace Shorthand.Json

/-- What numbers and the words `true`, `false` and `null` are made of. -/
def isTokenChar (c : Char) : Bool :=
  c.isDigit || ['+', '-', '.', 'e', 'E', 't', 'r', 'u', 'f', 'a', 'l', 's', 'n'].contains c

def EndsToken (s : List Char) : Prop := ∀ c ∈ s.head?, isTokenChar c = false

def AllToken (w : List Char) : Prop := ∀ c ∈ w, isTokenChar c

instance (w : List Char) : Decidable (AllToken w) :=
  List.decidableBAll (fun c : Char => isTokenChar c) w

/-- Where the reader stops at the end of a token, it would have stopped there in front of any
rest. -/
def Scans {α : Type} (read : Reader α) : Prop :=
  ∀ ⦃s : List Char⦄ ⦃v : α⦄ ⦃r : List Char⦄, read s = .ok (v, r) → EndsToken r →
    ∃ w, s = w ++ r ∧ AllToken w ∧ ∀ r', EndsToken r' → read (w ++ r') = .ok (v, r')

variable {α : Type} {s t w r r' : List Char} {c : Char} {p : Char → Bool}

theorem endsToken_cons (h : isTokenChar c = false) : EndsToken (c :: s) := by
  simpa [EndsToken] using h

theorem EndsToken.head (h : EndsToken (c :: s)) : isTokenChar c = false := h c (by simp)

@[simp] theorem allToken_nil : AllToken [] := by simp [AllToken]

theorem AllToken.cons (hc : isTokenChar c) (h : AllToken w) : AllToken (c :: w) :=
  List.forall_mem_cons.2 ⟨hc, h⟩

theorem AllToken.append (hw : AllToken w) (ht : AllToken t) : AllToken (w ++ t) :=
  List.forall_mem_append.2 ⟨hw, ht⟩

theorem isTokenChar_of_isDigit (c : Char) (h : c.isDigit) : isTokenChar c := by
  simp [isTokenChar, h]

theorem isTokenChar_of_isExponentMark (c : Char) (h : isExponentMark c) : isTokenChar c := by
  simp only [isExponentMark, Bool.or_eq_true, decide_eq_true_eq] at h
  rcases h with rfl | rfl <;> decide

theorem eq_false_of_isTokenChar (hp : p c → isTokenChar c) (h : isTokenChar c = false) :
    p c = false := by
  cases hc : p c with
  | false => rfl
  | true => exact absurd (hp hc) (by simp [h])

/-- What does not begin with a token character of some kind does not do so in front of another rest
either. -/
theorem head_append_of_endsToken (hp : ∀ c, p c → isTokenChar c)
    (h : ∀ c ∈ (w ++ r).head?, p c = false) (hr : EndsToken r') :
    ∀ c ∈ (w ++ r').head?, p c = false := by
  cases w with
  | nil => exact fun c hc => eq_false_of_isTokenChar (hp c) (hr c hc)
  | cons c w => simpa using h

namespace Scans

/-- A reader that takes a first character of some kind, and without one is another reader. -/
theorem byHead {read plain : Reader α} (hp : ∀ c, p c → isTokenChar c)
    (hnext : ∀ c, p c → Scans fun t => read (c :: t))
    (hplain : ∀ t v r, (∀ c ∈ t.head?, p c = false) → (read t = .ok (v, r) ↔ plain t = .ok (v, r)))
    (h : Scans plain) : Scans read := by
  intro s v r hread hr
  by_cases hs : ∀ c ∈ s.head?, p c = false
  · obtain ⟨w, rfl, hw, hall⟩ := h ((hplain s v r hs).1 hread) hr
    exact ⟨w, rfl, hw, fun r' hr' =>
      (hplain _ v r' (head_append_of_endsToken hp hs hr')).2 (hall r' hr')⟩
  · cases s with
    | nil => simp at hs
    | cons c t =>
      have hc : p c := by simpa using hs
      obtain ⟨w, rfl, hw, hall⟩ := hnext c hc hread hr
      exact ⟨c :: w, rfl, hw.cons (hp c hc), hall⟩

theorem digits {read : Reader α} (go : List Char → Reader α)
    (heq : ∀ s v r, read s = .ok (v, r) ↔
      go (s.takeWhile Char.isDigit) (s.dropWhile Char.isDigit) = .ok (v, r))
    (h : ∀ ds, Scans (go ds)) : Scans read := by
  intro s v r hread hr
  obtain ⟨w, hrest, hw, hall⟩ := h _ ((heq s v r).1 hread) hr
  have hpos : ∀ c ∈ s.takeWhile Char.isDigit, c.isDigit := fun c hc => List.mem_takeWhile_imp hc
  refine ⟨s.takeWhile Char.isDigit ++ w, ?_,
    .append (fun c hc => isTokenChar_of_isDigit c (hpos c hc)) hw, ?_⟩
  · rw [List.append_assoc, ← hrest, List.takeWhile_append_dropWhile]
  · intro r' hr'
    have hhead : ∀ c ∈ (w ++ r).head?, c.isDigit = false := by
      intro c hc
      have hnot := List.head?_dropWhile_not Char.isDigit s
      rw [hrest, Option.mem_def.1 hc] at hnot
      simpa using hnot
    have hstop := head_append_of_endsToken isTokenChar_of_isDigit hhead hr'
    have hnone : (w ++ r').takeWhile Char.isDigit = [] ∧
      (w ++ r').dropWhile Char.isDigit = w ++ r' := by
      cases hs : w ++ r' with
      | nil => simp
      | cons d t => simp [hstop d (by simp [hs])]
    rw [heq, List.append_assoc, List.takeWhile_append_of_pos hpos,
      List.dropWhile_append_of_pos hpos, hnone.1, hnone.2, List.append_nil]
    exact hall r' hr'

theorem ok (v : α) : Scans fun s => .ok (v, s) := by
  intro s u r hread _
  cases hread
  exact ⟨[], rfl, allToken_nil, fun _ _ => rfl⟩

theorem error (stop : List Char → Stop) :
    Scans fun s => (.error (stop s) : Except Stop (α × List Char)) :=
  fun _ _ _ hread _ => nomatch hread

end Scans

theorem scans_toFloat (m : Mantissa) : Scans m.toFloat := by
  unfold Mantissa.toFloat
  cases Binary64.ofDecimal m.digits m.exponent with
  | some x => exact .ok _
  | none => exact .error _

theorem scans_toNumber (m : Mantissa) : Scans m.toNumber := by
  unfold Mantissa.toNumber
  by_cases hneg : m.isNegative
  · by_cases hrange : 0 < m.digits ∧ m.digits ≤ Nat.pow 2 63
    · simpa [hneg, hrange] using Scans.ok _
    · simpa [hneg, hrange] using scans_toFloat m
  · simpa [hneg] using Scans.ok _

def isSign (c : Char) : Bool := c = '+' || c = '-'

theorem isTokenChar_of_isSign (c : Char) (h : isSign c) : isTokenChar c := by
  simp only [isSign, Bool.or_eq_true, decide_eq_true_eq] at h
  rcases h with rfl | rfl <;> decide

def afterExponent (m : Mantissa) (isBelow : Bool) (ds rest : List Char) :
    Except Stop (Number × List Char) :=
  if ds = [] then .error (here .badNumber rest)
  else
    match exponentValue 0 ds with
    | .ok e =>
      { m with exponent := if isBelow then m.exponent - e else m.exponent + e }.toFloat rest
    | .error unread =>
      if m.digits ≠ 0 ∧ ¬ isBelow then .error (here .numberOutOfRange (unread ++ rest))
        else .ok (.float m.zero, rest)

theorem scans_afterExponent (m : Mantissa) (isBelow : Bool) (ds : List Char) :
    Scans (afterExponent m isBelow ds) := by
  unfold afterExponent
  by_cases hds : ds = []
  · simpa only [hds, if_true] using Scans.error _
  · simp only [hds, if_false]
    cases exponentValue 0 ds with
    | ok e => exact scans_toFloat _
    | error unread =>
      dsimp only
      split
      · exact .error _
      · exact .ok _

def exponentDigits (m : Mantissa) (isBelow : Bool) (s : List Char) :
    Except Stop (Number × List Char) :=
  match s with
  | [] => .error (here .endInValue [])
  | c :: r =>
    if ¬ c.isDigit then .error (at1 .badNumber (c :: r))
    else
      let ds := s.takeWhile Char.isDigit
      let rest := s.dropWhile Char.isDigit
      match exponentValue 0 ds with
      | .ok e =>
        { m with exponent := if isBelow then m.exponent - e else m.exponent + e }.toFloat rest
      | .error unread =>
        if m.digits ≠ 0 ∧ ¬ isBelow then .error (here .numberOutOfRange (unread ++ rest))
        else .ok (.float m.zero, rest)

theorem exponent_unsigned (m : Mantissa) (h : ∀ c ∈ s.head?, isSign c = false) :
    exponent m s = exponentDigits m false s := by
  unfold exponent
  split
  rename_i heq
  split at heq
  · exact absurd (h '+' (by simp)) (by decide)
  · exact absurd (h '-' (by simp)) (by decide)
  · cases heq
    rfl

theorem scans_exponentDigits (m : Mantissa) (isBelow : Bool) :
    Scans (exponentDigits m isBelow) := by
  refine .digits (afterExponent m isBelow) (fun s v r => ?_) (scans_afterExponent m isBelow)
  cases s with
  | nil => simp [exponentDigits, afterExponent]
  | cons c s => by_cases hc : c.isDigit <;> simp [exponentDigits, afterExponent, hc]

theorem scans_exponent (m : Mantissa) : Scans (exponent m) := by
  refine .byHead isTokenChar_of_isSign (fun c hc => ?_) (fun t _ _ ht => ?_)
    (scans_exponentDigits m false)
  · simp only [isSign, Bool.or_eq_true, decide_eq_true_eq] at hc
    rcases hc with rfl | rfl
    · exact scans_exponentDigits m false
    · exact scans_exponentDigits m true
  · rw [exponent_unsigned m ht]

theorem scans_exponentOrEnd (m : Mantissa) : Scans (exponentOrEnd m) := by
  refine .byHead isTokenChar_of_isExponentMark (fun c hc => ?_) (fun t _ _ ht => ?_)
    (scans_toFloat m)
  · simpa [exponentOrEnd, hc] using scans_exponent m
  · cases t with
    | nil => rfl
    | cons c t => simp [exponentOrEnd, ht c (by simp)]

def afterFraction (m : Mantissa) (ds rest : List Char) : Except Stop (Number × List Char) :=
  if ds = [] then .error (here .badNumber rest)
  else
    let (n, pushed) := pushDigits m.digits ds
    exponentOrEnd { m with digits := n, exponent := m.exponent - pushed } rest

theorem scans_fraction (m : Mantissa) : Scans (fraction m) := by
  refine .digits (afterFraction m) (fun s v r => ?_) fun ds => ?_
  · unfold fraction afterFraction
    cases s.takeWhile Char.isDigit with
    | nil => cases s.dropWhile Char.isDigit <;> simp
    | cons c ds => simp
  · unfold afterFraction
    by_cases hds : ds = []
    · simpa only [hds, if_true] using Scans.error _
    · simpa only [hds, if_false] using scans_exponentOrEnd _

def goesOn (c : Char) : Bool := c = '.' || isExponentMark c

theorem isTokenChar_of_goesOn (c : Char) (h : goesOn c) : isTokenChar c := by
  simp only [goesOn, Bool.or_eq_true, decide_eq_true_eq] at h
  rcases h with rfl | h
  · decide
  · exact isTokenChar_of_isExponentMark c h

theorem scans_numberTail (m : Mantissa) (isWhole : Bool) : Scans (numberTail m isWhole) := by
  have hplain : Scans fun s => if isWhole then m.toNumber s else m.toFloat s := by
    cases isWhole with
    | true => simpa using scans_toNumber m
    | false => simpa using scans_toFloat m
  refine .byHead isTokenChar_of_goesOn (fun c hc => ?_) (fun t _ _ ht => ?_) hplain
  · by_cases hpoint : c = '.'
    · subst hpoint
      exact scans_fraction m
    · have hmark : isExponentMark c := by simpa [goesOn, hpoint] using hc
      simpa [numberTail, hmark] using scans_exponent m
  · cases t with
    | nil => simp [numberTail]
    | cons c t =>
      have hmark : isExponentMark c = false := by
        have hc := ht c (by simp)
        simp only [goesOn, Bool.or_eq_false_iff] at hc
        exact hc.2
      have hpoint : c ≠ '.' := by
        rintro rfl
        exact absurd (ht '.' (by simp)) (by decide)
      simp [numberTail, hmark]

/-- What follows the digits of a number that does not begin with a zero. -/
def afterDigits (isNegative : Bool) (ds rest : List Char) : Except Stop (Number × List Char) :=
  if ds = [] then .error (here .badNumber rest)
  else
    let (n, pushed) := pushDigits 0 ds
    numberTail ⟨isNegative, n, ds.length - pushed⟩ (pushed = ds.length) rest

theorem scans_afterDigits (isNegative : Bool) (ds : List Char) :
    Scans (afterDigits isNegative ds) := by
  unfold afterDigits
  by_cases hds : ds = []
  · simpa only [hds, if_true] using Scans.error _
  · simpa only [hds, if_false] using scans_numberTail _ _

theorem isTokenChar_zero (c : Char) (h : decide (c = '0')) : isTokenChar c := by
  obtain rfl : c = '0' := by simpa using h
  decide

theorem scans_digits (isNegative : Bool) : Scans (digits isNegative) := by
  refine .byHead isTokenChar_zero (fun c hc => ?_) (fun t v r ht => ?_)
    (.digits _ (fun _ _ _ => Iff.rfl) (scans_afterDigits isNegative))
  · obtain rfl : c = '0' := by simpa using hc
    refine .byHead isTokenChar_of_isDigit (fun d hd => ?_) (fun t _ _ ht => ?_)
      (scans_numberTail ⟨isNegative, 0, 0⟩ true)
    · simpa [digits, hd] using Scans.error _
    · cases t with
      | nil => rfl
      | cons d t => simp [digits, ht d (by simp)]
  · cases t with
    | nil => simp [digits, afterDigits]
    | cons c t =>
      have hzero : c ≠ '0' := by simpa using ht c (by simp)
      by_cases hc : c.isDigit <;> simp [digits, afterDigits, hc]

def asReader (skip : Skipper) : Reader Unit := fun s => (skip s).map ((), ·)

theorem asReader_eq_ok_iff {skip : Skipper} {u : Unit} :
    asReader skip s = .ok (u, r) ↔ skip s = .ok r := by
  unfold asReader
  cases skip s <;> simp

theorem scans_ok_skip : Scans (asReader .ok) := .ok ()

theorem scans_skipDigits_bind {next : Skipper} (h : Scans (asReader next)) :
    Scans (asReader fun s => do next (← skipDigits s)) := by
  refine .digits
    (fun ds rest => if ds = [] then .error (here .badNumber rest) else asReader next rest)
    (fun s v r => ?_) fun ds => ?_
  · cases s with
    | nil => simp [asReader_eq_ok_iff, skipDigits]
    | cons c s =>
      by_cases hc : c.isDigit <;> simp [asReader_eq_ok_iff, skipDigits, hc]
  · by_cases hds : ds = []
    · simpa only [hds, if_true] using Scans.error _
    · simpa only [hds, if_false] using h

theorem scans_skipDigits : Scans (asReader skipDigits) := by
  have heq : (fun s => do .ok (← skipDigits s)) = skipDigits := by
    funext s
    cases skipDigits s <;> rfl
  exact heq ▸ scans_skipDigits_bind scans_ok_skip

theorem scans_skipExponent : Scans (asReader skipExponent) := by
  refine .byHead isTokenChar_of_isSign (fun c hc => ?_) (fun t _ _ ht => ?_) scans_skipDigits
  · simp only [isSign, Bool.or_eq_true, decide_eq_true_eq] at hc
    rcases hc with rfl | rfl <;> exact scans_skipDigits
  · unfold asReader skipExponent
    split
    · exact absurd (ht '+' (by simp)) (by decide)
    · exact absurd (ht '-' (by simp)) (by decide)
    · rfl

theorem scans_skipExponentOrEnd : Scans (asReader skipExponentOrEnd) := by
  refine .byHead isTokenChar_of_isExponentMark (fun c hc => ?_) (fun t _ _ ht => ?_) scans_ok_skip
  · have heq : (fun t => asReader skipExponentOrEnd (c :: t)) = asReader skipExponent := by
      funext t
      simp [asReader, skipExponentOrEnd, hc]
    exact heq ▸ scans_skipExponent
  · cases t with
    | nil => rfl
    | cons c t => simp [asReader_eq_ok_iff, skipExponentOrEnd, ht c (by simp)]

theorem isTokenChar_point (c : Char) (h : decide (c = '.')) : isTokenChar c := by
  obtain rfl : c = '.' := by simpa using h
  decide

theorem scans_skipNumberTail : Scans (asReader skipNumberTail) := by
  refine .byHead isTokenChar_point (fun c hc => ?_) (fun t _ _ ht => ?_) scans_skipExponentOrEnd
  · obtain rfl : c = '.' := by simpa using hc
    exact scans_skipDigits_bind scans_skipExponentOrEnd
  · unfold asReader skipNumberTail
    split
    · exact absurd (ht '.' (by simp)) (by decide)
    · rfl

theorem scans_skipNumber : Scans (asReader skipNumber) := by
  refine .byHead isTokenChar_zero (fun c hc => ?_) (fun t _ _ ht => ?_)
    (scans_skipDigits_bind scans_skipNumberTail)
  · obtain rfl : c = '0' := by simpa using hc
    refine .byHead isTokenChar_of_isDigit (fun d hd => ?_) (fun t _ _ ht => ?_) scans_skipNumberTail
    · simpa [asReader, skipNumber, hd] using Scans.error _
    · cases t with
      | nil => rfl
      | cons d t => simp [asReader_eq_ok_iff, skipNumber, ht d (by simp)]
  · unfold asReader skipNumber
    split
    · exact absurd (ht '0' (by simp)) (by decide)
    · rfl

end Shorthand.Json
