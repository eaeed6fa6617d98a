import Mathlib.Data.List.TakeWhile
import Shorthand.Json.Comment
set_option autoImplicit false

namespace Shorthand.Json

inductive Piece where
  /-- A character outside of strings and comments. -/
  | code (c : Char)
  /-- A string with its quotes; the last one may be missing at the end of the text. -/
  | string (text : List Char)
  /-- A comment with what opens and closes it, but without the line end behind it. -/
  | comment (text : List Char)

/-- What is left of a string, up to the next quote that no backslash escapes, and what follows
it. -/
def cutString : List Char → List Char × List Char
  | [] => ([], [])
  | '"' :: r => (['"'], r)
  | '\\' :: c :: r => ('\\' :: c :: (cutString r).1, (cutString r).2)
  | c :: r => (c :: (cutString r).1, (cutString r).2)

/-- What is left of a comment, up to the next `*/` or the end of the text, and what follows it. -/
def cutBlock : List Char → List Char × List Char
  | [] => ([], [])
  | '*' :: '/' :: r => (['*', '/'], r)
  | c :: r => (c :: (cutBlock r).1, (cutBlock r).2)

@[simp] theorem cutString_append (s : List Char) : (cutString s).1 ++ (cutString s).2 = s := by
  fun_induction cutString s with
  | case1 => rfl
  | case2 => rfl
  | case3 c r ih => simp [ih]
  | case4 c r _ _ ih => simp [ih]

@[simp] theorem cutBlock_append (s : List Char) : (cutBlock s).1 ++ (cutBlock s).2 = s := by
  fun_induction cutBlock s with
  | case1 => rfl
  | case2 => rfl
  | case3 c r _ ih => simp [ih]

theorem length_cutString_le (s : List Char) : (cutString s).2.length ≤ s.length := by
  have h := congrArg List.length (cutString_append s)
  rw [List.length_append] at h
  omega

theorem length_cutBlock_le (s : List Char) : (cutBlock s).2.length ≤ s.length := by
  have h := congrArg List.length (cutBlock_append s)
  rw [List.length_append] at h
  omega

def isLineEnd (c : Char) : Bool := c = '\n'

/-- The pieces of a text, from left to right. -/
def pieces : List Char → List Piece
  | [] => []
  | '"' :: r => .string ('"' :: (cutString r).1) :: pieces (cutString r).2
  | '/' :: '/' :: r =>
    .comment ('/' :: '/' :: r.takeWhile fun c => !isLineEnd c) ::
      pieces (r.dropWhile fun c => !isLineEnd c)
  | '/' :: '*' :: r => .comment ('/' :: '*' :: (cutBlock r).1) :: pieces (cutBlock r).2
  | c :: r => .code c :: pieces r
termination_by s => s.length
decreasing_by
  · exact Nat.lt_succ_of_le (length_cutString_le r)
  · have h := List.length_dropWhile_le (fun c => !isLineEnd c) r
    simp only [List.length_cons]
    omega
  · have h := length_cutBlock_le r
    simp only [List.length_cons]
    omega
  · simp

namespace Piece

def text : Piece → List Char
  | code c => [c]
  | string text => text
  | comment text => text

/-- What is left where comments are taken out: their line ends. -/
def bare : Piece → List Char
  | code c => [c]
  | string text => text
  | comment text => text.filter isLineEnd

def blanked : Piece → List Char
  | code c => [c]
  | string text => text
  | comment text => ' ' :: text.filter isLineEnd

end Piece

/-- The text with a blank and its line ends in place of each comment. -/
def blankedComments (s : List Char) : List Char := (pieces s).flatMap Piece.blanked

theorem text_pieces (s : List Char) : (pieces s).flatMap Piece.text = s := by
  fun_induction pieces s with
  | case1 => rfl
  | case2 r ih => simp [Piece.text, ih]
  | case3 r ih => simp [Piece.text, ih, List.takeWhile_append_dropWhile]
  | case4 r ih => simp [Piece.text, ih]
  | case5 c r _ _ _ ih => simp [Piece.text, ih]

theorem uncommented_string (s : List Char) :
    uncommented .string s = (cutString s).1 ++ uncommented .code (cutString s).2 := by
  fun_induction cutString s with
  | case1 => rfl
  | case2 r => simp [uncommented]
  | case3 c r ih => simp [uncommented, ih]
  | case4 c r hquote hslash ih =>
    have hquote : c ≠ '"' := hquote
    by_cases hc : c = '\\'
    · subst hc
      cases r with
      | nil => rfl
      | cons d r => exact absurd rfl (hslash d r rfl)
    · simp [uncommented, hc, hquote, ih]

theorem uncommented_lineComment (s : List Char) :
    uncommented .lineComment s = uncommented .code (s.dropWhile fun c => !isLineEnd c) := by
  induction s with
  | nil => rfl
  | cons c s ih => by_cases hc : c = '\n' <;> simp [uncommented, isLineEnd, hc, ih]

theorem uncommented_blockComment (s : List Char) :
    uncommented .blockComment s = (cutBlock s).1.filter isLineEnd ++
      uncommented .code (cutBlock s).2 := by
  fun_induction cutBlock s with
  | case1 => rfl
  | case2 r => simp [uncommented, isLineEnd]
  | case3 c r hclose ih =>
    by_cases hc : c = '\n'
    · subst hc
      simp [uncommented, isLineEnd, ih]
    · simp [uncommented, isLineEnd, hc, ih]

/-- A text without its comments is what is left of its pieces. -/
theorem uncommented_eq (s : List Char) : uncommented .code s = (pieces s).flatMap Piece.bare := by
  fun_induction pieces s with
  | case1 => rfl
  | case2 r ih => simp [uncommented, uncommented_string, Piece.bare, ih]
  | case3 r ih =>
    have hnone : ('/' :: '/' :: r.takeWhile fun c => !isLineEnd c).filter isLineEnd = [] := by
      rw [List.filter_cons_of_neg (by decide), List.filter_cons_of_neg (by decide),
        List.filter_eq_nil_iff]
      intro c hc
      simpa using List.mem_takeWhile_imp hc
    simp only [uncommented, uncommented_lineComment, List.flatMap_cons, Piece.bare, hnone, ih,
      List.nil_append]
  | case4 r ih => simp [uncommented, uncommented_blockComment, Piece.bare, ih, isLineEnd]
  | case5 c r hquote hline hblock ih =>
    have hquote : c ≠ '"' := hquote
    simp [uncommented, Piece.bare, hquote, ih]

end Shorthand.Json
