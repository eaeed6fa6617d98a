import Shorthand.Proofs.Config.Blanks
import Shorthand.Proofs.Json.Pieces
set_option autoImplicit false

namespace Shorthand

namespace Json

def startsToken (s : List Char) : Bool := s.head?.any isTokenChar

def Piece.isComment : Piece → Bool
  | comment _ => true
  | _ => false

/-- Whether comments stand between two characters of tokens that come together when the comments are
taken out. -/
def joinsTokens : List Piece → Bool
  | [] => false
  | .code c :: ps =>
    isTokenChar c && ps.head?.any Piece.isComment &&
      startsToken (ps.flatMap Piece.bare) || joinsTokens ps
  | _ :: ps => joinsTokens ps

variable {a b s : List Char} {g : Bool}

theorem endsToken_of_startsToken (h : startsToken s = false) : EndsToken s := by
  cases s with
  | nil => simp [EndsToken]
  | cons c s => exact endsToken_cons (by simpa [startsToken] using h)

namespace Padded

theorem lineEnds (h : Padded (.code false) a b) {ls : List Char} (hls : ∀ c ∈ ls, isLineEnd c) :
    Padded (.code false) (ls ++ a) (ls ++ b) := by
  induction ls with
  | nil => exact h
  | cons c ls ih =>
    obtain ⟨hc, hrest⟩ := List.forall_mem_cons.1 hls
    obtain rfl : c = '\n' := by simpa [isLineEnd] using hc
    exact .cons (ih hrest)

theorem stringRest (s : List Char) (hend : (cutString s).2 = [] → a = [] ∧ b = [])
    (h : Padded (.code false) a b) :
    Padded .string ((cutString s).1 ++ a) ((cutString s).1 ++ b) := by
  fun_induction cutString s with
  | case1 =>
    obtain ⟨rfl, rfl⟩ := hend rfl
    exact .nil
  | case2 r => exact .cons h
  | case3 c r ih => exact .cons (.cons (ih hend))
  | case4 c r hquote hslash ih =>
    have hquote : c ≠ '"' := hquote
    by_cases hc : c = '\\'
    · subst hc
      cases r with
      | nil =>
        obtain ⟨rfl, rfl⟩ := hend rfl
        exact .cons .nil
      | cons d r => exact absurd rfl (hslash d r rfl)
    · refine .cons ?_
      rw [next_string hquote hc]
      exact ih hend

end Padded

theorem next_code {c : Char} (h : c ≠ '"') : (Zone.code g).next c = .code (isTokenChar c) := by
  simp [Zone.next, h]

/-- Where comments are blanks, the text without them has these blanks less. -/
theorem padded_bare (s : List Char) (g : Bool) :
    Padded (.code g) (blankedComments s) (uncommented .code s) := by
  rw [uncommented_eq, blankedComments]
  fun_induction pieces s generalizing g with
  | case1 => exact .nil
  | case2 r ih =>
    refine .cons (.stringRest r (fun hend => ?_) (ih false))
    simp [hend, pieces]
  | case3 r ih => exact .left (.lineEnds (ih false) fun c hc => (List.mem_filter.1 hc).2)
  | case4 r ih => exact .left (.lineEnds (ih false) fun c hc => (List.mem_filter.1 hc).2)
  | case5 c r hquote _ _ ih =>
    have hquote : c ≠ '"' := hquote
    exact .cons (next_code (g := g) hquote ▸ ih (isTokenChar c))

theorem padded_blanked (s : List Char) (g : Bool) (h : joinsTokens (pieces s) = false)
    (hg : g = true → (pieces s).head?.any Piece.isComment →
      EndsToken ((pieces s).flatMap Piece.bare)) :
    Padded (.code g) (uncommented .code s) (blankedComments s) := by
  rw [uncommented_eq, blankedComments]
  fun_induction pieces s generalizing g with
  | case1 => exact .nil
  | case2 r ih =>
    refine .cons (.stringRest r (fun hend => ?_) (ih false h (by simp)))
    simp [hend, pieces]
  | case3 r ih =>
    exact .right (fun hg' => hg hg' rfl)
      (.lineEnds (ih false h (by simp)) fun c hc => (List.mem_filter.1 hc).2)
  | case4 r ih =>
    exact .right (fun hg' => hg hg' rfl)
      (.lineEnds (ih false h (by simp)) fun c hc => (List.mem_filter.1 hc).2)
  | case5 c r hquote _ _ ih =>
    have hquote : c ≠ '"' := hquote
    simp only [joinsTokens, Bool.or_eq_false_iff] at h
    refine .cons (next_code (g := g) hquote ▸ ih (isTokenChar c) h.2 fun hc hcomment => ?_)
    exact endsToken_of_startsToken (by simpa [hc, hcomment] using h.1)

end Json

namespace Config

open Json

/-- What is read with blanks in place of the comments is read with the comments, and the other way
round unless a comment parts a token. A comment that nothing closes ends with the text. -/
theorem parse_blankedComments (text : String) :
    (∀ c, ofJson (blankedComments text.toList) = .ok c → parse text = .ok c) ∧
      (joinsTokens (pieces text.toList) = false →
        (parse text).toOption = (ofJson (blankedComments text.toList)).toOption) := by
  have hblanked (c : Config) (h : ofJson (blankedComments text.toList) = .ok c) :
      parse text = .ok c :=
    parse_eq_ok_iff.2 (ofJson_padded (padded_bare _ false) h)
  refine ⟨hblanked, fun hjoin => Option.ext fun c => ?_⟩
  have hpad := padded_blanked text.toList false hjoin (by simp)
  constructor
  · intro h
    rw [ofJson_padded hpad (parse_eq_ok_iff.1 (eq_ok_of_toOption h))]
    rfl
  · intro h
    rw [hblanked c (eq_ok_of_toOption h)]
    rfl

def annotatedText : String := "\x7b\"targets\": /* none */ null // yet\n\x7d"

theorem parse_blankedComments_between :
    joinsTokens (pieces annotatedText.toList) = false ∧ parse annotatedText = .ok {} ∧
      (parse annotatedText).toOption =
        (ofJson (blankedComments annotatedText.toList)).toOption := by
  have hjoin : joinsTokens (pieces annotatedText.toList) = false := by decide +kernel
  exact ⟨hjoin, (parse_blankedComments _).1 {} (by decide +kernel),
    (parse_blankedComments _).2 hjoin⟩

def partedText : String :=
  "\x7b\"expandable-flags\": \x7b\"f\": \x7b\"defaults\": \x7b\"n\": 1/**/2\x7d\x7d\x7d\x7d"

/-- A comment in a number does not part it, and one that nothing closes is none the less a
comment. -/
theorem parse_parted_number :
    parse partedText = .ok
      { expandableFlags := .ofList
          [("f", .detailed { defaults := [("n", .number (.natural 12))] })] } ∧
      (ofJson (blankedComments partedText.toList)).toOption = none ∧
        parse "\x7b\x7d /*" = .ok {} := by
  decide +kernel

end Config

end Shorthand
