set_option autoImplicit false

namespace Shorthand.Text

def inRanges (ranges : List (Nat × Nat)) (n : Nat) : Bool :=
  ranges.any fun r => r.1 ≤ n && n ≤ r.2

def blankRanges : List (Nat × Nat) :=
  [(0x09, 0x0D), (0x20, 0x20), (0x85, 0x85), (0xA0, 0xA0), (0x1680, 0x1680), (0x2000, 0x200A),
   (0x2028, 0x2029), (0x202F, 0x202F), (0x205F, 0x205F), (0x3000, 0x3000)]

def isBlank (c : Char) : Bool := inRanges blankRanges c.toNat

def dropBlank (s : List Char) : List Char := s.dropWhile isBlank

def dropBlankEnd (s : List Char) : List Char := (dropBlank s.reverse).reverse

def trimmed (s : List Char) : List Char := dropBlankEnd (dropBlank s)

def trim (s : String) : String := .ofList (trimmed s.toList)

/-- Nothing is left of the text once it is trimmed. -/
def isAllBlank (s : String) : Bool := s.toList.all isBlank

theorem dropBlank_eq_nil {s : List Char} : dropBlank s = [] ↔ s.all isBlank := by
  induction s with
  | nil => simp [dropBlank]
  | cons c s ih =>
    by_cases h : isBlank c <;> simp_all [dropBlank]

end Shorthand.Text
