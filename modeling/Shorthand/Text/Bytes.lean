set_option autoImplicit false

namespace Shorthand.Text

def toBytes (s : String) : List UInt8 := s.toList.flatMap String.utf8EncodeChar

def ofBytes? (b : List UInt8) : Option String := String.fromUTF8? ⟨b.toArray⟩

/-- For a first byte, the payload that it carries and the ranges of the bytes that must follow. -/
def leadByte (b : UInt8) : Option (Nat × List (Nat × Nat)) :=
  let n := b.toNat
  let any : Nat × Nat := (0x80, 0xBF)
  if n < 0x80 then some (n, [])
  else if n < 0xC2 then none
  else if n < 0xE0 then some (n - 0xC0, [any])
  else if n < 0xF0 then
    some (n - 0xE0,
      [if n = 0xE0 then (0xA0, 0xBF) else if n = 0xED then (0x80, 0x9F) else any, any])
  else if n < 0xF5 then
    some (n - 0xF0,
      [if n = 0xF0 then (0x90, 0xBF) else if n = 0xF4 then (0x80, 0x8F) else any, any, any])
  else none

def matching : List (Nat × Nat) → List UInt8 → Nat
  | r :: rs, b :: bs => if r.1 ≤ b.toNat ∧ b.toNat ≤ r.2 then matching rs bs + 1 else 0
  | _, _ => 0

def lossyChars : List UInt8 → List Char
  | [] => []
  | b :: bs =>
    match leadByte b with
    | none => '\uFFFD' :: lossyChars bs
    | some (top, ranges) =>
      let n := matching ranges bs
      let c := if n = ranges.length then
          Char.ofNat ((bs.take n).foldl (fun v b => v * 64 + (b.toNat - 0x80)) top)
        else '\uFFFD'
      c :: lossyChars (bs.drop n)
  termination_by b => b.length
  decreasing_by all_goals simp; try omega

def ofBytes (b : List UInt8) : String := .ofList (lossyChars b)

end Shorthand.Text
