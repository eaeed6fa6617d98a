import Shorthand.Text.Shown
set_option autoImplicit false

namespace Shorthand.Json

inductive Fault where
  | endInList
  | endInObject
  | endInString
  | endInValue
  | noColon
  | noListComma
  | noObjectComma
  | noWord
  | noValue
  | badEscape
  | badNumber
  | numberOutOfRange
  | loneSurrogate
  | openSurrogate
  | controlCharacter
  | keyNotString
  | tooDeep
  | trailingComma
  | trailingCharacters
  | wrongType (found : String) (expected : String)
  | tooShort (items : Nat) (expected : String)
  | missingField (key : String)
  | duplicateField (key : String)
  | noForm (type : String)
  deriving DecidableEq, Repr

def tick : String := "\x60"

def ticked (s : String) : String := tick ++ s ++ tick

def Fault.message : Fault → String
  | endInList => "EOF while parsing a list"
  | endInObject => "EOF while parsing an object"
  | endInString => "EOF while parsing a string"
  | endInValue => "EOF while parsing a value"
  | noColon => "expected " ++ ticked ":"
  | noListComma => "expected " ++ ticked "," ++ " or " ++ ticked "]"
  | noObjectComma => "expected " ++ ticked "," ++ " or " ++ ticked "\x7d"
  | noWord => "expected ident"
  | noValue => "expected value"
  | badEscape => "invalid escape"
  | badNumber => "invalid number"
  | numberOutOfRange => "number out of range"
  | loneSurrogate => "lone leading surrogate in hex escape"
  | openSurrogate => "unexpected end of hex escape"
  | controlCharacter => "control character (\\u0000-\\u001F) found while parsing a string"
  | keyNotString => "key must be a string"
  | tooDeep => "recursion limit exceeded"
  | trailingComma => "trailing comma"
  | trailingCharacters => "trailing characters"
  | wrongType found expected => "invalid type: " ++ found ++ ", expected " ++ expected
  | tooShort items expected => "invalid length " ++ toString items ++ ", expected " ++ expected
  | missingField key => "missing field " ++ ticked key
  | duplicateField key => "duplicate field " ++ ticked key
  | noForm type => "data did not match any variant of untagged enum " ++ type

/-- A fault with the number of bytes of the text that had not been read when it showed. -/
structure Stop where
  fault : Fault
  unread : Nat
  deriving DecidableEq, Repr

def byteCount : List Char → Nat
  | [] => 0
  | c :: r => c.utf8Size + byteCount r

structure Place where
  line : Nat
  column : Nat
  deriving DecidableEq, Repr

def Place.after (place : Place) : List Char → Nat → Place
  | _, 0 => place
  | [], _ => place
  | c :: r, n =>
    if n < c.utf8Size then { place with column := place.column + n }
    else if c = '\n' then after ⟨place.line + 1, 0⟩ r (n - c.utf8Size)
    else after { place with column := place.column + c.utf8Size } r (n - c.utf8Size)

structure Located where
  fault : Fault
  place : Place
  deriving DecidableEq, Repr

def Stop.locate (stop : Stop) (text : List Char) : Located :=
  ⟨stop.fault, Place.after ⟨1, 0⟩ text (byteCount text - stop.unread)⟩

def Located.message (l : Located) : String :=
  l.fault.message ++ " at line " ++ toString l.place.line ++ " column " ++ toString l.place.column

end Shorthand.Json
