/-!
Styled text for a terminal. A style is an escape sequence before the text and a reset behind it;
where colors are off, the text stands alone.
-/
set_option autoImplicit false

namespace Shorthand

inductive Color where
  | red
  | green
  | yellow
  | blue
  | cyan
  deriving DecidableEq, Repr

def Color.code : Color → String
  | red => "31"
  | green => "32"
  | yellow => "33"
  | blue => "34"
  | cyan => "36"

inductive Style where
  | bold
  | dimmed
  | plain (color : Color)
  | strong (color : Color)
  deriving DecidableEq, Repr

namespace Style

def codes : Style → String
  | bold => "1"
  | dimmed => "2"
  | plain color => color.code
  | strong color => "1;" ++ color.code

def start (s : Style) : List Char := "\x1b[".toList ++ s.codes.toList ++ ['m']

def reset : List Char := ['\x1b', '[', '0', 'm']

def resume (start : List Char) : List Char → List Char
  | '\x1b' :: '[' :: '0' :: 'm' :: r => reset ++ start ++ resume start r
  | c :: r => c :: resume start r
  | [] => []

end Style

structure Span where
  text : String
  style : Option Style := none
  width : Nat := 0
  deriving DecidableEq, Repr

namespace Span

def padded (width : Nat) (s : List Char) : List Char := s ++ List.replicate (width - s.length) ' '

def render (inColor : Bool) (s : Span) : String :=
  match s.style, inColor with
  | some style, true =>
    .ofList (style.start ++ padded s.width (Style.resume style.start s.text.toList) ++ Style.reset)
  | _, _ => .ofList (padded s.width s.text.toList)

end Span

instance : Coe String Span := ⟨fun s => { text := s }⟩

def paint (style : Style) (text : String) : Span := { text, style := some style }

def column (width : Nat) (style : Style) (text : String) : Span :=
  { text, style := some style, width }

abbrev Line := List Span

def Line.render (inColor : Bool) (l : Line) : String := String.join (l.map (·.render inColor))

end Shorthand
