/-!
Comments in a JSON text: `//` up to the end of the line, and `/*` up to the next `*/`, outside of
strings.
-/
set_option autoImplicit false

namespace Shorthand.Json

inductive Region where
  | code
  | string
  | escape
  | lineComment
  | blockComment
  deriving DecidableEq, Repr

/-- The text without its comments. Line ends in a comment stay, so that all else keeps its line. -/
def uncommented : Region → List Char → List Char
  | _, [] => []
  | .code, '/' :: '/' :: r => uncommented .lineComment r
  | .code, '/' :: '*' :: r => uncommented .blockComment r
  | .code, c :: r => c :: uncommented (if c = '"' then .string else .code) r
  | .string, c :: r =>
    c :: uncommented (if c = '\\' then .escape else if c = '"' then .code else .string) r
  | .escape, c :: r => c :: uncommented .string r
  | .lineComment, c :: r =>
    if c = '\n' then c :: uncommented .code r else uncommented .lineComment r
  | .blockComment, '*' :: '/' :: r => uncommented .code r
  | .blockComment, c :: r =>
    if c = '\n' then c :: uncommented .blockComment r else uncommented .blockComment r

def stripComments (text : String) : String := .ofList (uncommented .code text.toList)

end Shorthand.Json
