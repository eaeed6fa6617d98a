import Shorthand.SortedMap
import Shorthand.Text.Blank
import Shorthand.Text.Cut
/-!
Templates: literal text with variables in doubled braces. There are no loops, conditions or filters.
Every template has one reading; an opening pair that is never closed is literal text.
-/
set_option autoImplicit false

namespace Shorthand

inductive Token where
  | literal (text : String)
  | reference (name : String)
  deriving DecidableEq, Repr

abbrev Variables := SortedMap String

namespace Template

def literalOf (cs : List Char) : List Token := if cs = [] then [] else [.literal (.ofList cs)]

/-- The tokens of a template, from left to right. Names are trimmed. -/
def tokens (cs : List Char) : List Token :=
  match _h : Text.cutDoubled '{' cs with
  | none => literalOf cs
  | some (before, rest) =>
    match _h' : Text.cutDoubled '}' rest with
    | none => literalOf cs
    | some (name, after) =>
      literalOf before ++ .reference (.ofList (Text.trimmed name)) :: tokens after
  termination_by cs.length
  decreasing_by
    exact Nat.lt_trans (Text.length_of_cutDoubled _h') (Text.length_of_cutDoubled _h)

def tokenize (template : String) : List Token := tokens template.toList

end Template

/-- What a token contributes; a variable without a value contributes nothing. -/
def Token.render (vars : Variables) : Token → String
  | .literal text => text
  | .reference name => (vars.get? name).getD ""

def Token.name? : Token → Option String
  | .literal _ => none
  | .reference name => some name

/-- The template with the values of its variables; values are never read again. -/
def Template.render (template : String) (vars : Variables) : String :=
  String.join ((tokenize template).map (·.render vars))

/-- The names that a template refers to, once for each reference. -/
def Template.names (template : String) : List String := (tokenize template).filterMap Token.name?

end Shorthand
