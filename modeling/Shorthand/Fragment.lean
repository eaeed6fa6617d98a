import Shorthand.Template
set_option autoImplicit false

namespace Shorthand

inductive Position where
  | start
  | leading
  | beforeArguments
  | suffix
  | finish
  deriving DecidableEq, Repr

def Position.word : Position → String
  | .start => "start"
  | .leading => "prefix"
  | .beforeArguments => "pre-args"
  | .suffix => "suffix"
  | .finish => "end"

def Position.all : List Position := [.start, .leading, .beforeArguments, .suffix, .finish]

def Position.ofWord? (s : String) : Option Position := all.find? (·.word = s)

def Position.isBefore : Position → Bool
  | .start | .leading | .beforeArguments => true
  | .suffix | .finish => false

@[simp] theorem Position.ofWord?_word (p : Position) : ofWord? p.word = some p := by
  cases p <;> decide +kernel

structure PlacedTemplate where
  template : String
  position : Position
  deriving DecidableEq, Repr

@[ext] structure Fragments where
  before : List String := []
  after : List String := []
  deriving DecidableEq, Repr

namespace Fragments

instance : Append Fragments := ⟨fun a b => ⟨a.before ++ b.before, a.after ++ b.after⟩⟩

def isEmpty (f : Fragments) : Bool := f.before.isEmpty && f.after.isEmpty

def place (position : Position) (text : String) : Fragments :=
  let text := Text.trim text
  if text.isEmpty then {}
  else if position.isBefore then { before := [text] }
  else { after := [text] }

@[simp] theorem before_append (a b : Fragments) : (a ++ b).before = a.before ++ b.before := rfl
@[simp] theorem after_append (a b : Fragments) : (a ++ b).after = a.after ++ b.after := rfl

theorem append_assoc (a b c : Fragments) : a ++ b ++ c = a ++ (b ++ c) :=
  Fragments.ext (by simp) (by simp)

end Fragments

def renderPlaced (vars : Variables) (templates : List PlacedTemplate) : Fragments :=
  templates.foldl (fun f t => f ++ .place t.position (Template.render t.template vars)) {}

/-- A base command with words around it, without the blank ones. -/
def wrap (base before after : List String) : List String :=
  (before ++ base ++ after).filter (!Text.isAllBlank ·)

end Shorthand
