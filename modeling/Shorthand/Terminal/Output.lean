import Shorthand.Terminal.Style
set_option autoImplicit false

namespace Shorthand

inductive Channel where
  | out
  | err
  deriving DecidableEq, Repr

inductive Output where
  | line (channel : Channel) (spans : Line)
  | raw (channel : Channel) (text : String)
  deriving DecidableEq, Repr

namespace Output

def channel : Output → Channel
  | line channel _ | raw channel _ => channel

def render (inColor : Bool) : Output → String
  | line _ spans => spans.render inColor ++ "\n"
  | raw _ text => text

def text (inColor : Bool) (channel : Channel) (outputs : List Output) : String :=
  String.join ((outputs.filter (·.channel = channel)).map (·.render inColor))

end Output

def say (spans : Line) : Output := .line .out spans

def complain (spans : Line) : Output := .line .err spans

namespace Output

variable {inColor : Bool} {c : Channel}

@[simp] theorem channel_line (spans : Line) : (line c spans).channel = c := rfl

@[simp] theorem channel_raw (text : String) : (raw c text).channel = c := rfl

@[simp] theorem channel_say (spans : Line) : (say spans).channel = .out := rfl

@[simp] theorem channel_complain (spans : Line) : (complain spans).channel = .err := rfl

@[simp] theorem text_nil : text inColor c [] = "" := rfl

@[simp] theorem text_cons (o : Output) (rest : List Output) :
    text inColor c (o :: rest) =
      (if o.channel = c then o.render inColor else "") ++ text inColor c rest := by
  by_cases h : o.channel = c <;> simp [text, h]

@[simp] theorem text_append (a b : List Output) :
    text inColor c (a ++ b) = text inColor c a ++ text inColor c b := by simp [text]

theorem text_eq_empty {outputs : List Output} (h : ∀ o ∈ outputs, o.channel ≠ c) :
    text inColor c outputs = "" := by
  have hnone : outputs.filter (·.channel = c) = [] := List.filter_eq_nil_iff.2 (by simpa using h)
  rw [text, hnone]
  rfl

theorem text_flatMap {α : Type} (f : α → List Output) (l : List α) :
    text inColor c (l.flatMap f) = String.join (l.map fun a => text inColor c (f a)) := by
  induction l with
  | nil => rfl
  | cons a l ih => simp [ih]

theorem text_map {α : Type} (f : α → Output) (l : List α) :
    text inColor c (l.map f) = String.join (l.map fun a => text inColor c [f a]) := by
  rw [List.map_eq_flatMap, text_flatMap]

/-- Without colors a line is its texts, where none has a column of its own. -/
@[simp] theorem render_plain (channel : Channel) {spans : Line}
    (h : ∀ span ∈ spans, span.width = 0) :
    (line channel spans).render false = String.join (spans.map (·.text)) ++ "\n" := by
  have hspan : ∀ span ∈ spans, span.render false = span.text := fun span hmem => by
    simp [Span.render, Span.padded, h span hmem]
  rw [render, Line.render, List.map_congr_left hspan]

end Output

end Shorthand
