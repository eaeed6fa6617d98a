import Shorthand.Posix.Evaluator
set_option autoImplicit false

namespace Shorthand.Posix

structure Given where
  options : List (Char × String) := []
  rest : List String
  deriving DecidableEq, Repr

namespace Given

def has (g : Given) (c : Char) : Bool := g.options.any (·.1 = c)

def letters (withWord withoutWord : List Char) : List Char → List String →
    Except String (List (Char × String) × List String)
  | [], rest => .ok ([], rest)
  | c :: r, rest =>
    if withoutWord.contains c then
      (letters withWord withoutWord r rest).map fun p => ((c, "") :: p.1, p.2)
    else if withWord.contains c then
      match r, rest with
      | _ :: _, rest => .ok ([(c, .ofList r)], rest)
      | [], word :: rest => .ok ([(c, word)], rest)
      | [], [] => .error ("No arg for -" ++ String.singleton c ++ " option")
    else .error ("Illegal option -" ++ String.singleton c)

def readFor (withWord withoutWord : List Char) : Nat → List String → Except String Given
  | 0, rest => .ok { rest }
  | _, [] => .ok { rest := [] }
  | n + 1, word :: rest =>
    match word.toList with
    | '-' :: c :: r =>
      if word = "--" then .ok { rest }
      else do
        let (options, rest) ← letters withWord withoutWord (c :: r) rest
        let g ← readFor withWord withoutWord n rest
        return { g with options := options ++ g.options }
    | _ => .ok { rest := word :: rest }

def read (withoutWord : String) (args : List String) (withWord : String := "") : Evaluator Given :=
  match readFor withWord.toList withoutWord.toList (args.length + 1) args with
  | .ok g => pure g
  | .error message => Evaluator.fail message

end Given

namespace Evaluator

def count (word : String) : Evaluator Nat :=
  (count? word).elim (fail ("Illegal number: " ++ word)) pure

end Evaluator

end Shorthand.Posix
