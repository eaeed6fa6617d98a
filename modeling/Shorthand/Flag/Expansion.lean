import Shorthand.Alias
import Shorthand.Flag.Basic
import Shorthand.Flag.Token
/-!
The flags among the words of a command line, expanded to fragments around a base command. A word
that is no flag of the table passes through as it is, and so does all that follows the separator.
-/
set_option autoImplicit false

namespace Shorthand

/-- What a flag may know of the command it is expanded for. -/
structure Context where
  short : Option String := none
  package : Option String := none
  project : Option String := none
  variant : Option String := none
  target : Option String := none
  deriving DecidableEq, Repr

namespace Context

def ofResolution (r : Resolution) (target : String) : Context where
  short := some r.short
  package := some r.package
  project := some r.project
  variant := r.variant
  target := some target

def bindings (c : Context) : Variables :=
  .ofList ([("alias", c.short), ("package", c.package), ("project", c.project),
    ("variant", c.variant), ("target", c.target)].filterMap fun e => e.2.map (e.1, ·))

end Context

@[ext] structure Expansion where
  fragments : Fragments := {}
  /-- Every variable that was set; a later flag overrides an earlier one. -/
  bindings : Variables := ∅
  /-- The words that are not for the table, in order. -/
  passthrough : List String := []
  /-- Switches for this program itself. -/
  internal : List String := []
  /-- The keys of the flags that were expanded, in order. -/
  applied : List String := []
  deriving DecidableEq

namespace Expansion

instance : Append Expansion := ⟨fun a b => {
  fragments := a.fragments ++ b.fragments
  bindings := a.bindings.override b.bindings
  passthrough := a.passthrough ++ b.passthrough
  internal := a.internal ++ b.internal
  applied := a.applied ++ b.applied }⟩

def ofWords (words : List String) : Expansion := { passthrough := words }

def hasInternal (e : Expansion) (name : String) : Bool := e.internal.contains name

end Expansion

def dropDashes (s : String) : String := .ofList (s.toList.dropWhile (· = '-'))

namespace Flag

def scope (f : Flag) (context : Context) (value : Option String) (scope : Variables) : Variables :=
  let scope := if f.kind = .contextAware then scope.override context.bindings else scope
  let scope := f.defaults.foldl (fun s d => s.insert d.1 d.2) scope
  match value with
  | none => scope
  | some v => (f.defaults.head?.elim scope fun d => scope.insert d.1 v).insert "value" v

/-- A flag rendered in its scope. An internal flag gives names of switches, its own key if it
renders to nothing; any other flag gives fragments. -/
def expand (f : Flag) (key : String) (shell : Shell) (scope : Variables) : Expansion :=
  let rendered := renderPlaced scope (f.templatesFor shell)
  if f.kind = .internal then
    let names := (rendered.before ++ rendered.after).map dropDashes
    { bindings := scope, internal := if names.isEmpty then [key] else names, applied := [key] }
  else { fragments := rendered, bindings := scope, applied := [key] }

end Flag

/-- A table of flags with all that is fixed while a command line is expanded. -/
structure Expander where
  table : FlagTable
  context : Context := {}
  shell : Shell
  deriving DecidableEq

inductive Reading where
  | plain
  /-- A flag of the table, with the value in the word itself. -/
  | single (key : String) (flag : Flag) (value : Option String)
  /-- Several flags of one character each. -/
  | bundle (flags : List (String × Flag))

namespace Expander

def members? (x : Expander) (key : String) : Option (List (String × Flag)) :=
  key.toList.mapM fun c => (x.table.get? c.toString).map (c.toString, ·)

def reading (x : Expander) (word : String) : Reading :=
  match FlagToken.ofWord? word with
  | none => .plain
  | some token =>
    match x.table.get? token.key with
    | some flag => .single token.key flag token.value
    | none =>
      if token.isBundle && token.value.isNone then (x.members? token.key).elim .plain .bundle
      else .plain

def single (x : Expander) (key : String) (flag : Flag) (value : Option String) : Expansion :=
  flag.expand key x.shell (flag.scope x.context value ∅)

def bundle (x : Expander) (scope : Variables) : List (String × Flag) → Expansion
  | [] => {}
  | (key, flag) :: rest =>
    let scope := flag.scope x.context none scope
    flag.expand key x.shell scope ++ x.bundle scope rest

/-- Words without a separator. A flag that takes a value and has none takes the next word, unless
that begins with a dash. -/
def expandHead (x : Expander) : List String → Expansion
  | [] => {}
  | word :: rest =>
    match x.reading word with
    | .plain => .ofWords [word] ++ x.expandHead rest
    | .bundle flags => x.bundle ∅ flags ++ x.expandHead rest
    | .single key flag value =>
      match rest with
      | next :: rest =>
        if value.isNone && flag.takesValue && !Text.startsWith '-' next then
          x.single key flag (some next) ++ x.expandHead rest
        else x.single key flag value ++ x.expandHead (next :: rest)
      | [] => x.single key flag value

def expand (x : Expander) (words : List String) : Expansion :=
  let (head, tail) := splitAtSeparator words
  x.expandHead head ++ .ofWords (if tail.isEmpty then [] else separator :: tail)

end Expander

end Shorthand
