import Shorthand.Config.Shape
import Shorthand.Json.Skip
import Shorthand.Json.Comment
/-!
The configuration read from JSON with comments. The sections are read as they come, so that a fault
is reported at its place; unknown sections are passed over.
-/
set_option autoImplicit false

namespace Shorthand

open Json

def Json.Value.kind : Value → String
  | null => "null"
  | bool b => "boolean " ++ ticked (toString b)
  | number (.natural n) => "integer " ++ ticked (toString n)
  | number (.negative n) => "integer " ++ ticked ("-" ++ toString n)
  | number (.float x) => "floating point " ++ ticked (.ofList x.write)
  | string s => "string " ++ Text.shown s
  | list _ => "sequence"
  | object _ => "map"

def wrongType (expected : String) (s : List Char) : Stop :=
  let s := skipSpace s
  let before (v : Value) : Except Stop (Value × List Char) := .ok (v, s)
  match valueWith (fun _ => before (.list [])) (fun _ => before (.object [])) s with
  | .ok (v, r) => here (.wrongType v.kind expected) r
  | .error stop => stop

/-- Where an object or list is left after a fault in it: behind its bracket, if only blanks stand
before. -/
def leave (bracket : Char) (s : List Char) : List Char :=
  match skipSpace s with
  | c :: r => if c = bracket then r else c :: r
  | [] => []

def text : Reader String := fun s =>
  match skipSpace s with
  | '"' :: r => stringAfterQuote r
  | r => .error (wrongType "a string" r)

def optional {α : Type} (read : Reader α) : Reader (Option α) := fun s =>
  match skipSpace s with
  | 'n' :: r => literal none ['u', 'l', 'l'] r
  | r => (read r).map fun p => (some p.1, p.2)

/-- An object with any keys; of two values at a key the last one counts. -/
def sectionOf {α : Type} (read : Reader α) : Reader (SortedMap α) := fun s =>
  match skipSpace s with
  | '\x7b' :: r => (entries read (r.length + 1) true r).map fun p => (.ofList p.1, p.2)
  | r => .error (wrongType "a map" r)

def sectionDepth : Nat := 125

def form {α : Type} (type : String) (read : Value → Option α) : Reader α := fun s => do
  let (v, r) ← value sectionDepth s
  match read v with
  | some a => .ok (a, r)
  | none => .error (here (.noForm type) (leave '\x7d' r))

structure Field (α : Type) where
  key : String
  read : α → Reader α

/-- The fields in an object whose brace is read, in any order, each at most once. Unknown ones are
passed over. A step of the count is an entry. -/
def recordEntries {α : Type} (fields : List (Field α)) : Nat → List String → Bool → α → Reader α
  | 0, _, _, _, s => .error (here .endInObject s)
  | n + 1, done, isFirst, a, s => do
    match ← nextKey isFirst s with
    | .closed r => .ok (a, r)
    | .item s =>
      let (k, s) ← stringAfterQuote s
      match fields.find? (·.key = k) with
      | none =>
        let s ← skipValue (← afterColon s)
        recordEntries fields n done false a s
      | some field =>
        if done.contains k then .error (here (.duplicateField k) (leave '\x7d' s))
        else
          let (a, s) ← field.read a (← afterColon s)
          recordEntries fields n (k :: done) false a s

def recordListEnd {α : Type} (a : α) (s : List Char) : Except Stop (α × List Char) :=
  match skipSpace s with
  | [] => .error (here .endInList [])
  | c :: r =>
    if c = ']' then .ok (a, r)
    else if c ≠ ',' then .error (at1 .trailingCharacters (c :: r))
    else
      match skipSpace r with
      | d :: r =>
        .error (at1 (if d = ']' then .trailingComma else .trailingCharacters) (d :: r))
      | [] => .error (here .trailingCharacters [])

/-- The fields in a list whose bracket is read, in order; the last ones may be missing. -/
def recordItems {α : Type} : List (Field α) → Bool → α → Reader α
  | [], _, a, s => recordListEnd a s
  | field :: fields, isFirst, a, s => do
    match ← nextItem isFirst s with
    | .closed r => .ok (a, r)
    | .item s =>
      let (a, s) ← field.read a s
      recordItems fields false a s

def record {α : Type} (type : String) (fields : List (Field α)) (init : α) : Reader α := fun s =>
  match skipSpace s with
  | '\x7b' :: r => recordEntries fields (r.length + 1) [] true init r
  | '[' :: r => recordItems fields true init r
  | r => .error (wrongType ("struct " ++ type) r)

def Targets.fields : List (Field Targets) :=
  [⟨"nx-targets",
    fun a s => (optional (sectionOf text) s).map fun p => ({ a with nx := p.1 }, p.2)⟩,
   ⟨"not-nx-target",
    fun a s => (optional (sectionOf text) s).map fun p => ({ a with external := p.1 }, p.2)⟩]

def Targets.read : Reader Targets := record "TargetsConfig" fields {}

def FeatureTarget.fields : List (Field (Option String × Option String)) :=
  [⟨"run-target", fun a s => (text s).map fun p => ((some p.1, a.2), p.2)⟩,
   ⟨"run-from", fun a s => (optional text s).map fun p => ((a.1, p.1), p.2)⟩]

def FeatureTarget.read : Reader FeatureTarget := fun s => do
  let ((target, runFrom), r) ← record "FeatureTarget" fields (none, none) s
  match target with
  | some target => .ok (⟨target, runFrom⟩, r)
  | none =>
    let fault := match skipSpace s with
      | '[' :: _ => Fault.tooShort 0 "struct FeatureTarget with 2 elements"
      | _ => .missingField "run-target"
    .error (here fault r)

def flags : Reader (SortedMap FlagEntry) := sectionOf (form "FlagDefinition" FlagEntry.ofValue?)

def Config.fields : List (Field Config) :=
  [⟨"nxPackages",
    fun a s => (sectionOf (form "PackageEntry" PackageEntry.ofValue?) s).map fun p =>
      ({ a with packages := p.1 }, p.2)⟩,
   ⟨"targets", fun a s => (optional Targets.read s).map fun p => ({ a with targets := p.1 }, p.2)⟩,
   ⟨"feature-nxTargets",
    fun a s => (sectionOf FeatureTarget.read s).map fun p => ({ a with features := p.1 }, p.2)⟩,
   ⟨"expandable-flags", fun a s => (flags s).map fun p => ({ a with expandableFlags := p.1 }, p.2)⟩,
   ⟨"context-aware-flags", fun a s => (flags s).map fun p => ({ a with contextFlags := p.1 }, p.2)⟩,
   ⟨"internal-flags", fun a s => (flags s).map fun p => ({ a with internalFlags := p.1 }, p.2)⟩,
   ⟨"env-setting-flags",
    fun a s => (flags s).map fun p => ({ a with environmentFlags := p.1 }, p.2)⟩,
   ⟨"expandable-commands",
    fun a s => (sectionOf text s).map fun p => ({ a with commands := p.1 }, p.2)⟩]

/-- A configuration from JSON without comments. -/
def Config.ofJson (s : List Char) : Except Stop Config := do
  let (config, r) ← record "AliasConfig" fields {} s
  match skipSpace r with
  | [] => .ok config
  | r => .error (at1 .trailingCharacters r)

/-- A configuration from JSON with comments. The place of a fault is the one without the
comments. -/
def Config.parse (text : String) : Except Located Config :=
  let s := uncommented .code text.toList
  (ofJson s).mapError (·.locate s)

end Shorthand
