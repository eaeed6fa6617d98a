import Shorthand.Config.Basic
/-!
Package and flag entries as they may stand in a JSON text. Each has several forms, and the first one
that fits a value is taken.
-/
set_option autoImplicit false

namespace Shorthand

namespace Json.Value

def text? : Value → Option String
  | string s => some s
  | _ => none

def texts? : Value → Option (List String)
  | list items => items.mapM text?
  | _ => none

/-- An object of texts; of two values at a key the last one counts. -/
def textMap? : Value → Option (SortedMap String)
  | object entries =>
    (entries.mapM fun e => (text? e.2).map fun s => (e.1, s)).map SortedMap.ofList
  | _ => none

def orNull? {α : Type} (read : Value → Option α) : Value → Option (Option α)
  | null => some none
  | v => (read v).map some

def fields? (keys : List String) : Value → Option (List (Option Value))
  | object entries =>
    let known := entries.filter fun e => keys.contains e.1
    if (known.map (·.1)).Nodup then some (keys.map fun k => (entries.find? (·.1 = k)).map (·.2))
      else none
  | list items =>
    if items.length ≤ keys.length then
      some (items.map some ++ List.replicate (keys.length - items.length) none)
    else none
  | _ => none

def hasOnly (keys : List String) : Value → Bool
  | object entries => entries.all fun e => keys.contains e.1
  | _ => true

end Json.Value

open Json (Value)

def orDefault {α : Type} (default : α) (read : Value → Option α) : Option Value → Option α
  | none => some default
  | some v => read v

def StructuredPackage.keys : List String := ["aliases", "variants", "default"]

def StructuredPackage.ofValue? (v : Value) : Option StructuredPackage := do
  if !v.hasOnly keys then none
  let [aliases, variants, default] ← v.fields? keys | none
  return {
    aliases := ← orDefault [] Value.texts? aliases
    variants := ← orDefault ∅ Value.textMap? variants
    default := ← orDefault "" Value.text? default }

def PackageEntry.ofValue? (v : Value) : Option PackageEntry :=
  (StructuredPackage.ofValue? v).map structured <|> v.text?.map direct <|> v.textMap?.map bucket

def Position.ofValue? : Value → Option Position
  | .string s => ofWord? s
  | .object [(k, .null)] => ofWord? k
  | _ => none

def TemplateEntry.ofValue? (v : Value) : Option TemplateEntry := do
  let [template, position] ← v.fields? ["template", "position"] | none
  return {
    template := ← template.bind Value.text?
    position := ← orDefault none (Value.orNull? Position.ofValue?) position }

def ShellTemplates.ofValue? (v : Value) : Option ShellTemplates :=
  (TemplateEntry.ofValue? v).map one <|>
    match v with
    | .list items => (items.mapM TemplateEntry.ofValue?).map many
    | _ => none

/-- The defaults of a flag: an object, in which a repeated key keeps its first place. -/
def defaultsOfValue? : Value → Option (List (String × Value))
  | .object entries => some (Json.mergedEntries [] entries)
  | _ => none

def TemplateFlag.keys : List String :=
  ["template", "position", "defaults", "pwsh-template", "linux-template", "cmd-template"]

def TemplateFlag.ofValue? (v : Value) : Option TemplateFlag := do
  let [template, position, defaults, pwsh, linux, cmd] ← v.fields? keys | none
  let shell := orDefault none (Value.orNull? ShellTemplates.ofValue?)
  return {
    template := ← orDefault none (Value.orNull? Value.text?) template
    position := ← orDefault none (Value.orNull? Position.ofValue?) position
    defaults := ← orDefault [] defaultsOfValue? defaults
    pwsh := ← shell pwsh
    linux := ← shell linux
    cmd := ← shell cmd }

def FlagEntry.ofValue? (v : Value) : Option FlagEntry :=
  v.text?.map literal <|> (TemplateFlag.ofValue? v).map detailed

end Shorthand
