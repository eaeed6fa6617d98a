set_option autoImplicit false

namespace Shorthand.Tool

inductive Wants where
  | nothing
  | word
  | perhaps
  deriving DecidableEq, Repr

structure Options where
  letters : List (Char × Wants) := []
  names : List (String × Wants) := []
  deriving DecidableEq, Repr

inductive Item where
  | option (name : String) (word : Option String)
  | operand (word : String)
  /-- What is wrong; nothing behind it counts. -/
  | fault (message : String)
  deriving DecidableEq, Repr

namespace Options

def common : List (String × Wants) := [("help", .nothing), ("version", .nothing)]

def lettersFrom (o : Options) : List Char → List String → List Item × List String
  | [], rest => ([], rest)
  | c :: r, rest =>
    let name := String.singleton c
    match (o.letters.find? (·.1 = c)).map (·.2) with
    | none => ([.fault ("invalid option -- '" ++ name ++ "'")], [])
    | some .word =>
      match r, rest with
      | _ :: _, rest => ([.option name (some (.ofList r))], rest)
      | [], word :: rest => ([.option name (some word)], rest)
      | [], [] => ([.fault ("option requires an argument -- '" ++ name ++ "'")], [])
    | some _ =>
      let (items, rest) := o.lettersFrom r rest
      (.option name none :: items, rest)

def meant (o : Options) (text : String) : List (String × Wants) :=
  let name := String.ofList (text.toList.takeWhile (· ≠ '='))
  let names := o.names ++ common
  match names.find? (·.1 = name) with
  | some found => [found]
  | none => names.filter fun e => name.toList.isPrefixOf e.1.toList

def named (o : Options) (text : String) (rest : List String) : List Item × List String :=
  let word? := match text.toList.dropWhile (· ≠ '=') with
    | [] => none
    | _ :: r => some (String.ofList r)
  match o.meant text with
  | [] => ([.fault ("unrecognized option '--" ++ text ++ "'")], [])
  | [(name, wants)] =>
    match wants, word?, rest with
    | .nothing, some _, _ => ([.fault ("option '--" ++ name ++ "' doesn't allow an argument")], [])
    | .word, none, [] => ([.fault ("option '--" ++ name ++ "' requires an argument")], [])
    | .word, none, word :: rest => ([.option name (some word)], rest)
    | _, _, rest => ([.option name word?], rest)
  | several =>
    ([.fault ("option '--" ++ text ++ "' is ambiguous; possibilities:" ++
      String.join (several.map fun e => " '--" ++ e.1 ++ "'"))], [])

def readFor (o : Options) (isStrict : Bool) : Nat → List String → List Item
  | 0, _ | _, [] => []
  | n + 1, word :: rest =>
    match word.toList with
    | ['-', '-'] => rest.map .operand
    | '-' :: '-' :: r =>
      let (items, rest) := o.named (.ofList r) rest
      items ++ o.readFor isStrict n rest
    | '-' :: c :: r =>
      let (items, rest) := o.lettersFrom (c :: r) rest
      items ++ o.readFor isStrict n rest
    | _ => .operand word :: if isStrict then rest.map .operand else o.readFor isStrict n rest

def read (o : Options) (isStrict : Bool) (words : List String) : List Item :=
  o.readFor isStrict words.length words

end Options

def operands (items : List Item) : List String :=
  items.filterMap fun
    | .operand word => some word
    | _ => none

def fault? (items : List Item) : Option String :=
  items.findSome? fun
    | .fault message => some message
    | _ => none

end Shorthand.Tool
