import Shorthand.File.Basic
import Shorthand.Text.Cut
import Shorthand.Text.Octets
set_option autoImplicit false

namespace Shorthand

inductive Device where
  | null
  | zero
  | full
  | terminal
  | descriptor (number : Nat)
  deriving DecidableEq, Repr

inductive FileNode where
  | directory
  /-- The octets in a file, and when they were last written. -/
  | regular (content : List Char) (time : Nat)
  | program (name : String)
  | link (target : String)
  | device (d : Device)
  deriving DecidableEq, Repr

abbrev Way := List String

structure FileTree where
  nodes : List (Way × FileNode) := []
  deriving DecidableEq, Repr

namespace FileTree

/-- The names in a path. A slash at the end stands for the directory itself. -/
def names (path : String) : List String :=
  let parts := path.splitOn "/"
  parts.filter (!·.isEmpty) ++ if parts.getLast? = some "" then ["."] else []

def node? (t : FileTree) (way : Way) : Option FileNode :=
  if way.isEmpty then some .directory else (t.nodes.find? (·.1 = way)).map (·.2)

def nameLimit : Nat := 255
def pathLimit : Nat := 4095

/-- The way that names lead from a directory, and what stands at its end; nothing stands there if
only the last name is missing. The number bounds the names that are followed. -/
def walk (t : FileTree) (followsLast : Bool) : Nat → Way → List String →
    Except SystemError (Way × Option FileNode)
  | 0, _, _ => .error .tooManyLinks
  | _ + 1, at_, [] => .ok (at_, t.node? at_)
  | n + 1, at_, name :: rest =>
    if name = "." then t.walk followsLast n at_ rest
    else if name = ".." then t.walk followsLast n at_.dropLast rest
    else if name.length > nameLimit then .error .nameTooLong
    else
      let way := at_ ++ [name]
      match t.node? way with
      | none => if rest.isEmpty then .ok (way, none) else .error .notFound
      | some .directory => t.walk followsLast n way rest
      | some (.link target) =>
        if rest.isEmpty && !followsLast then .ok (way, some (.link target))
        else
          t.walk followsLast n (if Text.startsWith '/' target then [] else at_)
          (names target ++ rest)
      | some node => if rest.isEmpty then .ok (way, some node) else .error .misplaced

def find (t : FileTree) (directory : Way) (path : String) (followsLast : Bool) :
    Except SystemError (Way × Option FileNode) :=
  if path.isEmpty then .error .notFound
  else if path.length > pathLimit then .error .nameTooLong
  else t.walk followsLast 10000 (if Text.startsWith '/' path then [] else directory) (names path)

def look (t : FileTree) (directory : Way) (path : String) : Except SystemError (Way × FileNode) :=
  match t.find directory path true with
  | .error e => .error e
  | .ok (_, none) => .error .notFound
  | .ok (way, some node) => .ok (way, node)

def put (t : FileTree) (way : Way) (node : FileNode) : FileTree :=
  if t.nodes.any (·.1 = way) then ⟨t.nodes.map fun e => if e.1 = way then (way, node) else e⟩
  else ⟨t.nodes ++ [(way, node)]⟩

def add (t : FileTree) (way : Way) (node : FileNode) : FileTree :=
  let t := ((List.range way.length).map fun n => way.take n).foldl
    (fun (t : FileTree) way => if (t.node? way).isSome then t else t.put way .directory) t
  if node = .directory && (t.node? way).isSome then t else t.put way node

def namesIn (t : FileTree) (way : Way) : List String :=
  t.nodes.filterMap fun e => if e.1.dropLast = way then e.1.getLast? else none

def pathOf (way : Way) : String := "/" ++ "/".intercalate way

def toFileSystem (t : FileTree) (directory : Way) : FileSystem where
  entry path :=
    (t.look directory (Text.toOctets path)).map fun
      | (_, .regular content _) => .file (.ok (content.map Text.byteOf))
      | (_, .program _) => .file (.ok (Text.toBytes "\x7fELF"))
      | (_, .device _) => .device
      | (_, .directory) | (_, .link _) => .directory
  canonical path :=
    match t.look directory (Text.toOctets path) with
    | .ok (way, _) => Text.ofOctets (pathOf way).toList
    | .error _ => path

end FileTree

end Shorthand
