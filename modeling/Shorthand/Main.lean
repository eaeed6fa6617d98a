import Shorthand.Cli.Program
import Shorthand.Host.Memory
import Shorthand.Machine.Programs
set_option autoImplicit false

namespace Shorthand.Main

def environmentOf (text : String) : Environment :=
  .ofList ((text.splitOn "\x00").filterMap (Text.cut '='))

def readEnvironment : IO Environment := do
  try return environmentOf (Text.ofBytes (← IO.FS.readBinFile "/proc/self/environ").toList)
  catch _ => return ∅

def readFile? (path : String) : IO (Option (List UInt8)) := do
  try return some (← IO.FS.readBinFile path).toList
  catch _ => return none

def readTree (directory : Way) (paths : List String) : IO FileTree :=
  paths.foldlM (fun tree path => return match ← readFile? path with
    | some bytes =>
      tree.add (FileTree.names (Text.toOctets path)) (.regular (bytes.map Text.ofByte) 0)
    | none => tree) (FileTree.standard.add directory .directory)

def readProcessors? : IO (Option Nat) := do
  try
    let text := Text.ofBytes (← IO.FS.readBinFile "/proc/cpuinfo").toList
    let count :=
      ((text.splitOn "\n").filter fun line => "processor".toList.isPrefixOf line.toList).length
    return if count = 0 then none else some count
  catch _ => return none

def finish (inColor : Bool) (finished : Finished) : IO UInt32 := do
  for warning in finished.warnings do
    IO.eprintln ("[WARN] " ++ warning)
  IO.print (Output.text inColor .out finished.outputs)
  IO.eprint (Output.text inColor .err finished.outputs)
  match finished.result with
  | .ok code => return code.toUInt32
  | .error e =>
    let title : Line := [paint (.strong .red) "Error", ": " ++ e.report inColor]
    IO.eprintln ("\n" ++ title.render inColor)
    return 1

def run (words : List String) : IO UInt32 := do
  let directory := toString (← IO.currentDir)
  let way := FileTree.names (Text.toOctets directory)
  let environment ← readEnvironment
  let processors ← readProcessors?
  let search : ConfigSearch :=
    ⟨directory, (Settings.ofEnvironment environment processors).1.configPath, environment⟩
  let tree ← readTree way ((search.candidates.toOption).getD [])
  let machine := Machine.withFiles tree way environment.entries
  let inColor ← (← IO.getStdout).isTty
  let surroundings : Surroundings Machine :=
    { directory, environment, files := tree.toFileSystem way, host := machine, processors }
  finish inColor (surroundings.run words)

end Shorthand.Main

def main (args : List String) : IO UInt32 :=
  match Shorthand.Arguments.parse args with
  | .error refusal => return refusal.exitCode.toUInt32
  | .ok arguments => Shorthand.Main.run arguments.takeDebug.words
