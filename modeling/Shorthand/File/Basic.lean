import Shorthand.Machine.Error
import Shorthand.Text.Bytes
set_option autoImplicit false

namespace Shorthand

inductive FileEntry where
  | directory
  | file (content : Except SystemError (List UInt8))
  | device

structure FileSystem where
  entry : String → Except SystemError FileEntry
  canonical : String → String

inductive FileError where
  | system (cause : SystemError)
  | notText
  deriving DecidableEq, Repr

def FileError.message : FileError → String
  | system .nulByte => "file name contained an unexpected NUL byte"
  | system cause => cause.message
  | notText => "stream did not contain valid UTF-8"

namespace FileSystem

def look (files : FileSystem) (path : String) : Except SystemError FileEntry :=
  if path.toList.contains '\x00' then .error .nulByte else files.entry path

def isFile (files : FileSystem) (path : String) : Bool :=
  match files.look path with
  | .ok (.file _) => true
  | _ => false

def read (files : FileSystem) (path : String) : Except FileError String :=
  match files.look path with
  | .error e => .error (.system e)
  | .ok .directory => .error (.system .isDirectory)
  | .ok .device => .ok ""
  | .ok (.file content) => do
    let bytes ← content.mapError .system
    (Text.ofBytes? bytes).elim (.error .notText) .ok

end FileSystem

end Shorthand
