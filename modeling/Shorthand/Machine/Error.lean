set_option autoImplicit false

namespace Shorthand

inductive SystemError where
  | notFound
  | noProcess
  | interrupted
  | noDevice
  | badFormat
  | badDescriptor
  | noChild
  | notPermitted
  | exists
  /-- A part of a path that should be a directory is a file. -/
  | misplaced
  | isDirectory
  | invalid
  | noSpace
  | brokenPipe
  | nameTooLong
  | tooManyLinks
  /-- No text that is handed to the system holds U+0000. -/
  | nulByte
  deriving DecidableEq, Repr

namespace SystemError

def number : SystemError → Nat
  | notFound => 2
  | noProcess => 3
  | interrupted => 4
  | noDevice => 6
  | badFormat => 8
  | badDescriptor => 9
  | noChild => 10
  | notPermitted => 13
  | .exists => 17
  | misplaced => 20
  | isDirectory => 21
  | invalid | nulByte => 22
  | noSpace => 28
  | brokenPipe => 32
  | nameTooLong => 36
  | tooManyLinks => 40

def text : SystemError → String
  | notFound => "No such file or directory"
  | noProcess => "No such process"
  | interrupted => "Interrupted system call"
  | noDevice => "No such device or address"
  | badFormat => "Exec format error"
  | badDescriptor => "Bad file descriptor"
  | noChild => "No child processes"
  | notPermitted => "Permission denied"
  | .exists => "File exists"
  | misplaced => "Not a directory"
  | isDirectory => "Is a directory"
  | invalid => "Invalid argument"
  | noSpace => "No space left on device"
  | brokenPipe => "Broken pipe"
  | nameTooLong => "File name too long"
  | tooManyLinks => "Too many levels of symbolic links"
  | nulByte => "nul byte found in provided data"

def message (e : SystemError) : String :=
  if e = nulByte then e.text else e.text ++ " (os error " ++ toString e.number ++ ")"

end SystemError

end Shorthand
