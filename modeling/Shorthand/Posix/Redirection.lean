import Shorthand.Posix.Expansion
set_option autoImplicit false

namespace Shorthand.Posix

inductive Led where
  | file (descriptor : Nat) (direction : Direction) (path : String)
  /-- The same stream as another descriptor; none to close it. -/
  | copy (descriptor : Nat) (source : Option Nat)
  | document (descriptor : Nat) (number : Nat)

def Led.descriptor : Led → Nat
  | file d .. | copy d _ | document d _ => d

namespace Redirection

open Evaluator

def reason (e : SystemError) (isMissing : String) : String :=
  match e with
  | .notFound | .misplaced => isMissing
  | e => e.text

def source? (word : String) : Option (Option Nat) :=
  match word.toList with
  | ['-'] => some none
  | [c] => if c.isDigit then some (some (c.toNat - 48)) else none
  | _ => none

def expand (capture : Expansion.Capture) : Redirection → Evaluator Led
  | .redirect descriptor direction word =>
    match direction with
    | .copyInput | .copyOutput => do
      match source? (← Expansion.text capture {} word) with
      | some source => return .copy descriptor source
      | none =>
        modify fun s => { s with line := s.readLine }
        fail "Syntax error: Bad fd number"
    | _ => return .file descriptor direction (← Expansion.text capture {} word)
  | .document descriptor number => return .document descriptor number

def expandAll (capture : Expansion.Capture) (l : List Redirection) : Evaluator (List Led) :=
  l.mapM (expand capture)

def opened (path : String) (opening : Opening) (complaint : SystemError → String) :
    Evaluator Nat := do
  match ← call (.openFile path opening) with
  | .ok descriptor => return descriptor
  | .error e => fail (complaint e)

def openFor (path : String) (direction : Direction) : Evaluator Nat := do
  let cannotMake (e : SystemError) : String :=
    "cannot create " ++ path ++ ": " ++ reason e "Directory nonexistent"
  let cannotOpen (e : SystemError) : String :=
    "cannot open " ++ path ++ ": " ++ reason e "No such file"
  match direction with
  | .input => opened path { reads := true } cannotOpen
  | .inputOutput => opened path { reads := true, writes := true, creates := true } cannotMake
  | .append => opened path { writes := true, creates := true, appends := true } cannotMake
  | .output =>
    if (← get).has .noclobber then
      match ← call (.status path true) with
      | .error _ => opened path { writes := true, creates := true, isNew := true } cannotMake
      | .ok status =>
        match status.node with
        | .regular .. | .program _ => fail (cannotMake .exists)
        | _ => opened path { writes := true } cannotOpen
    else opened path { writes := true, creates := true, empties := true } cannotMake
  | _ => opened path { writes := true, creates := true, empties := true } cannotMake

def pipeTrust : Nat := 4096

/-- A stream that gives a document. What does not fit into a pipe is written by another process. -/
def openDocument (capture : Expansion.Capture) (number : Nat) : Evaluator Nat := do
  let (source, target) ← call .pipe
  let word := (((← get).documents.find? (·.1 = number)).map (·.2)).getD []
  let content := (Cell.text (← Expansion.cells capture .quoted word)).filter (· ≠ '\x00')
  if content.length > pipeTrust then
    let _ ← fork do
      let _ ← call (.close source)
      let _ ← write target content
      setStatus 0
  else
    let _ ← write target content
  let _ ← call (.close target)
  return source

def putAside (descriptor : Nat) : Evaluator Unit := do
  let isNew := !((← get).redirected.head?.getD []).any (·.descriptor = descriptor)
  if isNew then
    let copy ← match ← call (.copyFrom descriptor 10) with
      | .ok copy =>
        let _ ← call (.close descriptor)
        pure (some copy)
      | .error _ => pure none
    modify fun s => { s with redirected := match s.redirected with
      | [] => []
      | l :: rest => (⟨descriptor, copy⟩ :: l) :: rest }

def lead (capture : Expansion.Capture) (comesBack : Bool) (l : Led) : Evaluator Unit := do
  let d := l.descriptor
  let source? ← match l with
    | .file _ direction path => (some <$> openFor path direction)
    | .document _ number => (some <$> openDocument capture number)
    | .copy _ source? => pure source?
  if source? = some d && l matches .copy .. then return
  if comesBack && source? ≠ some d then putAside d
  match l, source? with
  | .copy .., some source =>
    match ← call (.copyTo source d) with
    | .ok _ => pure ()
    | .error e => fail (toString source ++ ": " ++ e.text)
  | _, some source =>
    if source ≠ d then
      let _ ← call (.copyTo source d)
      let _ ← call (.close source)
    else if comesBack then
      modify fun s => { s with redirected := match s.redirected with
        | [] => []
        | l :: rest => (if l.any (·.descriptor = d) then l else ⟨d, none⟩ :: l) :: rest }
  | _, none =>
    let _ ← call (.close d)

def leadAll (capture : Expansion.Capture) (comesBack : Bool) (l : List Led) : Evaluator Unit :=
  l.forM (lead capture comesBack)

def tryLead (capture : Expansion.Capture) (l : List Led) : Evaluator Bool := do
  match ← attempt (leadAll capture true l) with
  | .ok _ => return true
  | .error .failure => return false
  | .error e => stop e

def begin : Evaluator Unit := modify fun s => { s with redirected := [] :: s.redirected }

/-- The streams that were led elsewhere since the last beginning come back, unless they are to
stay. -/
def finish (stays : Bool) : Evaluator Unit := do
  match (← get).redirected with
  | [] => pure ()
  | l :: rest =>
    modify fun s => { s with redirected := rest }
    (l.mergeSort fun a b => a.descriptor ≤ b.descriptor).forM fun aside => do
      match aside.copy with
      | none =>
        if !stays then
          let _ ← call (.close aside.descriptor)
      | some copy =>
        if !stays then
          let _ ← call (.copyTo copy aside.descriptor)
        let _ ← call (.close copy)

def unwindFor (depth : Nat) : Nat → Evaluator Unit
  | 0 => pure ()
  | n + 1 => do
    if (← get).redirected.length > depth then
      finish false
      unwindFor depth n

def unwind (depth : Nat) : Evaluator Unit := do unwindFor depth (← get).redirected.length

end Redirection

end Shorthand.Posix
