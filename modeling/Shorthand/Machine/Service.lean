import Shorthand.Machine.Basic
set_option autoImplicit false

namespace Shorthand.Machine

abbrev Reply (α : Type) := α × Machine

def say {α : Type} (a : α) (m : Machine) : Reply (Except SystemError α) := (.ok a, m)

def refuse {α : Type} (e : SystemError) (m : Machine) : Reply (Except SystemError α) :=
  (.error e, m)

def childrenOf (m : Machine) (p : Process) (child : Option ProcessId) : List Process :=
  m.processes.filter fun q => q.parent = p.id && child.all (q.id = ·)

def pipeSize : Nat := 65536

def hasToWait (m : Machine) (p : Process) : Call → Bool
  | .read descriptor _ =>
    match ((m.streamOf? p descriptor).filter (·.reads)).map (·.outlet) with
    | some (Outlet.pipe id) => (m.contentOf id).isEmpty && m.hasWriter id && p.pending.isEmpty
    | _ => false
  | .write descriptor _ =>
    match ((m.streamOf? p descriptor).filter (·.writes)).map (·.outlet) with
    | some (Outlet.pipe id) =>
      pipeSize ≤ (m.contentOf id).length && m.hasReader id && p.pending.isEmpty
    | _ => false
  | .wait child isPatient =>
    let children := m.childrenOf p child
    isPatient && !children.isEmpty && children.all (·.ending.isNone) && p.pending.isEmpty
  | .rest => true
  | _ => false

def read (m : Machine) (p : Process) (descriptor count : Nat) :
    Reply (Except SystemError (List Char)) :=
  match (m.streamOf? p descriptor).filter (·.reads) with
  | none => refuse .badDescriptor m
  | some s =>
    match s.outlet with
    | .device .zero | .device .full => say (List.replicate count '\x00') m
    | .device _ | .keeper .. | .screen _ => say [] m
    | .file way =>
      match m.files.node? way with
      | some (.regular content _) =>
        let octets := (content.drop s.position).take count
        say octets (m.updateStream s.id fun s => { s with position := s.position + octets.length })
      | some .directory => refuse .isDirectory m
      | _ => say [] m
    | .pipe id =>
      let content := m.contentOf id
      if !content.isEmpty then say (content.take count) (m.setContent id (content.drop count))
      else if m.hasWriter id then refuse .interrupted m
      else say [] m

def overwritten (content : List Char) (position : Nat) (octets : List Char) : List Char :=
  content.take position ++ List.replicate (position - content.length) '\x00' ++ octets ++
    content.drop (position + octets.length)

def broken {α : Type} (m : Machine) (p : Process) : Reply (Except SystemError α) :=
  refuse .brokenPipe (m.deliver p.id p.id Signal.pipe)

def write (m : Machine) (p : Process) (descriptor : Nat) (octets : List Char) :
    Reply (Except SystemError Nat) :=
  let count := octets.length
  match (m.streamOf? p descriptor).filter (·.writes) with
  | none => refuse .badDescriptor m
  | some s =>
    match s.outlet with
    | .device .full => refuse .noSpace m
    | .device _ => say count m
    | .screen channel => say count { m with screen := m.screen ++ [(channel, octets)] }
    | .keeper process channel =>
      if m.abandoned.contains process then m.broken p
      else say count { m with kept := m.kept ++ [⟨process, channel, octets⟩] }
    | .file way =>
      match m.files.node? way with
      | some (.regular content _) =>
        let position := if s.appends then content.length else s.position
        let files := m.files.put way (.regular (overwritten content position octets) m.clock)
        say count ({ m with files }.updateStream s.id fun s =>
          { s with position := position + count })
      | _ => say count m
    | .pipe id =>
      if !m.hasReader id then m.broken p
      else
        let content := m.contentOf id
        let room := pipeSize - content.length
        if room = 0 && 0 < count then refuse .interrupted m
        else say (min room count) (m.setContent id (content ++ octets.take room))

def opened (m : Machine) (p : Process) (outlet : Outlet) (o : Opening) :
    Reply (Except SystemError Nat) :=
  let (stream, m) := m.addStream outlet o.reads o.writes o.appends
  let number := freeDescriptor p 0
  say number (m.attach p.id { number, stream })

def reopened (m : Machine) (p : Process) (outlet : Outlet) (o : Opening) :
    Reply (Except SystemError Nat) :=
  match outlet with
  | .file way =>
    match m.files.node? way with
    | some (.regular ..) =>
      let files := if o.empties then m.files.put way (.regular [] m.clock) else m.files
      { m with files }.opened p outlet o
    | some .directory =>
      if o.writes || o.creates then refuse .isDirectory m else m.opened p outlet o
    | some (.program _) => if o.writes then refuse .notPermitted m else m.opened p outlet o
    | _ => m.opened p outlet o
  | _ => m.opened p outlet o

def openFile (m : Machine) (p : Process) (path : String) (o : Opening) :
    Reply (Except SystemError Nat) :=
  match m.files.find p.directory path true with
  | .error .notFound =>
    if o.creates && path.toList.getLast? = some '/' &&
      (m.files.find p.directory (path.dropEnd 1).toString true).toOption.isSome
    then refuse .isDirectory m else refuse .notFound m
  | .error e => refuse e m
  | .ok (way, none) =>
    if o.creates then
      { m with files := m.files.put way (.regular [] m.clock) }.opened p (.file way) o
    else refuse .notFound m
  | .ok (way, some node) =>
    if o.isNew && !(node matches .device _) then refuse .exists m
    else
      match node with
      | .link _ => if o.writes || o.creates then refuse .isDirectory m else m.opened p (.file way) o
      | .device .terminal => refuse .noDevice m
      | .device (.descriptor n) =>
        match m.streamOf? p n with
        | none => refuse .notFound m
        | some s => m.reopened p s.outlet o
      | .device d => m.opened p (.device d) o
      | _ => m.reopened p (.file way) o

def copy (m : Machine) (p : Process) (descriptor number : Nat) (isPrivate : Bool) :
    Reply (Except SystemError Nat) :=
  match p.descriptors.find? (·.number = descriptor) with
  | none => refuse .badDescriptor m
  | some d => say number (m.attach p.id { number, stream := d.stream, isPrivate })

def close (m : Machine) (p : Process) (descriptor : Nat) : Reply (Except SystemError Unit) :=
  if p.descriptors.any (·.number = descriptor) then
    say () (m.update p.id fun p =>
      { p with descriptors := p.descriptors.filter (·.number ≠ descriptor) }).tidied
  else refuse .badDescriptor m

def makePipe (m : Machine) (p : Process) : Reply (Nat × Nat) :=
  let id := m.fresh
  let m := { m with fresh := id + 1, pipes := m.pipes ++ [(id, [])] }
  let (source, m) := m.addStream (.pipe id) true false
  let (target, m) := m.addStream (.pipe id) false true
  let a := freeDescriptor p 0
  let descriptors := p.descriptors ++ [{ number := a, stream := source }]
  let b := freeDescriptor { p with descriptors } 0
  ((a, b), m.update p.id fun p =>
    { p with descriptors := descriptors ++ [{ number := b, stream := target }] })

def enter (m : Machine) (p : Process) (path : String) : Reply (Except SystemError Unit) :=
  match m.files.look p.directory path with
  | .error e => refuse e m
  | .ok (way, .directory) => say () (m.update p.id fun p => { p with directory := way })
  | .ok _ => refuse .misplaced m

def statusOf (m : Machine) : Outlet → StreamStatus
  | .file way => { file? := (m.files.node? way).map fun node => ⟨way, node⟩ }
  | .device d => { file? := (m.files.nodes.find? (·.2 = .device d)).map fun e => ⟨e.1, e.2⟩ }
  | .pipe id => { file? := none, isHeard := m.hasReader id }
  | .keeper process _ => { file? := none, isHeard := !m.abandoned.contains process }
  | .screen _ => { file? := none }

def inspect (m : Machine) (p : Process) (descriptor : Nat) : Except SystemError StreamStatus :=
  (m.streamOf? p descriptor).elim (.error .badDescriptor) fun s => .ok (m.statusOf s.outlet)

def status (m : Machine) (p : Process) (path : String) (followsLinks : Bool) :
    Except SystemError FileStatus :=
  match m.files.find p.directory path followsLinks with
  | .error e => .error e
  | .ok (_, none) => .error .notFound
  | .ok (way, some (.device (.descriptor n))) =>
    if !followsLinks then .ok ⟨way, .link ("/proc/self/fd/" ++ toString n)⟩
    else match m.streamOf? p n with
    | none => .error .notFound
    | some s => .ok ((m.statusOf s.outlet).file?.getD ⟨way, .device .null⟩)
  | .ok (way, some node) => .ok ⟨way, node⟩

def namesIn (m : Machine) (p : Process) (path : String) : Except SystemError (List String) :=
  match m.files.look p.directory path with
  | .error e => .error e
  | .ok (way, .directory) => .ok (m.files.namesIn way)
  | .ok _ => .error .misplaced

def programAt (m : Machine) (directory : Way) (path : String) : Except SystemError String :=
  match m.files.look directory path with
  | .error e => .error e
  | .ok (_, .program name) => .ok name
  | .ok _ => .error .notPermitted

def wait (m : Machine) (p : Process) (child : Option ProcessId) (isPatient : Bool) :
    Reply (Except SystemError (Option (ProcessId × ProcessEnd))) :=
  let children := m.childrenOf p child
  if children.isEmpty then refuse .noChild m
  else
    match children.findSome? fun q => q.ending.map fun e => (q.id, e) with
    | some (id, e) => say (some (id, e)) { m with processes := m.processes.filter (·.id ≠ id) }
    | none => if isPatient then refuse .interrupted m else say none m

def kill (m : Machine) (p : Process) (target : Int) (s : Signal) :
    Reply (Except SystemError Unit) :=
  if s > Signal.lastFree then refuse .invalid m
  else
    let targets := if target > 0 then m.processes.filter (·.id = target.toNat)
      else if target = 0 then m.processes else []
    if targets.isEmpty then refuse .noProcess m
    else say () (targets.foldl (fun m q => m.deliver p.id q.id s) m)

def prepare (p : Process) (s : Signal) (d : Disposition) : Process :=
  let ignored := p.ignored.filter (· ≠ s)
  let caught := p.caught.filter (· ≠ s)
  match d with
  | .standard => { p with ignored, caught }
  | .ignored => { p with ignored := ignored ++ [s], caught, pending := p.pending.filter (· ≠ s) }
  | .caught => { p with ignored, caught := caught ++ [s] }

def dispositionOf (p : Process) (s : Signal) : Disposition :=
  if p.ignored.contains s then .ignored else if p.caught.contains s then .caught else .standard

def answer (m : Machine) (p : Process) : (c : Call) → Reply c.Answer
  | .pause => ((), m)
  | .read descriptor count => m.read p descriptor count
  | .write descriptor octets => m.write p descriptor octets
  | .openFile path opening => m.openFile p path opening
  | .copyFrom descriptor least => m.copy p descriptor (freeDescriptor p least) true
  | .copyTo descriptor target =>
    if descriptor = target && p.descriptors.any (·.number = target) then say () m
    else
      let (r, m) := m.copy p descriptor target false
      (r.map fun _ => (), m)
  | .close descriptor => m.close p descriptor
  | .pipe => m.makePipe p
  | .enter path => m.enter p path
  | .directory => (FileTree.pathOf p.directory, m)
  | .status path followsLinks => (m.status p path followsLinks, m)
  | .inspect descriptor => (m.inspect p descriptor, m)
  | .namesIn path => (m.namesIn p path, m)
  | .execute path _ _ =>
    match m.programAt p.directory path with
    | .error e => (e, m)
    | .ok _ => (.notPermitted, m)
  | .wait child isPatient => m.wait p child isPatient
  | .kill target signal => m.kill p target signal
  | .prepare signal disposition => ((), m.update p.id fun p => prepare p signal disposition)
  | .disposition signal => (dispositionOf p signal, m)
  | .signals => (p.pending, m.update p.id fun p => { p with pending := [] })
  | .ownId => (p.id, m)
  | .parentId => (p.parent, m)
  | .sleep _ => ((), m)
  | .rest => ((), m)
  | .mask newMask => (p.mask, m.update p.id fun p => { p with mask := newMask.getD p.mask })
  | .time => (m.clock, m)

end Shorthand.Machine
