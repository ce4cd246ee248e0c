import LineShell.Script.Channel
import LineShell.World

/-!
# The machine on which programs run

The world together with all open channels and pipes, the table of processes, and the signals
that are on their way to one of them.
-/

namespace LineShell
namespace Script

structure Ending where
  status : Nat
  signal : Option Nat := none
deriving DecidableEq, Repr, Inhabited

/-- An entry in the table of processes: who started it, and how it ended, as long as that
one was not told. -/
structure Entry where
  process : Nat
  parent : Nat
  ending : Option Ending := none
deriving DecidableEq, Repr, Inhabited

structure Machine where
  world : World
  channels : Array Channel := #[]
  pipes : Array Pipe := #[]
  images : Array Image := #[]
  table : List Entry := []
  next : Nat := 0
  running : Nat := 0
  /-- The signals that are on their way: to which process, and which one. -/
  signals : List (Nat × Nat) := []

/-- What a program is started with; its texts are raw. -/
structure Process where
  args : List String
  environment : Table String
  descriptors : Descriptors
  mask : Nat
  ignored : List Nat := []

namespace Machine

def idle : Machine where
  world :=
    { tree := {}
      here := []
      clock := 0
      environment := Table.empty
      accountHome := "" }

def openChannel (m : Machine) (target : Target) (access : Access) : Nat × Machine :=
  (m.channels.size, { m with channels := m.channels.push ⟨target, access⟩ })

/-- Opens a pipe: the number of the channel from which it is read, and that of the one to
which it is written. -/
def openPipe (m : Machine) : Nat × Nat × Machine :=
  let number := m.pipes.size
  let (output, m) := { m with pipes := m.pipes.push {} }.openChannel (.pipe number) .read
  let (input, m) := m.openChannel (.pipe number) .append
  (output, input, m)

def setTarget (m : Machine) (n : Nat) (target : Target) : Machine :=
  { m with channels := m.channels.modify n fun c => { c with target := target } }

def pipeOf? (m : Machine) (channel : Nat) : Option Nat :=
  match m.channels[channel]? with
  | some ⟨.pipe number, _⟩ => some number
  | _ => none

def pipe (m : Machine) (number : Nat) : Pipe :=
  m.pipes[number]?.getD {}

def modifyPipe (m : Machine) (number : Nat) (f : Pipe → Pipe) : Machine :=
  { m with pipes := m.pipes.modify number f }

/-- The image of the file at a location: its number, and the machine with it. -/
def imageAt (m : Machine) (loc : Location) : Nat × Machine :=
  match m.images.findIdx? (·.loc == loc) with
  | some number => (number, m)
  | none =>
      let content := match m.world.tree.node? loc with
        | some (.file content _) => content
        | _ => []
      (m.images.size, { m with images := m.images.push ⟨loc, content.toByteArray, false⟩ })

def imageSize (m : Machine) (number : Nat) : Nat :=
  m.images[number]?.elim 0 (·.bytes.size)

/-- Marks a file as modified now, and puts bytes into it if they are given. -/
def stamp (m : Machine) (loc : Location) (content? : Option (List UInt8)) : Machine :=
  match m.world.tree.node? loc with
  | some (.file content a) =>
      { m with
        world := m.world.insert loc
          (.file (content?.getD content) { a with modified := m.world.clock }) }
  | _ => m

/-- Changes an image; its file is modified. -/
def modifyImage (m : Machine) (number : Nat) (f : Image → Image) : Machine :=
  let m := match m.images[number]? with
    | some image => if image.isAhead then m else m.stamp image.loc none
    | none => m
  { m with images := m.images.modify number f }

/-- The machine whose tree has the bytes of all images. -/
def synced (m : Machine) : Machine :=
  if m.images.any (·.isAhead) then
    let written := m.images.foldl
      (fun m image =>
        if image.isAhead then m.stamp image.loc (some image.bytes.toList) else m)
      m
    { written with images := written.images.map fun image => { image with isAhead := false } }
  else m

def isWritable (m : Machine) (channel : Nat) : Bool :=
  m.channels[channel]?.any (·.access.writes)

/-- Writes bytes to a channel that takes them and is no pipe. -/
def write (m : Machine) (channel : Nat) (bytes : List UInt8) : Machine :=
  match m.channels[channel]? with
  | some ⟨.capture pieces, _⟩ => m.setTarget channel (.capture (bytes :: pieces))
  | some ⟨.file image position, access⟩ =>
      let start := if access = .append then m.imageSize image else position
      (m.modifyImage image (·.write start bytes)).setTarget channel
        (.file image (start + bytes.length))
  | _ => m

def read (m : Machine) (channel : Nat) (portion : Portion) :
    Except SystemError (List UInt8 × Machine) :=
  match m.channels[channel]? with
  | none => .error .badDescriptor
  | some c =>
      if !c.access.reads then .error .badDescriptor
      else
        match c.target with
        | .source bytes =>
            let (taken, rest) := portion.cut bytes
            .ok (taken, m.setTarget channel (.source rest))
        | .file image position =>
            let taken := m.images[image]?.elim [] fun i => portion.extract i.bytes position
            .ok (taken, m.setTarget channel (.file image (position + taken.length)))
        | .pipe number =>
            let (bytes, pipe) := (m.pipe number).pull portion
            .ok (bytes, m.modifyPipe number fun _ => pipe)
        | .directory => .error .isADirectory
        | .capture _ | .null => .ok ([], m)

def captured (m : Machine) (channel : Nat) : List UInt8 :=
  match m.channels[channel]? with
  | some ⟨.capture pieces, _⟩ => pieces.reverse.flatten
  | _ => []

def moveTo (m : Machine) (here : Location) : Machine :=
  { m with world := { m.world with here := here } }

def newFile (m : Machine) (mask : Nat) : Node :=
  .file [] ⟨0o666 - (0o666 &&& mask), m.world.clock⟩

def openImage (m : Machine) (image : Nat) (access : Access) : Nat × Machine :=
  let emptied := fun (i : Image) => { i with bytes := .empty, isAhead := true }
  let m := if access = .truncate then m.modifyImage image emptied else m
  m.openChannel (.file image 0) access

def openAt (m : Machine) (loc : Location) (access : Access) : Nat × Machine :=
  let (image, m) := m.imageAt loc
  m.openImage image access

/-- Opens what a path leads to; a new file gets the permission bits that a mask leaves,
and an exclusive opening refuses a file that is there. -/
def openPath (m : Machine) (path : String) (access : Access) (mask : Nat) (exclusive : Bool) :
    Except SystemError (Nat × Machine) := do
  if access = .read then
    match ← m.world.find .follow path with
    | (_, .null) => .ok (m.openChannel .null access)
    | (_, .directory _) => .ok (m.openChannel .directory access)
    | (loc, _) => .ok (m.openAt loc access)
  else
    match ← m.world.openForWriting path with
    | (loc, none) =>
        .ok ({ m with world := m.world.add loc (m.newFile mask) }.openAt loc access)
    | (loc, some (.file _ _)) =>
        if exclusive then .error .alreadyExists else .ok (m.openAt loc access)
    | (_, some _) => .ok (m.openChannel .null access)

def reopen (m : Machine) (channel : Nat) (access : Access) : Nat × Machine :=
  match m.channels[channel]? with
  | some ⟨.file image _, _⟩ => m.openImage image access
  | some ⟨.pipe number, _⟩ => m.openChannel (.pipe number) access
  | some c =>
      if (c.access.reads || !access.reads) && (c.access.writes || !access.writes) then (channel, m)
      else m.openChannel .null access
  | none => (channel, m)

/-- Opens a raw path for a process with these descriptors, which some paths stand for. -/
def openFile (m : Machine) (ds : Descriptors) (path : String) (access : Access) (mask : Nat)
    (exclusive : Bool) : Except SystemError (Nat × Machine) :=
  match descriptorOfPath? path with
  | some fd =>
      match ds.channel? fd with
      | none => .error .notFound
      | some c => .ok (m.reopen c access)
  | none => m.openPath (Text.ofRaw path) access mask exclusive

/-- Sends a signal to a process, unless it is on its way already. -/
def send (m : Machine) (process signal : Nat) : Machine :=
  if m.signals.contains (process, signal) then m
  else { m with signals := m.signals ++ [(process, signal)] }

def addProcess (m : Machine) (parent : Nat) : Nat × Machine :=
  (m.next, { m with next := m.next + 1, table := m.table ++ [⟨m.next, parent, none⟩] })

def hasProcess (m : Machine) (process : Nat) : Bool :=
  m.table.any (·.process == process)

def parentOf (m : Machine) (process : Nat) : Option Nat :=
  (m.table.find? (·.process == process)).map (·.parent)

def endedChild? (m : Machine) (parent : Nat) : Option (Nat × Ending) :=
  m.table.findSome? fun e =>
    if e.parent = parent then e.ending.map fun ending => (e.process, ending) else none

/-- Whether a process started others of whose end it was not told. -/
def hasChild (m : Machine) (parent : Nat) : Bool :=
  m.table.any (·.parent == parent)

def forget (m : Machine) (process : Nat) : Machine :=
  { m with table := m.table.filter (·.process != process) }

/-- The process that takes over those whose parents ended, and needs not be told of their
ends. -/
def firstProcess : Nat := 1

def finish (m : Machine) (process : Nat) (ending : Ending) : Machine :=
  let isWaitedFor := (m.parentOf process).any fun parent =>
    m.table.any fun e => e.process == parent && e.ending.isNone
  let others := m.table.filter fun e => e.parent != process || e.ending.isNone
  let table := others.map fun e =>
    if e.parent = process then { e with parent := firstProcess } else e
  { m with
    table :=
      if isWaitedFor then
        table.map fun e => if e.process = process then { e with ending := some ending } else e
      else table.filter (·.process != process)
    signals := m.signals.filter (·.1 != process) }

end Machine
end Script
end LineShell
