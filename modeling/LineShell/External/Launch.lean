import LineShell.External.Launcher
import LineShell.External.Programs

/-!
# Starting programs

A command line is started in a directory.  A program without a slash is looked
for along the search path: places where it is missing are passed over, a place
where it may not be run is remembered, and any other failure ends the search.
-/

namespace LineShell
namespace External

open Script

def systemPath : String := "/bin:/usr/bin"

def filesOf (w : World) (program : String) : List String :=
  if Text.hasChar program '/' then [program]
  else if program = "" then []
  else
    (Text.parts ':' ((w.lookup "PATH").getD systemPath)).map fun dir =>
      if dir = "" then program else dir ++ "/" ++ program

/-- Takes on the first file that can be, given the failure to report if none can. -/
def carryOutFirst (m : Machine) (p : Process) :
    SystemError → List String → Except SystemError (Machine → Script.Task)
  | failure, [] => .error failure
  | failure, file :: rest =>
      match carryOut m file p with
      | .ok start => .ok start
      | .error .permissionDenied => carryOutFirst m p .permissionDenied rest
      | .error e =>
          if e = .notFound ∨ e = .notADirectory then
            carryOutFirst m p (if failure = .permissionDenied then failure else e) rest
          else .error e

def startDirectory (w : World) (directory : String) : Except SystemError Location := do
  match ← w.find .follow directory with
  | (loc, .directory _) => .ok loc
  | _ => .error .notADirectory

def ownProcess : Nat := 1000

def usualMask : Nat := 0o022

/-- The machine in which a program starts: its input, if it has one, and two channels that
capture what it writes. -/
def startMachine (w : World) (here : Location) (input : Option (List UInt8)) : Machine where
  world := { w with here := here }
  channels :=
    #[⟨input.elim .null .source, .read⟩, ⟨.capture [], .append⟩, ⟨.capture [], .append⟩]
  table := [{ process := ownProcess + 1, parent := ownProcess }]
  next := ownProcess + 2
  running := ownProcess + 1

/-- Whether a process is waited for: it is the first one, or may write to what is captured. -/
def isWatched (m : Machine) (p : Paused) : Bool :=
  p.process == ownProcess + 1 ||
    p.holds m fun c =>
      match c.target with
      | .capture _ => true
      | _ => false

def turnLimit : Nat := 10000000000

def rawEnvironment (w : World) : Table String :=
  Table.ofList (w.environment.entries.map fun e => (Text.raw e.1, Text.raw e.2))

def start (w : World) (line : CommandLine) (directory : String) (input : Option (List UInt8)) :
    Except SystemError Finished :=
  if (directory :: line.program :: line.args).any Text.hasNul then .error .nulInProgram
  else do
    let here ← startDirectory w directory
    let process : Process :=
      { args := (line.program :: line.args).map Text.raw
        environment := rawEnvironment w
        descriptors := [(0, 0), (1, 1), (2, 2)]
        mask := usualMask }
    let m := startMachine w here input
    let start ← carryOutFirst m process .notFound ((filesOf w line.program).map Text.raw)
    let m := Schedule.run carryOut isWatched turnLimit Schedule.lingering Schedule.share m.running
      (start m) []
    let m := m.synced
    .ok
      { output := m.captured 1
        errors := m.captured 2
        world := { w with tree := m.world.tree, changed := m.world.changed } }

theorem filesOnly_start {w : World} {line : CommandLine} {directory : String}
    {input : Option (List UInt8)} {finished : Finished}
    (h : start w line directory input = .ok finished) : w.FilesOnly finished.world := by
  unfold start at h
  split at h
  · cases h
  · obtain ⟨here, -, h⟩ := Except.exists_of_bind_eq_ok h
    obtain ⟨start, -, h⟩ := Except.exists_of_bind_eq_ok h
    cases h
    rfl

/-- The programs of this system. -/
def launcher : Launcher where
  start w line directory input :=
    match start w line directory input with
    | .ok finished => .ended finished
    | .error cause => .refused cause
  filesOnly w line directory input := by
    cases h : start w line directory input with
    | ok finished => exact filesOnly_start h
    | error cause => rfl

end External
end LineShell
