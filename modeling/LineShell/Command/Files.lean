import LineShell.Session.Basic
import LineShell.Invocation

/-!
# Commands that change files

`touch`, `mkdir`, `rm` and `rmdir` take their operands one after the other and
stop at the first that fails; what was done before it stays done.
-/

namespace LineShell
namespace Command

/-- One change at an operand: the message of its failure, if any, and the world
afterwards. -/
abbrev Change := Session → String → Option String × World

/-- The change of an operation that does nothing when it fails. -/
def change (s : Session) (name : String) (result : Except SystemError World) :
    Option String × World :=
  match result with
  | .ok w => (none, w)
  | .error e => (some (name ++ ": error: " ++ e.message), s.world)

def touchOne : Change := fun s file =>
  change s "touch" (s.world.touch (s.resolvePath file))

def mkdirOne : Change := fun s directory =>
  let made := s.world.makeDirectories (s.resolvePath directory)
  (made.1.map fun e => "mkdir: error: " ++ e.message, made.2)

def rmOne : Change := fun s file =>
  let path := s.resolvePath file
  if s.world.isDirectory path then (some ("rm: is a directory: " ++ file), s.world)
  else if !s.world.isPresent path then (some ("rm: no such file: " ++ file), s.world)
  else change s "rm" (s.world.removeFile path)

def rmdirOne : Change := fun s directory =>
  let path := s.resolvePath directory
  if !s.world.isDirectory path then (some ("rmdir: no such directory: " ++ directory), s.world)
  else change s "rmdir" (s.world.removeDirectory path)

/-- Makes a change at each operand until one fails. -/
def changeEach (one : Change) : Session → List String → String × Session
  | s, [] => ("", s)
  | s, operand :: rest =>
      match one s operand with
      | (none, w) => changeEach one (s.setWorld w) rest
      | (some message, w) => (message, s.setWorld w)

/-- Makes a change at each operand of a call; there must be one. -/
def changeOperands (name : String) (one : Change) (s : Session) (call : Invocation) :
    String × Session :=
  if call.operands = [] then (name ++ ": missing operand", s)
  else changeEach one s call.operands

end Command
end LineShell
