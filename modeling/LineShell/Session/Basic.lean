import LineShell.Builtin
import LineShell.External.Launcher
import LineShell.Words
import LineShell.Error

/-!
# Sessions

The state that one line leaves to the next: the directories, the mode, the
history, the aliases, the edit buffer, and the world around.
-/

namespace LineShell

inductive Mode where
  | normal
  | edit
deriving DecidableEq, Repr, Inhabited

/-- What a session is run by: it starts programs, and does something with records as
they arise, besides their place in the session. -/
structure Runner extends Launcher where
  keep : List Notice → World → World

/-- Records leave no trace in the world. -/
def Runner.unrecorded (launcher : Launcher) : Runner where
  toLauncher := launcher
  keep _ w := w

structure Session where
  world : World
  current : String
  previous : String
  mode : Mode := .normal
  history : List String := []
  aliases : Table String := .empty
  registry : Registry := .full
  external : ExternalSettings
  /-- What `which` looks programs up with: made once, at the start, apart from the
  resolver by which stages find their programs. -/
  whichResolver : Resolver := .ofSettings external
  historyExpansion : Bool := true
  buffer : List String := []
  log : List Notice := []
deriving DecidableEq

namespace Session

def startAt (s : Session) (directory : String) : Session :=
  { s with current := Path.normalize directory, previous := Path.normalize directory }

def setCurrent (s : Session) (directory : String) : Session :=
  { s with current := Path.normalize directory }

def setPrevious (s : Session) (directory : String) : Session :=
  { s with previous := Path.normalize directory }

def changeDirectory (s : Session) (directory : String) : Session :=
  { s with current := Path.normalize directory, previous := s.current }

/-- The normal path that a user's path means in this session. -/
def resolvePath (s : Session) (path : String) : String :=
  Path.normalize (Path.join s.current (s.world.expandHome path))

def setWorld (s : Session) (w : World) : Session :=
  { s with world := w }

/-- The session with more records, which the runner takes down as well. -/
def note (s : Session) (r : Runner) (notices : List Notice) : Session :=
  { s with log := s.log ++ notices, world := r.keep notices s.world }

def resolver (s : Session) : Resolver :=
  Resolver.ofSettings s.external

def findProgram (s : Session) (name : String) : Option String :=
  s.resolver.resolve s.world s.current name

end Session
end LineShell
