import LineShell.Config.Basic
import LineShell.Calendar
import LineShell.Session.Start

/-!
# The log file

Records are added to a file as lines with the time and the level, each as it
arises, so that the commands of the same line find it there.  A file that cannot be
opened is done without.
-/

namespace LineShell

/-- A time to the second, in universal time. -/
def timeOfRecord (seconds : Int) : String :=
  let s := seconds.toNat
  let rest := s % secondsPerDay
  (Date.ofEpochDays (s / secondsPerDay)).render ++ "T" ++ Date.padded 2 (rest / 3600) ++ ":" ++
    Date.padded 2 (rest % 3600 / 60) ++ ":" ++ Date.padded 2 (rest % 60) ++ "Z"

def Notice.line (clock : Int) (n : Notice) : String :=
  timeOfRecord clock ++ " [" ++ n.level.name ++ "] " ++ n.message ++ "\n"

def recordLines (clock : Int) (level : LogLevel) (notices : List Notice) : String :=
  Text.joinWith "" ((notices.filter fun n => decide (n.level.rank ≤ level.rank)).map (·.line clock))

namespace LogFile

def defaultFile : String := ".local/share/tinsh/tinsh.log"

/-- The path of the log: the one of the settings, or the usual one below the home
directory that the environment names. -/
def path? (w : World) (settings : LogSettings) : Option String :=
  match settings.file with
  | some file => some (w.expandHome file)
  | none => (w.lookup "HOME").map (Path.join · defaultFile)

/-- Opens a log, creating it and the directories on the way to it. -/
def openAt (w : World) (path : String) : World :=
  let w' := match World.parentPath? path with
    | some parent => (w.makeDirectories parent).2
    | none => w
  match w'.openForWriting path with
  | .ok (loc, none) => { w'.add loc (.newFile [] w'.clock) with logFile := some loc }
  | .ok (loc, some _) => { w' with logFile := some loc }
  | .error _ => w'

def openLog (w : World) (settings : LogSettings) : World :=
  match path? w settings with
  | some path => openAt w path
  | none => w

def append (w : World) (text : String) : World :=
  if text = "" then w
  else
    match w.logFile.bind fun loc => (w.tree.node? loc).map (loc, ·) with
    | some (loc, .file content a) =>
        w.insert loc (.file (content ++ Text.encode text) { a with modified := w.clock })
    | _ => w

/-- Starts the programs of this system, and takes down in the log the records that a
level lets through. -/
def runner (level : LogLevel) : Runner where
  toLauncher := External.launcher
  keep notices w := append w (recordLines w.clock level notices)

end LogFile
end LineShell
