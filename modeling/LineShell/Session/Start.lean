import LineShell.Config.Basic
import LineShell.External.Launch
import LineShell.Session.Run

/-!
# Starting a session

A session starts in the directory of the process, with all built-in commands and
the aliases of the settings.  What a session does is told for every launcher; here
it gets the one with the programs of this system.
-/

namespace LineShell

/-- The text of the directory of the process; a dot if it was removed. -/
def World.processDirectory (w : World) : String :=
  if (w.tree.get? w.here).isSome then Path.ofParts true w.here else "."

namespace Session

def start (c : Config) (w : World) : Session :=
  ({ world := w
     current := "."
     previous := "."
     aliases := c.aliases
     external := c.external
     whichResolver := .ofSettings c.external
     historyExpansion := c.settings.historyExpansion } : Session).startAt w.processDirectory

end Session

/-- Starts the programs of this system and keeps no records. -/
def Runner.silent : Runner :=
  .unrecorded External.launcher

def runLine (w : World) (line : String) : String × Session :=
  (Session.start Config.default w).run .silent line

end LineShell
