import LineShell.Error
import LineShell.External.CommandLine

/-!
# Launchers

A session knows of a started program what it wrote and which world it left.  How
that comes about is up to a launcher, of which nothing is known but that its
programs, given the same world and the same input, do the same, and that they act
on files only.
-/

namespace LineShell

structure Finished where
  output : List UInt8
  errors : List UInt8
  world : World

namespace Finished

def isLineEnd (c : Char) : Bool :=
  c == '\r' || c == '\n'

/-- A stream as it is shown: decoded, and without line ends at its end. -/
def shownStream (bytes : List UInt8) : String :=
  Text.dropEnd isLineEnd (Text.decodeLossy bytes)

/-- The text that a program shows: its output, or its errors if it has no
output. -/
def text (f : Finished) : String :=
  if shownStream f.output ≠ "" then shownStream f.output else shownStream f.errors

end Finished

inductive Launch where
  | refused (cause : SystemError)
  /-- The program ran, but its end could not be waited for. -/
  | lost (cause : SystemError) (world : World)
  | ended (finished : Finished)

namespace Launch

/-- What the stage gets that asked for the file with this path. -/
def result (path : String) : Launch → Except ShellError String
  | .refused cause => .error (.spawn path cause)
  | .lost cause _ => .error (.io ("waiting for " ++ path) cause)
  | .ended finished => .ok finished.text

/-- The world afterwards; a start that is refused leaves the one it found. -/
def world (w : World) : Launch → World
  | .refused _ => w
  | .lost _ w' => w'
  | .ended finished => finished.world

end Launch

/-- Starts command lines in a directory, with an input or none, and waits for their
end. -/
structure Launcher where
  start : World → CommandLine → String → Option (List UInt8) → Launch
  filesOnly : ∀ (w : World) (line : CommandLine) (directory : String)
    (input : Option (List UInt8)), w.FilesOnly ((start w line directory input).world w)

end LineShell
