import LineShell.Text.Basic
import LineShell.SystemError

/-!
# Log records

A session keeps a record of what a user may later want to know: the programs it
started, and the parts of a line or of the settings that it passed over.
-/

namespace LineShell

inductive LogLevel where
  | off
  | error
  | warn
  | info
  | debug
  | trace
deriving DecidableEq, Repr, Inhabited

namespace LogLevel

def name : LogLevel → String
  | .off => "OFF"
  | .error => "ERROR"
  | .warn => "WARN"
  | .info => "INFO"
  | .debug => "DEBUG"
  | .trace => "TRACE"

def rank : LogLevel → Nat
  | .off => 0
  | .error => 1
  | .warn => 2
  | .info => 3
  | .debug => 4
  | .trace => 5

def max (a b : LogLevel) : LogLevel :=
  if a.rank ≤ b.rank then b else a

def all : List LogLevel :=
  [.off, .error, .warn, .info, .debug, .trace]

/-- The level with this name in any ASCII case; an unknown name means warnings. -/
def ofName (text : String) : LogLevel :=
  (all.find? fun level => Text.lower level.name == Text.lower text).getD .warn

end LogLevel

inductive Notice where
  | sessionStarted (directory : String)
  | programStarted (commandLine : String)
  | heredocIgnored (word : String)
  | redirectFailed (path : String) (cause : SystemError)
  | interpreterIgnored (path line : String)
deriving DecidableEq, Repr, Inhabited

namespace Notice

def level : Notice → LogLevel
  | .sessionStarted _ | .programStarted _ => .info
  | .heredocIgnored _ | .redirectFailed _ _ | .interpreterIgnored _ _ => .warn

def message : Notice → String
  | .sessionStarted directory => "session started in " ++ directory
  | .programStarted commandLine => "exec: " ++ commandLine
  | .heredocIgnored word => "`<<` is not supported; ignoring `" ++ word ++ "`"
  | .redirectFailed path cause => path ++ ": " ++ cause.message
  | .interpreterIgnored path line =>
      "ignoring unparsable interpreter for " ++ path ++ ": " ++ line

end Notice
end LineShell
