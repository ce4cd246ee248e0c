import LineShell.Text.Basic

/-!
# Command line options
-/

namespace LineShell
namespace Cli

structure Options where
  verbose : Bool := false
  dumpConfig : Bool := false
  command : Option String := none
deriving DecidableEq, Repr, Inhabited

inductive UsageError where
  | missingCommand
  | unknownArgument (argument : String)
deriving DecidableEq, Repr, Inhabited

namespace UsageError

def message : UsageError → String
  | .missingCommand => "-c needs a command line"
  | .unknownArgument argument => "unknown argument: " ++ argument

end UsageError

namespace Options

/-- Adds the arguments to the options, from left to right; the last command line
counts. -/
def parseFrom : Options → List String → Except UsageError Options
  | o, [] => .ok o
  | _, ["-c"] => .error .missingCommand
  | o, "-c" :: line :: rest => parseFrom { o with command := some line } rest
  | o, argument :: rest =>
      if argument = "--verbose" ∨ argument = "-v" then parseFrom { o with verbose := true } rest
      else if argument = "--dump-config" then parseFrom { o with dumpConfig := true } rest
      else .error (.unknownArgument argument)

def parse (args : List String) : Except UsageError Options :=
  parseFrom {} args

end Options
end Cli
end LineShell
