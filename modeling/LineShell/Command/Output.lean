import LineShell.Session.Basic
import LineShell.Invocation

/-!
# Commands that print texts

`echo` prints its arguments; `cat` prints files, or its input if no file is
named, and stops at the first file that it cannot read.
-/

namespace LineShell
namespace Command

def echo (call : Invocation) : String :=
  Text.joinWith " " call.args

def readFailure (s : Session) (file : String) (cause : SystemError) : String :=
  if cause = .notFound then "cat: no such file: " ++ file
  else if s.world.isDirectory (s.resolvePath file) then "cat: is a directory: " ++ file
  else "cat: error reading file: " ++ cause.message

/-- The texts of files one after the other, or the first failure alone. -/
def readAll (s : Session) : List String → Except String String
  | [] => .ok ""
  | file :: rest =>
      match s.world.readText (s.resolvePath file) with
      | .error cause => .error (readFailure s file cause)
      | .ok text => (readAll s rest).map (text ++ ·)

def cat (s : Session) (call : Invocation) : String :=
  if call.operands = [] then call.input.getD "cat: missing operand"
  else
    match readAll s call.operands with
    | .ok text => text
    | .error message => message

end Command
end LineShell
