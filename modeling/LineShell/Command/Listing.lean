import LineShell.Session.Basic
import LineShell.Invocation
import LineShell.Calendar

/-!
# Listing a directory

The entries of a directory by name, each marked by its kind, and on demand with
mode, length and time of modification.
-/

namespace LineShell
namespace Command

/-- The name with a mark for links, directories and executables. -/
def decorate (name : String) (node : Node) : String :=
  match node with
  | .link _ _ => name ++ "@"
  | .directory _ => name ++ "/"
  | _ => if node.attributes.isExecutable then name ++ "*" else name

def permissionLetter (mode bit : Nat) (letter : Char) : Char :=
  if mode &&& bit != 0 then letter else '-'

def permissionLetters (mode : Nat) : List Char :=
  [permissionLetter mode 0o4 'r', permissionLetter mode 0o2 'w', permissionLetter mode 0o1 'x']

def kindLetter : Node → Char
  | .link _ _ => 'l'
  | .directory _ => 'd'
  | _ => '-'

def modeLetters (node : Node) : String :=
  let mode := node.attributes.mode
  String.ofList
    (kindLetter node :: ([6, 3, 0].flatMap fun shift => permissionLetters (mode >>> shift)))

def longLine (name : String) (node : Node) : String :=
  let size := if node.isDirectory then "-" else toString node.length
  modeLetters node ++ " " ++ Text.padStart 8 ' ' size ++ " " ++
    timeStamp node.attributes.modified ++ " " ++ decorate name node

/-- Lists a directory: the first operand, or the current one. -/
def ls (s : Session) (call : Invocation) : String :=
  let directory := (call.operands.head?.map s.resolvePath).getD s.current
  match s.world.list directory with
  | .error e => "ls: cannot access " ++ directory ++ ": " ++ e.message
  | .ok entries =>
      let shown := entries.filter fun e => call.hasOption 'a' || !Text.startsWith e.1 "."
      let sorted := shown.mergeSort fun a b => Text.le a.1 b.1
      let line := if call.hasOption 'l' then longLine else decorate
      Text.joinWith "\n" (sorted.map fun e => line e.1 e.2)

end Command
end LineShell
