import LineShell.Text.Basic

/-!
# Invocations

One call of a command: the words after its name and, perhaps, an input text.
-/

namespace LineShell

structure Invocation where
  name : String
  args : List String
  input : Option String := none
deriving DecidableEq, Repr, Inhabited

namespace Invocation

def hasFlag (call : Invocation) (flag : String) : Bool :=
  call.args.contains flag

/-- Whether a word is a group of single-letter options with this letter. -/
def isOptionWith (letter : Char) (word : String) : Bool :=
  match word.toList with
  | '-' :: '-' :: _ => false
  | '-' :: letters => letters.contains letter
  | _ => false

def hasOption (call : Invocation) (letter : Char) : Bool :=
  call.args.any (isOptionWith letter)

/-- Whether a word is an operand: it is no option, or a lone dash. -/
def isOperand (word : String) : Bool :=
  word == "-" || !Text.startsWith word "-"

def operands (call : Invocation) : List String :=
  call.args.filter isOperand

end Invocation
end LineShell
