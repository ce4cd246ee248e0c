import LineShell.Text.Bytes
import LineShell.SystemError

/-!
# Interpreter lines

A file that begins with two marks names the program that interprets it, and perhaps one
argument.  The line must stand in the first bytes of the file.
-/

namespace LineShell
namespace External

/-- A program that interprets a file, and its argument; the texts are raw. -/
structure Interpreter where
  name : String
  argument : Option String
deriving DecidableEq, Repr, Inhabited

namespace Interpreter

/-- The number of bytes in which the line must stand. -/
def headLimit : Nat := 256

def isBlank (b : UInt8) : Bool :=
  b == 32 || b == 9

def trimEnd (line : List UInt8) : List UInt8 :=
  (line.reverse.dropWhile isBlank).reverse

/-- The line in the first bytes of a file, after the marks, and whether blanks at its end
do not count.  The file may end before the line does; a longer line must have the end of
its name there. -/
def lineOf? (head : List UInt8) : Option (List UInt8 × Bool) :=
  let text := head.takeWhile (· != 0)
  if text.contains 10 then some (trimEnd (text.takeWhile (· != 10)), true)
  else if text.length < head.length ∨ head.length + 2 < headLimit then some (text, false)
  else if (head.dropWhile isBlank).any isBlank then
    some (trimEnd (head.take (headLimit - 3)), true)
  else none

def ofLine? (line : List UInt8) (isTrimmed : Bool) : Option Interpreter :=
  let rest := line.dropWhile isBlank
  let name := rest.takeWhile (!isBlank ·)
  let after := rest.dropWhile (!isBlank ·)
  let argument := after.dropWhile isBlank
  if rest.isEmpty && isTrimmed then none
  else
    some ⟨Text.rawOfBytes name,
      if after.isEmpty || (argument.isEmpty && isTrimmed) then none
      else some (Text.rawOfBytes argument)⟩

def ofContent? (content : List UInt8) : Option Interpreter :=
  match content.take headLimit with
  | 35 :: 33 :: head => (lineOf? head).bind fun l => ofLine? l.1 l.2
  | _ => none

end Interpreter
end External
end LineShell
