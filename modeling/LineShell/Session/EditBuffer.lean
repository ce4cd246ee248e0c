import LineShell.Session.Basic

/-!
# The edit buffer

In edit mode a line is added to the buffer as it stands, unless its first word
is one of the commands that act on the buffer.
-/

namespace LineShell

inductive EditCommand where
  | quit
  | print
  | clear
  | write
deriving DecidableEq, Repr, Inhabited

namespace EditCommand

def ofWord? : String → Option EditCommand
  | ":q" | ":quit" => some .quit
  | ":p" | ":print" => some .print
  | ":clear" => some .clear
  | ":w" | ":write" => some .write
  | _ => none

def ofLine? (line : String) : Option (EditCommand × String) :=
  let cut := Text.cutAtBlank (Text.trim line)
  (ofWord? cut.1).map (·, Text.trim cut.2)

end EditCommand

namespace Session

def numbered (first : Nat) : List String → List String
  | [] => []
  | line :: rest => (toString first ++ " " ++ line) :: numbered (first + 1) rest

def bufferText (lines : List String) : String :=
  Text.joinWith "\n" lines ++ "\n"

def writeBuffer (s : Session) (target : String) : String × Session :=
  if target = "" then ("edit: missing file name", s)
  else
    match s.world.write (s.resolvePath target) (Text.encode (bufferText s.buffer)) with
    | .ok w => ("Wrote " ++ toString s.buffer.length ++ " lines to " ++ target, s.setWorld w)
    | .error e => ("edit: error: " ++ e.message, s)

def editLine (s : Session) (line : String) : String × Session :=
  match EditCommand.ofLine? line with
  | some (.quit, _) => ("Leaving edit mode.", { s with mode := .normal })
  | some (.print, _) => (Text.joinWith "\n" (numbered 1 s.buffer), s)
  | some (.clear, _) => ("", { s with buffer := [] })
  | some (.write, target) => s.writeBuffer target
  | none => ("", { s with buffer := s.buffer ++ [line] })

end Session
end LineShell
