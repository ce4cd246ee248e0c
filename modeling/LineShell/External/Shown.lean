import LineShell.Text.Basic
import LineShell.Text.Bytes

/-!
# Names in the messages of programs

A name is shown as it is if a shell would read it back as one word; otherwise in quotes.
Bytes that cannot be printed are shown by their numbers.  Texts are raw.
-/

namespace LineShell
namespace External
namespace Shown

def isPrintable (c : Char) : Bool :=
  decide (' ' ≤ c) && decide (c ≤ '~')

def isMark (c : Char) : Bool :=
  "?\\ !\"$&()*;<=>[^\x60|\x27:".toList.contains c

/-- Whether a name is only read back in quotes. -/
def needsQuotes (name : List Char) : Bool :=
  match name with
  | [] | ['\x7b'] | ['\x7d'] => true
  | c :: rest =>
      c == '#' || c == '~' || (c :: rest).any fun d => isMark d || !isPrintable d

/-- Whether a name keeps its meaning in double quotes. -/
def fitsDoubleQuotes (name : List Char) : Bool :=
  name.tail.all (fun c => c != '#' && c != '~') &&
    name.all fun c =>
      isPrintable c && (!isMark c || c == ' ' || c == '\x27' || c == ':') &&
        c != '\x7b' && c != '\x7d'

def byteText (c : Char) : String :=
  match c with
  | '\n' => "\\n"
  | '\t' => "\\t"
  | '\r' => "\\r"
  | '\x07' => "\\a"
  | '\x08' => "\\b"
  | '\x0b' => "\\v"
  | '\x0c' => "\\f"
  | _ => "\\" ++ Text.padStart 3 '0' (String.ofList (Nat.toDigits 8 c.toNat))

/-- The characters of a name in single quotes; those that cannot be printed stand in
quotes of another kind, which may be open. -/
def singleQuoted : Bool → List Char → String
  | _, [] => "\x27"
  | special, c :: rest =>
      if isPrintable c then
        (if special then "\x27\x27" else "") ++
          (if c = '\x27' then "\x27\\\x27\x27" else c.toString) ++ singleQuoted false rest
      else
        (if special then "" else "\x27$\x27") ++ byteText c ++ singleQuoted true rest

end Shown

def shownName (name : String) : String :=
  let cs := name.toList
  if !Shown.needsQuotes cs then name
  else if cs.contains '\x27' && Shown.fitsDoubleQuotes cs then "\"" ++ name ++ "\""
  else "\x27" ++ Shown.singleQuoted false cs

end External
end LineShell
