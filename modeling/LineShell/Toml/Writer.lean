import LineShell.Toml.Strings
import LineShell.Table

/-!
# Writing a settings document

A text is written in the plainest form that can carry it: double quotes, single
quotes, their tripled forms, and only then double quotes with escapes.  A key
needs quotes unless it consists of letters, digits, dashes and underscores.
-/

namespace LineShell
namespace Toml

def isControl (c : Char) : Bool :=
  decide (c.toNat < 0x20) || c == '\x7f'

/-- What a text holds that bears on the form in which it can be written. -/
structure Traits where
  control : Bool
  newline : Bool
  backslash : Bool
  doubleQuote : Bool
  singleQuote : Bool
  tripleDouble : Bool
  tripleSingle : Bool
deriving DecidableEq, Repr, Inhabited

def hasTriple (mark : Char) : List Char → Bool
  | a :: b :: c :: rest =>
      (a == mark && b == mark && c == mark) || hasTriple mark (b :: c :: rest)
  | _ => false

/-- The traits of a text; tabs and line feeds are not counted as controls. -/
def Traits.ofText (text : String) : Traits :=
  let cs := text.toList
  { control := cs.any fun c => isControl c && c != '\t' && c != '\n'
    newline := cs.contains '\n'
    backslash := cs.contains '\\'
    doubleQuote := cs.contains '"'
    singleQuote := cs.contains '\x27'
    tripleDouble := hasTriple '"' cs
    tripleSingle := hasTriple '\x27' cs }

inductive TextForm where
  | basic
  | literal
  | multilineBasic
  | multilineLiteral
deriving DecidableEq, Repr, Inhabited

/-- The plainest form for a text. -/
def TextForm.ofTraits (t : Traits) : TextForm :=
  if !t.control && !t.backslash && !t.doubleQuote && !t.newline then .basic
  else if !t.control && !t.singleQuote && !t.newline then .literal
  else if !t.control && !t.backslash && !t.tripleDouble then .multilineBasic
  else if !t.control && !t.tripleSingle then .multilineLiteral
  else if t.newline then .multilineBasic
  else .basic

def hexDigit (n : Nat) : Char :=
  if n < 10 then Char.ofNat ('0'.toNat + n) else Char.ofNat ('A'.toNat + (n - 10))

def escapeControl (c : Char) : List Char :=
  match c with
  | '\x08' => ['\\', 'b']
  | '\t' => ['\\', 't']
  | '\n' => ['\\', 'n']
  | '\x0c' => ['\\', 'f']
  | '\r' => ['\\', 'r']
  | _ => ['\\', 'u', '0', '0', hexDigit (c.toNat / 16), hexDigit (c.toNat % 16)]

def escapeBasic (c : Char) : List Char :=
  if c = '"' ∨ c = '\\' then ['\\', c] else if isControl c then escapeControl c else [c]

/-- The characters between tripled double quotes, given the number of quotes just
written: the third in a row takes a backslash. -/
def escapeMultiline : Nat → List Char → List Char
  | _, [] => []
  | count, c :: rest =>
      if c = '"' then
        if count = 2 then '\\' :: '"' :: escapeMultiline 0 rest
        else '"' :: escapeMultiline (count + 1) rest
      else if c = '\n' then '\n' :: escapeMultiline 0 rest
      else escapeBasic c ++ escapeMultiline 0 rest

def leadingLineEnd (text : String) : String :=
  if text.toList.contains '\n' then "\n" else ""

def writeAs (form : TextForm) (text : String) : String :=
  match form with
  | .basic => "\"" ++ String.ofList (text.toList.flatMap escapeBasic) ++ "\""
  | .literal => "\x27" ++ text ++ "\x27"
  | .multilineBasic =>
      "\"\"\"" ++ leadingLineEnd text ++ String.ofList (escapeMultiline 0 text.toList) ++ "\"\"\""
  | .multilineLiteral => "\x27\x27\x27" ++ leadingLineEnd text ++ text ++ "\x27\x27\x27"

def writeText (text : String) : String :=
  writeAs (.ofTraits (.ofText text)) text

def writeKey (key : String) : String :=
  let t := Traits.ofText key
  if key ≠ "" ∧ key.toList.all fun c => c.isAlphanum || c == '-' || c == '_' then key
  else if !t.control && !t.newline && !t.backslash && !t.doubleQuote then writeAs .basic key
  else if !t.control && !t.newline && !t.singleQuote then writeAs .literal key
  else writeAs .basic key

/-- A list of texts: on one line if it has at most one item, else with an item on
each line. -/
def writeTexts : List String → String
  | [] => "[]"
  | [text] => "[" ++ writeText text ++ "]"
  | texts => "[\n" ++ Text.joinWith "" (texts.map fun t => "    " ++ writeText t ++ ",\n") ++ "]"

def writeFlag (b : Bool) : String :=
  if b then "true" else "false"

def writeLine (key value : String) : String :=
  writeKey key ++ " = " ++ value ++ "\n"

def writeSection (header : String) (lines : List String) : String :=
  "[" ++ header ++ "]\n" ++ Text.joinWith "" lines

def tableLines (t : Table String) : List String :=
  t.entries.map fun e => writeLine e.1 (writeText e.2)

end Toml
end LineShell
