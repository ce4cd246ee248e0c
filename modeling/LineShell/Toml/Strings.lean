import LineShell.Text.Basic

/-!
# Quoted strings of a settings document

Four kinds: between double quotes escapes are read, between single quotes every
character stands for itself, and either kind may be tripled to run over several
lines.  Each reader starts after the opening marks and returns the text and what
follows the closing marks.
-/

namespace LineShell
namespace Toml

def isSpace (c : Char) : Bool :=
  c == ' ' || c == '\t'

def isPrinting (c : Char) : Bool :=
  c == '\t' || (decide (0x20 ≤ c.toNat) && c != '\x7f')

def isBasicChar (c : Char) : Bool :=
  isPrinting c && c != '"' && c != '\\'

def isLiteralChar (c : Char) : Bool :=
  isPrinting c && c != '\x27'

def escapeLetter? : Char → Option Char
  | 'b' => some '\x08'
  | 'f' => some '\x0c'
  | 'n' => some '\n'
  | 'r' => some '\r'
  | 't' => some '\t'
  | '\\' => some '\\'
  | '"' => some '"'
  | _ => none

/-- The number of digits after an escape letter that takes a code point. -/
def escapeDigits? : Char → Option Nat
  | 'u' => some 4
  | 'U' => some 8
  | _ => none

def hexDigit? (c : Char) : Option Nat :=
  if c.isDigit then some (c.toNat - '0'.toNat)
  else if 'a' ≤ c ∧ c ≤ 'f' then some (c.toNat - 'a'.toNat + 10)
  else if 'A' ≤ c ∧ c ≤ 'F' then some (c.toNat - 'A'.toNat + 10)
  else none

def scalar? (n : Nat) : Option Char :=
  if n.isValidChar then some (Char.ofNat n) else none

inductive BasicPlace where
  | plain
  | escape
  | code (left value : Nat)
  | escapedBlank
  | skipping
  | quotes (count : Nat)
deriving DecidableEq, Repr, Inhabited

def afterEscape (text : String) (c : Char) : Option (BasicPlace × String) :=
  match escapeDigits? c with
  | some digits => some (.code digits 0, text)
  | none => (escapeLetter? c).map fun d => (.plain, text.push d)

def afterDigit (left value : Nat) (text : String) (c : Char) : Option (BasicPlace × String) := do
  let value' := 16 * value + (← hexDigit? c)
  if left ≤ 1 then some (.plain, text.push (← scalar? value'))
  else some (.code (left - 1) value', text)

def readBasic : BasicPlace → String → List Char → Option (String × List Char)
  | _, _, [] => none
  | .escape, text, c :: rest => do
      let next ← afterEscape text c
      readBasic next.1 next.2 rest
  | .code left value, text, c :: rest => do
      let next ← afterDigit left value text c
      readBasic next.1 next.2 rest
  | _, text, c :: rest =>
      if c = '"' then some (text, rest)
      else if c = '\\' then readBasic .escape text rest
      else if isBasicChar c then readBasic .plain (text.push c) rest
      else none

def readLiteral (text : String) : List Char → Option (String × List Char)
  | [] => none
  | c :: rest =>
      if c = '\x27' then some (text, rest)
      else if isLiteralChar c then readLiteral (text.push c) rest
      else none

def pushQuotes (mark : Char) (count : Nat) (text : String) : String :=
  text ++ String.ofList (List.replicate count mark)

def afterMultiline (text : String) (c : Char) : Option (BasicPlace × String) :=
  if c = '"' then some (.quotes 1, text)
  else if c = '\\' then some (.escape, text)
  else if c = '\n' ∨ isBasicChar c then some (.plain, text.push c)
  else none

/-- Reads a string between tripled double quotes.  One or two quotes belong to
the text, also right before the closing three. -/
def readMultilineBasic : BasicPlace → String → List Char → Option (String × List Char)
  | .quotes count, text, [] =>
      if 3 ≤ count then some (pushQuotes '"' (count - 3) text, []) else none
  | _, _, [] => none
  | .plain, text, c :: rest => do
      let next ← afterMultiline text c
      readMultilineBasic next.1 next.2 rest
  | .escape, text, c :: rest =>
      if c = '\n' then readMultilineBasic .skipping text rest
      else if isSpace c then readMultilineBasic .escapedBlank text rest
      else do
        let next ← afterEscape text c
        readMultilineBasic next.1 next.2 rest
  | .code left value, text, c :: rest => do
      let next ← afterDigit left value text c
      readMultilineBasic next.1 next.2 rest
  | .escapedBlank, text, c :: rest =>
      if isSpace c then readMultilineBasic .escapedBlank text rest
      else if c = '\n' then readMultilineBasic .skipping text rest
      else none
  | .skipping, text, c :: rest =>
      if isSpace c ∨ c = '\n' then readMultilineBasic .skipping text rest
      else do
        let next ← afterMultiline text c
        readMultilineBasic next.1 next.2 rest
  | .quotes count, text, c :: rest =>
      if c = '"' then
        (if count < 5 then readMultilineBasic (.quotes (count + 1)) text rest else none)
      else if 3 ≤ count then some (pushQuotes '"' (count - 3) text, c :: rest)
      else do
        let next ← afterMultiline (pushQuotes '"' count text) c
        readMultilineBasic next.1 next.2 rest

/-- Reads a string between tripled single quotes, given the number of quotes
just read. -/
def readMultilineLiteral : Nat → String → List Char → Option (String × List Char)
  | count, text, [] => if 3 ≤ count then some (pushQuotes '\x27' (count - 3) text, []) else none
  | count, text, c :: rest =>
      if c = '\x27' then (if count < 5 then readMultilineLiteral (count + 1) text rest else none)
      else if 3 ≤ count then some (pushQuotes '\x27' (count - 3) text, c :: rest)
      else if c = '\n' ∨ isLiteralChar c then
        readMultilineLiteral 0 ((pushQuotes '\x27' count text).push c) rest
      else none

/-- Leaves out a line end right after opening marks. -/
def dropLineEnd : List Char → List Char
  | '\n' :: rest => rest
  | cs => cs

def readLineString : List Char → Option (String × List Char)
  | '"' :: rest => readBasic .plain "" rest
  | '\x27' :: rest => readLiteral "" rest
  | _ => none

def readString : List Char → Option (String × List Char)
  | '"' :: '"' :: '"' :: rest => readMultilineBasic .plain "" (dropLineEnd rest)
  | '\x27' :: '\x27' :: '\x27' :: rest => readMultilineLiteral 0 "" (dropLineEnd rest)
  | cs => readLineString cs

end Toml
end LineShell
