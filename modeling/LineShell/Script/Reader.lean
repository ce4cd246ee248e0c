import LineShell.Script.Syntax
import LineShell.Text.Basic

/-!
# Reading the text of a script

The place of a reader in a text: what is left, the line, the here-documents whose
bodies are still to come, and the aliases.  A reader that meets a breach of the
grammar stops there and names its line.
-/

namespace LineShell
namespace Script

def isNameStart (c : Char) : Bool :=
  c.isAlpha || c == '_'

def isNameRest (c : Char) : Bool :=
  c.isAlphanum || c == '_'

def isName (s : String) : Bool :=
  match s.toList with
  | c :: rest => isNameStart c && rest.all isNameRest
  | [] => false

/-- The parameters that are one mark long. -/
def isSpecial (c : Char) : Bool :=
  ['@', '*', '#', '?', '-', '$', '!'].contains c || c.isDigit

/-- The words that have a meaning of their own where a command may begin. -/
def reservedWords : List String :=
  ["!", "case", "do", "done", "elif", "else", "esac", "fi", "for", "if", "in", "then", "until",
    "while", "\x7b", "\x7d"]

inductive Token where
  | endOfText
  | newline
  | mark (text : String)
  | redirect (fd : Option Nat) (marks : String)
  | word (w : Word)
  | reserved (text : String)
deriving Inhabited

namespace Token

def describe : Token → String
  | .endOfText => "end of file"
  | .newline => "newline"
  | .mark text | .reserved text => "\"" ++ text ++ "\""
  | .redirect _ _ => "redirection"
  | .word _ => "word"

def isMark (t : Token) (text : String) : Bool :=
  match t with
  | .mark marks => marks == text
  | _ => false

def isReserved (t : Token) (text : String) : Bool :=
  match t with
  | .reserved spelling => spelling == text
  | _ => false

def endsList : Token → Bool
  | .endOfText => true
  | .mark text => text == ")" || text == ";;"
  | .reserved text =>
      ["do", "done", "elif", "else", "esac", "fi", "then", "\x7d"].contains text
  | _ => false

end Token

inductive SyntaxFault where
  | unexpected (found : String) (expected : Option String)
  | unterminatedQuote
  | missingBrace
  | missingBrackets
  | openBackQuote
  | badLoopVariable
  | badFunctionName
  | badDescriptor
  | tooDeep
deriving DecidableEq, Repr, Inhabited

def SyntaxFault.message : SyntaxFault → String
  | .unexpected found none => "Syntax error: " ++ found ++ " unexpected"
  | .unexpected found (some expected) =>
      "Syntax error: " ++ found ++ " unexpected (expecting " ++ expected ++ ")"
  | .unterminatedQuote => "Syntax error: Unterminated quoted string"
  | .missingBrace => "Syntax error: Missing \x27\x7d\x27"
  | .missingBrackets => "Syntax error: Missing \x27))\x27"
  | .openBackQuote => "Syntax error: EOF in backquote substitution"
  | .badLoopVariable => "Syntax error: Bad for loop variable"
  | .badFunctionName => "Syntax error: Bad function name"
  | .badDescriptor => "Syntax error: Bad fd number"
  | .tooDeep => "Syntax error: nested too deeply"

/-- A fault, the line on which it was met, and how much of the text was left. -/
structure Breach where
  fault : SyntaxFault
  line : Nat
  left : Nat

structure PendingBody where
  number : Nat
  delimiter : String
  quoted : Bool
  strip : Bool

/-- An alias that is being read: its name, whether its text ends in a blank, and how
much is left of the text behind it. -/
structure ActiveAlias where
  name : String
  blankEnd : Bool
  behind : Nat

structure Reader where
  rest : List Char
  /-- How much of the text stands behind the back quotes that are being read. -/
  behind : Option Nat := none
  line : Nat := 1
  pending : List PendingBody := []
  documents : Array Word := #[]
  aliases : List (String × String) := []
  active : List ActiveAlias := []
  /-- A unit that was looked at and put back. -/
  next : Option Token := none
  /-- Whether the text ended inside of a here-document. -/
  isCut : Bool := false

abbrev Parse := StateT Reader (Except Breach)

namespace Parse

def fail {α : Type} (fault : SyntaxFault) : Parse α := do
  let r ← get
  throw ⟨fault, r.line, r.behind.getD r.rest.length⟩

def failAt {α : Type} (t : Token) (expected : Option String) : Parse α :=
  fail (.unexpected t.describe expected)

def peek : Parse (Option Char) := do
  return (← get).rest.head?

def skip : Parse Unit :=
  modify fun r =>
    match r.rest with
    | c :: rest => { r with rest := rest, line := if c = '\n' then r.line + 1 else r.line }
    | [] => r

def dropJoins : Nat → List Char → Nat × List Char
  | joined, '\\' :: '\n' :: rest => dropJoins (joined + 1) rest
  | joined, cs => (joined, cs)

/-- The next character after escaped line ends, which are left behind. -/
def peekJoined : Parse (Option Char) := do
  modify fun r =>
    let (joined, rest) := dropJoins 0 r.rest
    { r with rest := rest, line := r.line + joined }
  peek

def takeWhile (p : Char → Bool) : Parse String :=
  modifyGet fun r =>
    let taken := r.rest.takeWhile p
    (String.ofList taken,
      { r with rest := r.rest.dropWhile p, line := r.line + taken.count '\n' })

/-- Reads characters of a class, across escaped line ends, at most so many rows of
them. -/
def takeJoined (p : Char → Bool) : Nat → String → Parse String
  | 0, taken => pure taken
  | n + 1, taken => do
      match ← peekJoined with
      | some c => if p c then takeJoined p n (taken ++ (← takeWhile p)) else return taken
      | none => return taken

def putBack (t : Token) : Parse Unit :=
  modify fun r => { r with next := some t }

def pushText (quoted : Bool) (s : String) : List Part → List Part
  | .text chars q :: rest =>
      if q = quoted then .text (chars ++ s) q :: rest else .text s quoted :: .text chars q :: rest
  | parts => .text s quoted :: parts

def endsWord (c : Char) : Bool :=
  [' ', '\t', '\n', ';', '&', '|', '<', '>', '(', ')'].contains c

def singleQuoted : Parse String := do
  let text ← takeWhile (· != '\x27')
  match ← peek with
  | some _ =>
      skip
      return text
  | none => fail .unterminatedQuote

/-- The text up to the next back quote, where a backslash guards a back quote, a dollar
sign and itself, and a double quote inside double quotes. -/
def backQuoted (quoted : Bool) : String → List Char → Option (String × List Char)
  | _, [] => none
  | text, '\\' :: c :: rest =>
      if c = '\n' then backQuoted quoted text rest
      else if ['\x60', '$', '\\'].contains c || (quoted && c == '"') then
        backQuoted quoted (text.push c) rest
      else backQuoted quoted ((text.push '\\').push c) rest
  | text, c :: rest =>
      if c = '\x60' then some (text, rest) else backQuoted quoted (text.push c) rest

/-- The delimiter of a here-document, in which nothing is expanded, and whether a part
of it is quoted. -/
def delimiterFrom : Nat → String → Bool → Parse (String × Bool)
  | 0, text, quoted => pure (text, quoted)
  | n + 1, text, quoted => do
      match ← peekJoined with
      | none => return (text, quoted)
      | some c =>
          if endsWord c then return (text, quoted)
          skip
          if c = '\x27' then delimiterFrom n (text ++ (← singleQuoted)) true
          else if c = '"' then
            let inner ← takeWhile (· != '"')
            if (← peek).isNone then fail .unterminatedQuote
            skip
            delimiterFrom n (text ++ inner) true
          else if c = '\\' then
            match ← peek with
            | some d =>
                skip
                delimiterFrom n (text.push d) true
            | none => return (text.push c, true)
          else delimiterFrom n (text.push c) (quoted || c == '\x60')

/-- The body of a here-document in which nothing is expanded, what follows its
delimiter, if there is one, and the number of lines in between. -/
def readBody (p : PendingBody) :
    Nat → String → Nat → List Char → String × Option (List Char) × Nat
  | 0, body, lines, _ => (body, none, lines)
  | _ + 1, body, lines, [] => (body, none, lines)
  | n + 1, body, lines, cs =>
      let whole := cs.takeWhile (· != '\n')
      let line := String.ofList (if p.strip then whole.dropWhile (· == '\t') else whole)
      let rest := cs.dropWhile (· != '\n')
      if line = p.delimiter then (body, some (rest.drop 1), lines + 1)
      else
        let ending := if rest.isEmpty then "" else "\n"
        readBody p n (body ++ line ++ ending) (lines + 1) (rest.drop 1)

/-- Leaves escaped line ends behind, and tabs if asked for, at most so many times. -/
def skipLineStart (tabs : Bool) : Nat → Parse Unit
  | 0 => pure ()
  | n + 1 => do
      if (← peekJoined) == some '\t' && tabs then
        skip
        skipLineStart tabs n

/-- Leaves a line behind if it is this one; says whether it was. -/
def acceptLine (line : String) : Parse Bool :=
  modifyGet fun r =>
    let after := r.rest.drop line.length
    if line.toList.isPrefixOf r.rest && (after.isEmpty || after.head? == some '\n') then
      (true, { r with rest := after.drop 1, line := r.line + 1 })
    else (false, r)

end Parse
end Script
end LineShell
