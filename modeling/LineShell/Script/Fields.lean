import LineShell.Script.Shell

/-!
# Fields of expanded words

An expanded word is a row of fragments.  Fragments that came from unquoted
expansions are split at separators, and the fields that result are matched
against file names.  A line that is read is split into a given number of fields by the
same separators.
-/

namespace LineShell
namespace Script

inductive Fragment where
  | chars (text : String) (quoted splitting : Bool)
  /-- A field ends and the next one begins, even if they are empty. -/
  | fieldBreak
  /-- Texts that are split, each of which ends a field if one was begun. -/
  | row (texts : List String)
deriving DecidableEq, Repr, Inhabited

/-- Whether a separator counts only once in a row. -/
def isSoft (c : Char) : Bool :=
  c == ' ' || c == '\t' || c == '\n'

/-- Fields under construction: the finished ones in reverse order, and the one at hand
with its characters in reverse order, if it was begun. -/
structure Fields where
  done : List Marked := []
  current : Option Marked := none
  /-- Whether blanks just ended a field, so that a separator right after them
  belongs to the same end. -/
  ended : Bool := false

namespace Fields

/-- Finishes the field at hand, if it was begun. -/
def cut (f : Fields) : Fields :=
  match f.current with
  | some field => { done := field.reverse :: f.done }
  | none => f

def extend (f : Fields) (chars : Marked) : Fields :=
  { f with current := some (chars.reverse ++ f.current.getD []), ended := false }

def softCut (f : Fields) : Fields :=
  { f.cut with ended := f.ended || f.current.isSome }

def extendSplitting (separators : List Char) : Fields → List Char → Fields
  | f, [] => f
  | f, c :: rest =>
      if separators.contains c then
        if isSoft c then extendSplitting separators f.softCut rest
        else if f.ended then extendSplitting separators { f with ended := false } rest
        else extendSplitting separators (f.extend []).cut rest
      else extendSplitting separators (f.extend [(c, false)]) rest

/-- Adds texts that separators split, each of which ends a field. -/
def extendRow (separators : List Char) : Fields → List String → Fields
  | f, [] => f
  | f, [text] => extendSplitting separators f text.toList
  | f, text :: rest => extendRow separators (extendSplitting separators f text.toList).softCut rest

/-- Adds a fragment.  Separators at its start do not belong to the end of a field before
it. -/
def add (separators : List Char) (f : Fields) (fragment : Fragment) : Fields :=
  match fragment with
  | .fieldBreak => { (f.extend []).cut with current := some [] }
  | .row texts => extendRow separators { f with ended := false } texts
  | .chars text true _ => f.extend (Marked.ofText true text)
  | .chars text false true => extendSplitting separators { f with ended := false } text.toList
  | .chars text false false => if text = "" then f else f.extend (Marked.ofText false text)

def ofFragments (separators : List Char) (fragments : List Fragment) : List Marked :=
  ((fragments.foldl (add separators) {}).cut.done).reverse

end Fields

def markedOf (fragments : List Fragment) : Marked :=
  fragments.flatMap fun fragment =>
    match fragment with
    | .chars text quoted _ => Marked.ofText quoted text
    | .fieldBreak => [(' ', true)]
    | .row texts => Marked.ofText false (Text.joinWith " " texts)

def textOf (fragments : List Fragment) : String :=
  (markedOf fragments).text

/-- The positional parameters as fragments of a word that is split into fields. -/
def positional (s : Shell) (name : String) (quoted : Bool) : List Fragment :=
  if quoted then
    if name = "*" then [.chars (Text.joinWith s.joint s.args) true false]
    else (s.args.map fun arg => Fragment.chars arg true false).intersperse .fieldBreak
  else [.row s.args]

/-- A character of a line, with the mark that a backslash guards it. -/
abbrev LineChar := Char × Bool

namespace LineChar

/-- A line as it is read: a backslash guards the next character, unless the line
is taken raw. -/
def ofLine (raw : Bool) : List Char → List LineChar
  | '\\' :: c :: rest =>
      if raw then ('\\', false) :: ofLine raw (c :: rest) else (c, true) :: ofLine raw rest
  | ['\\'] => if raw then [('\\', false)] else []
  | c :: rest => (c, false) :: ofLine raw rest
  | [] => []

def separates (separators : List Char) (c : LineChar) : Bool :=
  !c.2 && separators.contains c.1

def isBlank (separators : List Char) (c : LineChar) : Bool :=
  separates separators c && isSoft c.1

def text (cs : List LineChar) : String :=
  String.ofList (cs.map (·.1))

/-- The characters after one end of a field: blanks, at most one separator that is
none, and blanks. -/
def dropEnd (separators : List Char) (cs : List LineChar) : List LineChar :=
  match cs.dropWhile (isBlank separators) with
  | c :: tail =>
      if separates separators c then tail.dropWhile (isBlank separators) else c :: tail
  | [] => []

/-- The last field of a line: all that is left of it but for blanks at its end, or the
field alone if nothing but guarded characters and blanks follow it. -/
def lastField (separators : List Char) (cs : List LineChar) : String :=
  let first := cs.takeWhile (!separates separators ·)
  let after := dropEnd separators (cs.drop first.length)
  if after.all fun c => c.2 || isBlank separators c then text first
  else text (cs.reverse.dropWhile (isBlank separators)).reverse

/-- The fields of a line for a number of names; the last one takes the rest. -/
def fields (separators : List Char) : Nat → List LineChar → List String
  | 0, _ => []
  | n + 1, cs =>
      let rest := cs.dropWhile (isBlank separators)
      if n = 0 then [lastField separators rest]
      else
        let first := rest.takeWhile (!separates separators ·)
        text first :: fields separators n (dropEnd separators (rest.drop first.length))

end LineChar
end Script
end LineShell
