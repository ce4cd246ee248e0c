import LineShell.Toml.Scalars

/-!
# Reading a settings document

A document is a row of lines: a header opens a table, and a key with a value
adds to the table at hand.  Whatever breaks a rule makes the whole document
unreadable.
-/

namespace LineShell
namespace Toml

abbrev Reader := StateT (List Char) Option

namespace Reader

def rest : Reader (List Char) := get

def via (f : List Char → Option (α × List Char)) : Reader α := f

def expect (c : Char) : Reader Unit := via fun cs =>
  match cs with
  | d :: rest => if c = d then some ((), rest) else none
  | [] => none

/-- Reads a given character if it is there, and says whether it was. -/
def accept (c : Char) : Reader Bool := via fun cs =>
  match cs with
  | d :: rest => some (if c = d then (true, rest) else (false, cs))
  | [] => some (false, cs)

def spaces : Reader Unit :=
  modify (·.dropWhile isSpace)

def comment : Reader Unit :=
  modify fun cs =>
    match cs with
    | '#' :: rest => rest.dropWhile isPrinting
    | _ => cs

/-- Reads the end of a line or of the document, after blanks and a comment. -/
def lineEnd : Reader Unit := do
  spaces
  comment
  via fun cs =>
    match cs with
    | [] => some ((), [])
    | '\n' :: rest => some ((), rest)
    | _ => none

def gapFrom : Bool → List Char → List Char
  | _, [] => []
  | true, c :: rest => if c = '\n' then gapFrom false rest
      else if isPrinting c then gapFrom true rest else c :: rest
  | false, c :: rest =>
      if isSpace c ∨ c = '\n' then gapFrom false rest
      else if c = '#' then gapFrom true rest
      else c :: rest

def gap : Reader Unit :=
  modify (gapFrom false)

def isKeyChar (c : Char) : Bool :=
  c.isAlphanum || c == '-' || c == '_'

def keyPart : Reader String := via fun cs =>
  match cs with
  | '"' :: _ | '\x27' :: _ => readLineString cs
  | _ =>
      let name := cs.takeWhile isKeyChar
      if name.isEmpty then none else some (String.ofList name, cs.dropWhile isKeyChar)

def keyParts : Nat → Reader (List String)
  | 0 => failure
  | n + 1 => do
      spaces
      let part ← keyPart
      spaces
      if ← accept '.' then return part :: (← keyParts n) else return [part]

/-- The number of levels that a document may have in one value or key. -/
def levelLimit : Nat := 79

/-- Reads a key: the parts before the last one, and the last one. -/
def key : Reader (List String × String) := do
  let parts ← keyParts levelLimit
  match parts.getLast? with
  | some last => return (parts.dropLast, last)
  | none => failure

def simpleValue : Reader Item := via fun cs =>
  match cs with
  | '"' :: _ | '\x27' :: _ => (readString cs).map fun r => (.string r.1, r.2)
  | _ => readScalar cs

mutual

/-- Reads a value, with a number of steps and of levels left. -/
def value : Nat → Nat → Reader Item
  | 0, _ => failure
  | steps + 1, levels => do
      match (← rest).head? with
      | some '[' =>
          expect '['
          match levels with
          | 0 => failure
          | levels + 1 => return .array (← arrayItems steps levels)
      | some '\x7b' =>
          expect '\x7b'
          match levels with
          | 0 => failure
          | levels + 1 =>
              spaces
              if ← accept '\x7d' then return .table .inlined []
              return .table .inlined (← inlineEntries steps levels [])
      | _ => simpleValue

def arrayItems : Nat → Nat → Reader (List Item)
  | 0, _ => failure
  | steps + 1, levels => do
      gap
      if ← accept ']' then return []
      let item ← value steps levels
      gap
      if ← accept ',' then return item :: (← arrayItems steps levels)
      expect ']'
      return [item]

def inlineEntries : Nat → Nat → Entries → Reader Entries
  | 0, _, _ => failure
  | steps + 1, levels, es => do
      let (path, last) ← key
      expect '='
      spaces
      let item ← value steps levels
      spaces
      let es ← (es.define path last item : Option Entries)
      if ← accept ',' then inlineEntries steps levels es
      else
        expect '\x7d'
        return es

end

end Reader

/-- A document that is being read: the finished tables, and the table at hand
with the path of its header. -/
structure Draft where
  root : Entries := []
  current : Entries := []
  path : List String := []
  last : Option String := none
  isRow : Bool := false
deriving Inhabited

namespace Draft

def close (d : Draft) : Option Entries :=
  match d.last with
  | none => some d.current
  | some key =>
      Entries.updateAt .implied (fun _ es =>
        match es.get? key, d.isRow with
        | some (.tables rows), true => some (es.set key (.tables (rows ++ [d.current])))
        | none, true => some (es.set key (.tables [d.current]))
        | none, false => some (es.set key (.table .header d.current))
        | some _, _ => none) .header d.path d.root

/-- The entries that a new table starts with: those of a table that so far only
stood on the way to others. -/
def opened? (key : String) (es : Entries) : Option Entries :=
  match es.get? key with
  | none => some []
  | some (.table .implied inner) => some inner
  | some _ => none

def reach : List String → Entries → Option Entries
  | [], es => some es
  | key :: path, es =>
      match es.get? key with
      | none => some []
      | some (.table form inner) => if form = .inlined then none else reach path inner
      | some (.tables rows) => rows.getLast?.bind (reach path)
      | some _ => none

def openTable (d : Draft) (path : List String) (key : String) : Option Draft := do
  let root ← d.close
  let current ← opened? key (← reach path root)
  let root ← Entries.updateAt .implied (fun _ es => some (es.erase key)) .header path root
  some { root, current, path, last := some key }

def openRow (d : Draft) (path : List String) (key : String) : Option Draft := do
  let root ← d.close
  match (← reach path root).get? key with
  | none | some (.tables _) => some { root, path, last := some key, isRow := true }
  | some _ => none

end Draft

namespace Reader

def line (steps : Nat) (d : Draft) : Reader Draft := do
  match ← rest with
  | '[' :: '[' :: _ =>
      expect '['
      expect '['
      let (path, last) ← key
      expect ']'
      expect ']'
      lineEnd
      (d.openRow path last : Option Draft)
  | '[' :: _ =>
      expect '['
      let (path, last) ← key
      expect ']'
      lineEnd
      (d.openTable path last : Option Draft)
  | '#' :: _ | '\n' :: _ =>
      lineEnd
      return d
  | _ =>
      let (path, last) ← key
      expect '='
      spaces
      let item ← value steps levelLimit
      lineEnd
      let current ← (d.current.define path last item : Option Entries)
      return { d with current }

def lines (steps : Nat) : Nat → Draft → Reader Entries
  | 0, _ => failure
  | n + 1, d => do
      spaces
      if (← rest).isEmpty then (d.close : Option Entries)
      else lines steps n (← line steps d)

end Reader

/-- The characters with every pair of return and line feed as a line feed. -/
def normalLineEnds : List Char → List Char
  | '\r' :: '\n' :: rest => '\n' :: normalLineEnds rest
  | c :: rest => c :: normalLineEnds rest
  | [] => []

def dropMark : List Char → List Char
  | '\ufeff' :: rest => rest
  | cs => cs

/-- The entries of a document; none if it breaks a rule. -/
def read? (text : String) : Option Entries :=
  let cs := normalLineEnds (dropMark text.toList)
  ((Reader.lines (2 * cs.length + 2) (cs.length + 1) {}).run cs).map (·.1)

end Toml
end LineShell
