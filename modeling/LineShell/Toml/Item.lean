/-!
# Items of a settings document

A document is a tree of items.  A table remembers how it came about, because
that decides who may still add to it: a table written inline is closed, one made
by a dotted key is open to dotted keys, and one that only stands on the way to
another table may still get a header of its own.
-/

namespace LineShell
namespace Toml

inductive TableForm where
  /-- It is written between braces. -/
  | inlined
  | header
  /-- It stands on the way to a table with a header. -/
  | implied
  /-- It stands on the way of a dotted key. -/
  | dotted
deriving DecidableEq, Repr, Inhabited

/-- A value, a table, or a row of tables that share a header. -/
inductive Item where
  | string (text : String)
  | integer (value : Int)
  | float
  | boolean (value : Bool)
  | datetime (text : String)
  | array (items : List Item)
  | table (form : TableForm) (entries : List (String × Item))
  | tables (rows : List (List (String × Item)))
deriving Inhabited

abbrev Entries := List (String × Item)

namespace Entries

def get? (es : Entries) (key : String) : Option Item :=
  (es.find? (·.1 == key)).map (·.2)

def set (es : Entries) (key : String) (item : Item) : Entries :=
  if es.any (·.1 == key) then es.map fun e => if e.1 == key then (key, item) else e
  else es ++ [(key, item)]

def erase (es : Entries) (key : String) : Entries :=
  es.filter (·.1 != key)

/-- Changes the table at the end of a path of keys, given how the tables that
are missing on the way come about; the change also learns the form of the table
that it reaches.  Nothing leads through a value or an inline table, and a dotted
key leads through no table that has a header. -/
def updateAt (made : TableForm) (change : TableForm → Entries → Option Entries) :
    TableForm → List String → Entries → Option Entries
  | form, [], es => change form es
  | _, key :: path, es =>
      match es.get? key with
      | none => do
          let inner ← updateAt made change made path []
          some (es.set key (.table made inner))
      | some (.table form inner) =>
          if form = .inlined ∨ (made = .dotted ∧ form = .header) then none
          else do
            let inner' ← updateAt made change form path inner
            some (es.set key (.table form inner'))
      | some (.tables rows) =>
          match rows.getLast? with
          | none => none
          | some row => do
              let row' ← updateAt made change .header path row
              some (es.set key (.tables (rows.dropLast ++ [row'])))
      | some _ => none

/-- Adds a key that is not there yet; a dotted key ends in a table that dotted
keys made. -/
def define (es : Entries) (path : List String) (key : String) (item : Item) : Option Entries :=
  updateAt .dotted
    (fun form inner =>
      if (path = [] ∨ form = .dotted) ∧ (inner.get? key).isNone then some (inner ++ [(key, item)])
      else none)
    .header path es

end Entries
end Toml
end LineShell
