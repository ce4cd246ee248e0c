import LineShell.Text.Class

/-!
# Cutting and joining texts

Texts are cut on their list of characters, so that each operation here is a
composition of list operations.
-/

namespace LineShell
namespace Text

def dropEnd (p : Char → Bool) (s : String) : String :=
  String.ofList ((s.toList.reverse.dropWhile p).reverse)

def trimEnd (s : String) : String :=
  dropEnd isBlank s

def trim (s : String) : String :=
  trimEnd (String.ofList (s.toList.dropWhile isBlank))

/-- The text up to the first blank, and the text from that blank on. -/
def cutAtBlank (s : String) : String × String :=
  (String.ofList (s.toList.takeWhile (!isBlank ·)),
    String.ofList (s.toList.dropWhile (!isBlank ·)))

/-- The parts between the separators; there is always at least one part. -/
def partsAux (sep : Char) (part : String) : List Char → List String
  | [] => [part]
  | c :: rest =>
      if c = sep then part :: partsAux sep "" rest else partsAux sep (part.push c) rest

def parts (sep : Char) (s : String) : List String :=
  partsAux sep "" s.toList

/-- The text before the first separator and the text after it, if there is one. -/
def cutOnce (sep : Char) (s : String) : Option (String × String) :=
  match s.toList.dropWhile (· != sep) with
  | [] => none
  | _ :: rest => some (String.ofList (s.toList.takeWhile (· != sep)), String.ofList rest)

def joinWith (sep : String) : List String → String
  | [] => ""
  | [s] => s
  | s :: t :: rest => s ++ sep ++ joinWith sep (t :: rest)

def startsWith (s lead : String) : Bool :=
  lead.toList.isPrefixOf s.toList

def hasChar (s : String) (c : Char) : Bool :=
  s.toList.contains c

def hasNul (s : String) : Bool :=
  hasChar s '\x00'

def lower (s : String) : String :=
  String.ofList (s.toList.map Char.toLower)

/-- The order of texts by code point, which is also their order by byte. -/
def le (s t : String) : Bool :=
  !decide (t < s)

def replicate (n : Nat) (s : String) : String :=
  joinWith "" (List.replicate n s)

def padStart (width : Nat) (fill : Char) (s : String) : String :=
  String.ofList (List.replicate (width - s.length) fill) ++ s

def digitsValue (cs : List Char) : Nat :=
  cs.foldl (fun n c => 10 * n + (c.toNat - '0'.toNat)) 0

/-- The least number that an index does not reach, `2 ^ 64`. -/
def indexLimit : Nat := 18446744073709551616

/-- Reads an index: decimal digits, perhaps after a plus sign, below `2 ^ 64`. -/
def index? (s : String) : Option Nat :=
  let digits := match s.toList with
    | '+' :: rest => rest
    | cs => cs
  if digits.isEmpty || !digits.all Char.isDigit then none
  else if digitsValue digits < indexLimit then some (digitsValue digits) else none

end Text
end LineShell
