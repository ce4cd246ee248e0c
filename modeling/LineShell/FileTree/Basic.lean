/-!
# File trees

A tree is a finite set of entries below the root, each at a location: the names
on the way from the root to it.  An entry is a directory, a file with its bytes,
a symbolic link with the text of its target, the null device, or a program that
the system itself carries out.
-/

namespace LineShell

/-- The names from the root to an entry. -/
abbrev Location := List String

inductive Program where
  | shell
  | cat
deriving DecidableEq, Repr, Inhabited

/-- The permission bits of an entry and its time of modification, in seconds
since the start of 1970. -/
structure Attributes where
  mode : Nat
  modified : Int
deriving DecidableEq, Repr, Inhabited

namespace Attributes

def isExecutable (a : Attributes) : Bool :=
  a.mode &&& 0o111 != 0

end Attributes

inductive Node where
  | directory (attributes : Attributes)
  | file (content : List UInt8) (attributes : Attributes)
  | link (target : String) (attributes : Attributes)
  | null
  | program (program : Program)
deriving DecidableEq, Repr, Inhabited

namespace Node

def isDirectory : Node → Bool
  | .directory _ => true
  | _ => false

def isRegular : Node → Bool
  | .file _ _ | .program _ => true
  | _ => false

/-- The attributes of an entry; the system's own entries may be used by all. -/
def attributes : Node → Attributes
  | .directory a | .file _ a | .link _ a => a
  | .null => ⟨0o666, 0⟩
  | .program _ => ⟨0o755, 0⟩

def length : Node → Nat
  | .file content _ => content.length
  | .link target _ => target.utf8ByteSize
  | .directory _ | .null | .program _ => 0

def setModified (time : Int) : Node → Node
  | .directory a => .directory { a with modified := time }
  | .file content a => .file content { a with modified := time }
  | .link target a => .link target { a with modified := time }
  | node => node

def isExecutable (node : Node) : Bool :=
  node.isRegular && node.attributes.isExecutable

end Node

def Node.newDirectory (now : Int) : Node :=
  .directory ⟨0o755, now⟩

def Node.newFile (content : List UInt8) (now : Int) : Node :=
  .file content ⟨0o644, now⟩

/-- The entries below the root, each with its location. -/
structure FileTree where
  entries : List (Location × Node) := []
deriving DecidableEq, Repr, Inhabited

namespace FileTree

def find? (loc : Location) : List (Location × Node) → Option Node
  | [] => none
  | e :: rest => if e.1 = loc then some e.2 else find? loc rest

def node? (tree : FileTree) (loc : Location) : Option Node :=
  find? loc tree.entries

/-- The entry at a location; the root is always there. -/
def get? (tree : FileTree) (loc : Location) : Option Node :=
  if loc = [] then some (.directory ⟨0o755, 0⟩) else tree.node? loc

def erase (tree : FileTree) (loc : Location) : FileTree :=
  ⟨tree.entries.filter (·.1 != loc)⟩

/-- Replaces the entry at a location, or adds it last. -/
def put (loc : Location) (node : Node) : List (Location × Node) → List (Location × Node)
  | [] => [(loc, node)]
  | e :: rest => if e.1 = loc then (loc, node) :: rest else e :: put loc node rest

def insert (tree : FileTree) (loc : Location) (node : Node) : FileTree :=
  ⟨put loc node tree.entries⟩

def childName? (parent : Location) (loc : Location) : Option String :=
  match loc.getLast? with
  | some name => if loc.dropLast = parent then some name else none
  | none => none

def children (tree : FileTree) (parent : Location) : List (String × Node) :=
  tree.entries.filterMap fun e => (childName? parent e.1).map (·, e.2)

def isEmptyAt (tree : FileTree) (parent : Location) : Bool :=
  (tree.children parent).isEmpty

theorem find?_put (loc k : Location) (node : Node) (es : List (Location × Node)) :
    find? k (put loc node es) = if loc = k then some node else find? k es := by
  induction es with
  | nil => simp [put, find?]
  | cons e rest ih =>
      simp only [put]
      split <;> simp only [find?, ih] <;> split <;> grind

@[simp] theorem node?_insert (tree : FileTree) (loc k : Location) (node : Node) :
    (tree.insert loc node).node? k = if loc = k then some node else tree.node? k :=
  find?_put loc k node tree.entries

@[simp] theorem node?_erase (tree : FileTree) (loc k : Location) :
    (tree.erase loc).node? k = if loc = k then none else tree.node? k := by
  obtain ⟨es⟩ := tree
  simp only [erase, node?]
  induction es with
  | nil => simp [find?]
  | cons e rest ih =>
      by_cases h : e.1 = loc <;> by_cases hk : e.1 = k <;> grind [find?]

end FileTree
end LineShell
