import LineShell.FileTree.Walk
import LineShell.Table
import LineShell.Text.Bytes

/-!
# The world of a session

What lies outside a session and what it may change: the file tree, the directory
in which the process stands, the clock and the environment.  Every operation on
files takes the text of a path and either changes the tree or names the cause
for which it changes nothing.
-/

namespace LineShell

open FileTree

theorem Except.exists_of_bind_eq_ok {ε α β : Type} {x : Except ε α} {f : α → Except ε β} {b : β}
    (h : x >>= f = .ok b) : ∃ a, x = .ok a ∧ f a = .ok b := by
  cases x with
  | error e => cases h
  | ok a => exact ⟨a, rfl, h⟩

structure World where
  tree : FileTree
  here : Location
  clock : Int
  environment : Table String
  /-- The home directory of the account, for an environment that names none. -/
  accountHome : String
  /-- Where the file stands to which the log is written, from its opening up to its
  removal. -/
  logFile : Option Location := none
  /-- The directories whose entries came or went since the start, which counts as a
  modification of them. -/
  changed : List Location := []
deriving DecidableEq

namespace World

/-- The second world has other files than the first, and is otherwise the same. -/
def FilesOnly (w w' : World) : Prop :=
  w' = { w with tree := w'.tree, here := w'.here, logFile := w'.logFile, changed := w'.changed }

def find (w : World) (ending : Ending) (path : String) :
    Except SystemError (Location × Node) := do
  match ← walk w.tree w.here ending path with
  | .present loc node => .ok (loc, node)
  | .absent _ _ _ => .error .notFound

def holds (w : World) (test : Node → Bool) (path : String) : Bool :=
  match w.find .follow path with
  | .ok (_, node) => test node
  | .error _ => false

theorem holds_eq_true_iff {w : World} {test : Node → Bool} {path : String} :
    w.holds test path = true ↔
      ∃ loc node, w.find .follow path = .ok (loc, node) ∧ test node = true := by
  unfold holds
  cases h : w.find .follow path with
  | error e => simp
  | ok found =>
      constructor
      · intro htest
        exact ⟨found.1, found.2, rfl, htest⟩
      · rintro ⟨loc, node, hfound, htest⟩
        cases hfound
        exact htest

def isDirectory (w : World) (path : String) : Bool :=
  w.holds Node.isDirectory path

def isRegular (w : World) (path : String) : Bool :=
  w.holds Node.isRegular path

def isExecutable (w : World) (path : String) : Bool :=
  w.holds Node.isExecutable path

def isPresent (w : World) (path : String) : Bool :=
  w.holds (fun _ => true) path

def readBytes (w : World) (path : String) : Except SystemError (List UInt8) := do
  match ← w.find .follow path with
  | (_, .file content _) => .ok content
  | (_, .null) => .ok []
  | (_, .program _) => .error .invalidText
  | (_, .directory _) | (_, .link _ _) => .error .isADirectory

def readText (w : World) (path : String) : Except SystemError String := do
  match Text.decode? (← w.readBytes path) with
  | some text => .ok text
  | none => .error .invalidText

/-- An entry with the time at which it was last modified. -/
def dated (w : World) (loc : Location) (node : Node) : Node :=
  if node.isDirectory && w.changed.contains loc then node.setModified w.clock else node

def list (w : World) (path : String) : Except SystemError (List (String × Node)) := do
  match ← w.find .follow path with
  | (loc, .directory _) =>
      .ok ((w.tree.children loc).map fun e => (e.1, w.dated (loc ++ [e.1]) e.2))
  | _ => .error .notADirectory

def modified? (w : World) (path : String) : Option Int :=
  (w.find .follow path).toOption.map fun found => (w.dated found.1 found.2).attributes.modified

def setTree (w : World) (tree : FileTree) : World :=
  { w with tree := tree }

def insert (w : World) (loc : Location) (node : Node) : World :=
  w.setTree (w.tree.insert loc node)

def noteChange (w : World) (directory : Location) : World :=
  { w with
    changed := if w.changed.contains directory then w.changed else directory :: w.changed }

def add (w : World) (loc : Location) (node : Node) : World :=
  (w.insert loc node).noteChange loc.dropLast

/-- Where a file that is opened for writing stands, and what stands there now. -/
def openForWriting (w : World) (path : String) : Except SystemError (Location × Option Node) := do
  match ← walk w.tree w.here .create path with
  | .present _ (.directory _) => .error .isADirectory
  | .present loc node => .ok (loc, some node)
  | .absent parent name slash =>
      if slash then .error .isADirectory
      else if (w.tree.get? parent).isNone then .error .notFound
      else .ok (parent ++ [name], none)

/-- Modifies a file: its new bytes are a function of its old ones, which are
none for a new file. -/
def modifyFile (w : World) (path : String) (f : Option (List UInt8) → List UInt8) :
    Except SystemError World := do
  match ← w.openForWriting path with
  | (loc, none) => .ok (w.add loc (.newFile (f none) w.clock))
  | (loc, some (.file content a)) =>
      .ok (w.insert loc (.file (f (some content)) { a with modified := w.clock }))
  | (_, some _) => .ok w

def write (w : World) (path : String) (bytes : List UInt8) : Except SystemError World :=
  w.modifyFile path fun _ => bytes

/-- Creates a file if it is missing, and sets its time of modification. -/
def touch (w : World) (path : String) : Except SystemError World :=
  w.modifyFile path (·.getD [])

def makeDirectory (w : World) (path : String) : Except SystemError World := do
  match ← walk w.tree w.here .keep path with
  | .present _ _ => .error .alreadyExists
  | .absent parent name _ =>
      if (w.tree.get? parent).isNone then .error .notFound
      else .ok (w.add (parent ++ [name]) (.newDirectory w.clock))

/-- The path of the directory that holds a normal path; none for the root and
for the empty path. -/
def parentPath? (path : String) : Option String :=
  let ps := Path.parts path
  if ps = [] then none
  else if Path.isAbsolute path then some (Path.ofParts true ps.dropLast)
  else some (Text.joinWith "/" ps.dropLast)

/-- Creates one directory, unless it is there: the failure, if any, and the
world afterwards. -/
def ensureDirectory (w : World) (path : String) : Option SystemError × World :=
  match w.makeDirectory path with
  | .ok w' => (none, w')
  | .error e => (if w.isDirectory path then none else some e, w)

/-- Creates a directory after the directories on the way to it, at most as many
as the given depth.  Those created before a failure stay. -/
def makeDirectoriesWithin (w : World) : Nat → String → Option SystemError × World
  | 0, _ => (none, w)
  | depth + 1, path =>
      if path = "" then (none, w)
      else
        match w.makeDirectory path, parentPath? path with
        | .error .notFound, none => (some .notFound, w)
        | .error .notFound, some parent =>
            match makeDirectoriesWithin w depth parent with
            | (none, w') => w'.ensureDirectory path
            | failure => failure
        | _, _ => w.ensureDirectory path

def makeDirectories (w : World) (path : String) : Option SystemError × World :=
  w.makeDirectoriesWithin ((Path.parts path).length + 2) path

/-- Where a process stands whose directory was removed: below the same directory, under a
name that no entry can have. -/
def removedPlace (loc : Location) : Location :=
  loc.dropLast ++ [loc.getLast?.getD "" ++ "/"]

/-- The world without the entry at a location.  What takes its place later is another
one: a log that was written there goes nowhere from then on, and a process that stands
there stays in the directory that was removed. -/
def erase (w : World) (loc : Location) : World :=
  { w with
    tree := w.tree.erase loc
    here := if w.here = loc then removedPlace loc else w.here
    logFile := w.logFile.filter (· != loc)
    changed := loc.dropLast :: w.changed.filter fun d => d != loc && d != loc.dropLast }

/-- Removes an entry that is no directory; a link itself, never its target. -/
def removeFile (w : World) (path : String) : Except SystemError World := do
  match ← w.find .keep path with
  | (_, .directory _) => .error .isADirectory
  | (loc, _) => .ok (w.erase loc)

def removeDirectory (w : World) (path : String) : Except SystemError World := do
  match ← w.find .keep path with
  | (loc, .directory _) =>
      if loc = [] then .error .busy
      else if (walkParts path).getLast? = some "." then .error .invalidArgument
      else if (walkParts path).getLast? = some ".." then .error .directoryNotEmpty
      else if w.tree.isEmptyAt loc then .ok (w.erase loc)
      else .error .directoryNotEmpty
  | _ => .error .notADirectory

def lookup (w : World) (name : String) : Option String :=
  w.environment.get? name

/-- The home directory: the environment's, unless it names none. -/
def home (w : World) : String :=
  match w.lookup "HOME" with
  | none | some "" => w.accountHome
  | some home => home

def expandHome (w : World) (path : String) : String :=
  Path.expandHome w.home path

end World
end LineShell
