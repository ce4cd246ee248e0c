import LineShell.Script.Builtin.Variables

/-!
# Commands on the directory

A shell knows its directory by the name through which it came there, and by its place
in the tree.  The first is found from the text of paths alone.
-/

namespace LineShell
namespace Script

/-- The slashes at the head of a path that stay: two of them, if there are just two, or
one. -/
def rootOf (path : String) : String :=
  match path.toList with
  | '/' :: '/' :: '/' :: _ => "/"
  | '/' :: '/' :: _ => "//"
  | _ => "/"

def pushName (stack : List String) (part : String) : List String :=
  if part = "" ∨ part = "." then stack else if part = ".." then stack.drop 1 else part :: stack

/-- The name of the directory to which a path leads from the directory of this name,
which is found without looking at any file. -/
def nameFrom (directory path : String) : String :=
  let isRooted := Path.isAbsolute path
  let base := if isRooted then [] else (Text.parts '/' directory).filter (· ≠ "")
  rootOf (if isRooted then path else directory) ++
    Text.joinWith "/" ((Text.parts '/' path).foldl pushName base.reverse).reverse

/-- The place of the directory at hand in the tree, unless it was removed. -/
def placeOf? (m : Machine) : Option String :=
  if m.world.here.isEmpty || (m.world.tree.node? m.world.here).isSome then
    some (Text.raw (Path.ofParts true m.world.here))
  else none

namespace Shell

def currentPlace : Act String := do
  match placeOf? (← get).machine with
  | some place => return place
  | none =>
      warn ("getcwd() failed: " ++ SystemError.notFound.description)
      return ""

def printDirectory (args : List String) : Act Unit :=
  withOptions ['L', 'P'] args fun options _ => do
    setStatus 0
    let s ← get
    if options.getLast? == some 'P' then printLine (← currentPlace) else printLine s.directory

/-- Goes to a directory, by its name or by its place; says whether it is there. -/
def enter (byPlace : Bool) (target : String) : Act Bool := do
  let s ← get
  let isNamed := !byPlace && (Path.isAbsolute target || s.directory != "")
  let path := if isNamed then nameFrom s.directory target else target
  match s.machine.world.find .follow (Text.ofRaw path) with
  | .ok (loc, .directory _) =>
      set { s with machine := s.machine.moveTo loc }
      let directory ← (do if isNamed then return path else currentPlace)
      modify fun s => { s with directory := directory }
      setExported "OLDPWD" s.directory
      if ← going then setExported "PWD" directory
      return true
  | _ => return false

/-- The directory of a search list that has a target, as a path to it, and whether it is
named in the list. -/
def searched? (s : Shell) (target : String) : Option (String × Bool) :=
  (Text.parts ':' ((s.get? "CDPATH").getD "")).findSome? fun directory =>
    let path := if directory = "" then target else directory ++ "/" ++ target
    if s.machine.world.isDirectory (Text.ofRaw path) then some (path, directory != "") else none

def isDirect (target : String) : Bool :=
  Path.isAbsolute target || [".", ".."].contains ((Text.parts '/' target).head?.getD "")

def changeDirectory (args : List String) : Act Unit :=
  withOptions ['L', 'P'] args fun options operands => do
    setStatus 0
    let s ← get
    let byPlace := options.getLast? == some 'P'
    let back := operands.head? == some "-"
    let target := match operands.head? with
      | none => (s.get? "HOME").getD ""
      | some "-" => (s.get? "OLDPWD").getD ""
      | some target => target
    let isSearched := !isDirect target
    let target := if target = "" then "." else target
    let (path, isFound) :=
      (if isSearched then searched? s target else none).getD (target, false)
    if ← enter byPlace path then
      if (back || isFound) && (← going) then printLine (← get).directory
    else raise ("can\x27t cd to " ++ target)

end Shell
end Script
end LineShell
