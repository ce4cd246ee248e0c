import LineShell.Text.Basic

/-!
# Paths

A path is a text; its parts stand between slashes.  Empty parts and `.` name
the directory at hand and are ignored.  A path is normal when `..` stands only
at the head of a relative one.
-/

namespace LineShell
namespace Path

def isAbsolute (path : String) : Bool :=
  Text.startsWith path "/"

/-- The parts of a path, without the ones that stay in place. -/
def parts (path : String) : List String :=
  (Text.parts '/' path).filter fun part => part ≠ "" ∧ part ≠ "."

/-- One part more on a stack of parts, whose top comes first: a name before `..`
is taken back, and the root has no parent but itself. -/
def pushPart (absolute : Bool) (stack : List String) (part : String) : List String :=
  if part = ".." then
    match stack with
    | [] => if absolute then [] else [".."]
    | top :: rest => if top = ".." then ".." :: top :: rest else rest
  else part :: stack

def normalParts (absolute : Bool) (ps : List String) : List String :=
  (ps.foldl (pushPart absolute) []).reverse

def ofParts (absolute : Bool) (ps : List String) : String :=
  if absolute then "/" ++ Text.joinWith "/" ps
  else if ps = [] then "." else Text.joinWith "/" ps

/-- The normal form of a path, found without looking at any file. -/
def normalize (path : String) : String :=
  ofParts (isAbsolute path) (normalParts (isAbsolute path) (parts path))

/-- The second path, taken from the first one if it is relative. -/
def join (base path : String) : String :=
  if isAbsolute path || base = "" then path
  else if base.toList.getLast? = some '/' then base ++ path
  else base ++ "/" ++ path

/-- The part that a path names last; none for the root, `.` and `..`. -/
def fileName? (path : String) : Option String :=
  match (parts path).getLast? with
  | some ".." | none => none
  | some name => some name

/-- The part of a name after its last dot; none if there is no dot or nothing
before it. -/
def extension? (path : String) : Option String := do
  let name ← fileName? path
  let cs := name.toList.reverse
  match cs.dropWhile (· != '.') with
  | [] | [_] => none
  | _ => some (String.ofList (cs.takeWhile (· != '.')).reverse)

/-- The path with a leading `~` replaced by the home directory; a tilde before a
name stays. -/
def expandHome (home : String) (path : String) : String :=
  match path.toList with
  | ['~'] => home
  | '~' :: '/' :: rest => home ++ "/" ++ String.ofList rest
  | _ => path

end Path
end LineShell
