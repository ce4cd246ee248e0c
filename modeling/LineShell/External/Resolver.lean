import LineShell.World

/-!
# Finding programs

A name with a slash is a path from the directory at hand; any other name is
looked for in the directories of the search path.  In each place the name
itself is tried first and then the name with each suffix.  A file that is not
executable is still found by its path if its extension has an interpreter.
-/

namespace LineShell

structure ExternalSettings where
  suffixes : List String
  interpreters : Table String
deriving DecidableEq, Inhabited

structure Resolver where
  suffixes : List String := []
  scriptExtensions : List String := []
deriving DecidableEq, Repr, Inhabited

namespace Resolver

/-- The resolver of the settings; extensions count in lower case. -/
def ofSettings (settings : ExternalSettings) : Resolver :=
  ⟨settings.suffixes, settings.interpreters.names.map Text.lower⟩

def candidates (r : Resolver) (base : String) : List String :=
  base :: r.suffixes.map (base ++ ·)

def firstMatch? (r : Resolver) (w : World) (base : String) : Option String :=
  (r.candidates base).find? w.isExecutable

/-- Whether a path leads to a file whose extension has an interpreter. -/
def isScript (r : Resolver) (w : World) (path : String) : Bool :=
  match Path.extension? path with
  | some ext => r.scriptExtensions.contains (Text.lower ext) && w.isRegular path
  | none => false

def searchDirectories (w : World) : List String :=
  match w.lookup "PATH" with
  | some value => Text.parts ':' value
  | none => []

def resolve (r : Resolver) (w : World) (directory name : String) : Option String :=
  if name = "" then none
  else if Text.hasChar name '/' then
    let base := Path.join directory (w.expandHome name)
    match r.firstMatch? w base with
    | some path => some path
    | none => if r.isScript w base then some base else none
  else (searchDirectories w).findSome? fun dir => r.firstMatch? w (Path.join dir name)

end Resolver
end LineShell
