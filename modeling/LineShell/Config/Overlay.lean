import LineShell.Config.Basic

/-!
# Overlays

What a user sets is laid over the defaults.  A scalar replaces the default.  A
list or table loses the entries that the overlay removes and then takes those
that it adds; a section that replaces starts from nothing instead.
-/

namespace LineShell

/-- What a user sets for aliases: whether the defaults go, which of them are
removed, and which aliases are added. -/
structure AliasOverlay where
  replace : Bool := false
  remove : List String := []
  define : Table String := .empty
deriving DecidableEq, Inhabited

structure ExternalOverlay where
  replace : Bool := false
  suffixes : List String := []
  removeSuffixes : List String := []
  interpreters : Table String := .empty
  removeInterpreters : List String := []
deriving DecidableEq, Inhabited

structure LineOverlay where
  historyExpansion : Option Bool := none
  prompt : Option String := none
deriving DecidableEq, Inhabited

structure LogOverlay where
  level : Option String := none
  file : Option String := none
deriving DecidableEq, Inhabited

structure Overlay where
  settings : LineOverlay := {}
  aliases : AliasOverlay := {}
  external : ExternalOverlay := {}
  logging : LogOverlay := {}
deriving DecidableEq, Inhabited

namespace Overlay

/-- Adds the items that are not there yet, in order. -/
def addMissing (base : List String) (items : List String) : List String :=
  items.foldl (fun list item => if item ∈ list then list else list ++ [item]) base

def mergeList (base add remove : List String) (replace : Bool) : List String :=
  if replace then add else addMissing (base.filter (· ∉ remove)) add

/-- A table with the entries of another one, which win. -/
def extend (base add : Table String) : Table String :=
  add.entries.foldl (fun t e => t.insert e.1 e.2) base

def mergeTable (base add : Table String) (remove : List String) (replace : Bool) :
    Table String :=
  if replace then add else extend (base.filterNames (· ∉ remove)) add

def apply (o : Overlay) (c : Config) : Config where
  settings :=
    { historyExpansion := o.settings.historyExpansion.getD c.settings.historyExpansion
      prompt := o.settings.prompt.getD c.settings.prompt }
  aliases := mergeTable c.aliases o.aliases.define o.aliases.remove o.aliases.replace
  external :=
    { suffixes := mergeList c.external.suffixes o.external.suffixes o.external.removeSuffixes
        o.external.replace
      interpreters := mergeTable c.external.interpreters o.external.interpreters
        o.external.removeInterpreters o.external.replace }
  logging :=
    { level := o.logging.level.getD c.logging.level
      file := o.logging.file.or c.logging.file }

end Overlay
end LineShell
