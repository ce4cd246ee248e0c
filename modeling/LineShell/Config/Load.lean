import LineShell.Config.Overlay
import LineShell.Toml.Reader
import LineShell.World

/-!
# Loading settings

The user's document is decoded into an overlay, section by section.  A section
is a table by field name, or a list of the fields in order; keys that name no
field are ignored, and a field of the wrong type makes the document unusable.
-/

namespace LineShell

open Toml

namespace Toml.Item

def text? : Item → Option String
  | .string text => some text
  | _ => none

def flag? : Item → Option Bool
  | .boolean b => some b
  | _ => none

def items? : Item → Option (List Item)
  | .array items => some items
  | .tables rows => some (rows.map (.table .header))
  | _ => none

def texts? (item : Item) : Option (List String) := do
  (← item.items?).mapM text?

/-- The key under which a date or time stands when it is taken for a table. -/
def datetimeKey : String := "$__toml_private_datetime"

/-- The entries of a table; a date or time counts as a table with one entry. -/
def entries? : Item → Option Entries
  | .table _ es => some es
  | .datetime text => some [(datetimeKey, .string text)]
  | _ => none

def textTable? (item : Item) : Option (Table String) := do
  let es ← (← item.entries?).mapM fun e => do some (e.1, ← text? e.2)
  some (.ofList es)

end Toml.Item

namespace Overlay

/-- An optional field of a table; if it is there it must have the right type. -/
def field {α : Type} (es : Entries) (key : String) (decode : Item → Option α) : Option (Option α) :=
  match es.get? key with
  | none => some none
  | some item => (decode item).map some

def fieldOr {α : Type} (es : Entries) (key : String) (decode : Item → Option α) (absent : α) :
    Option α :=
  (field es key decode).map (·.getD absent)

/-- A section of two optional fields, as a table or as a list that has both. -/
def twoFields {α β : Type} (item : Item) (key₁ key₂ : String) (decode₁ : Item → Option α)
    (decode₂ : Item → Option β) : Option (Option α × Option β) :=
  match item.entries?, item.items? with
  | some es, _ => do some (← field es key₁ decode₁, ← field es key₂ decode₂)
  | none, some (first :: second :: _) => do some (some (← decode₁ first), some (← decode₂ second))
  | none, _ => none

def decodeSettings (item : Item) : Option LineOverlay := do
  let fields ← twoFields item "history_expansion" "prompt" Item.flag? Item.text?
  some { historyExpansion := fields.1, prompt := fields.2 }

def decodeLogging (item : Item) : Option LogOverlay := do
  let fields ← twoFields item "level" "file" Item.text? Item.text?
  some { level := fields.1, file := fields.2 }

/-- The section on aliases, which is always a table: every key but the two of the
overlay itself is an alias. -/
def decodeAliases (item : Item) : Option AliasOverlay := do
  let es ← item.entries?
  let definitions := es.filter fun e => e.1 != "replace" && e.1 != "remove"
  some
    { replace := ← fieldOr es "replace" Item.flag? false
      remove := ← fieldOr es "remove" Item.texts? []
      define := ← Item.textTable? (.table .header definitions) }

def externalKeys : List String :=
  ["replace", "search_suffixes", "remove_search_suffixes", "interpreters", "remove_interpreters"]

/-- The section on programs, as a table or as a list of its fields in order. -/
def decodeExternal (item : Item) : Option ExternalOverlay := do
  let es ← match item.entries?, item.items? with
    | some es, _ => some es
    | none, some items => some (externalKeys.zip items)
    | none, none => none
  some
    { replace := ← fieldOr es "replace" Item.flag? false
      suffixes := ← fieldOr es "search_suffixes" Item.texts? []
      removeSuffixes := ← fieldOr es "remove_search_suffixes" Item.texts? []
      interpreters := ← fieldOr es "interpreters" Item.textTable? .empty
      removeInterpreters := ← fieldOr es "remove_interpreters" Item.texts? [] }

def decode (es : Entries) : Option Overlay := do
  some
    { settings := ← fieldOr es "settings" decodeSettings {}
      aliases := ← fieldOr es "aliases" decodeAliases {}
      external := ← fieldOr es "external" decodeExternal {}
      logging := ← fieldOr es "logging" decodeLogging {} }

/-- The overlay that a text spells; none if the text cannot be used. -/
def ofText? (text : String) : Option Overlay := do
  decode (← Toml.read? text)

end Overlay

namespace Config

def userFile : String := ".config/tinsh/config.toml"

def userText? (w : World) : Option String := do
  let home ← w.lookup "HOME"
  (w.readText (Path.join home userFile)).toOption

/-- The settings, and whether the user's document had to be rejected. -/
def load (w : World) : Config × Bool :=
  match userText? w with
  | none => (default, false)
  | some text =>
      match Overlay.ofText? text with
      | some overlay => (overlay.apply default, false)
      | none => (default, true)

end Config
end LineShell
