import LineShell.Config.Basic
import LineShell.Toml.Writer

/-!
# Settings as a document

The merged settings, section by section, in the form in which a user writes
them.
-/

namespace LineShell
namespace Config

open Toml

def sections (c : Config) : List String :=
  [writeSection "settings"
      [writeLine "history_expansion" (writeFlag c.settings.historyExpansion),
        writeLine "prompt" (writeText c.settings.prompt)],
    writeSection "aliases" (tableLines c.aliases),
    writeSection "external" [writeLine "search_suffixes" (writeTexts c.external.suffixes)],
    writeSection "external.interpreters" (tableLines c.external.interpreters),
    writeSection "logging"
      (writeLine "level" (writeText c.logging.level) ::
        c.logging.file.toList.map fun f => writeLine "file" (writeText f))]

def render (c : Config) : String :=
  Text.joinWith "\n" c.sections

end Config
end LineShell
