import LineShell.External.Resolver

/-!
# Settings

The settings of the shell, by section, and the defaults that stand when the user
sets nothing.
-/

namespace LineShell

structure LineSettings where
  historyExpansion : Bool
  prompt : String
deriving DecidableEq, Repr, Inhabited

structure LogSettings where
  level : String
  file : Option String
deriving DecidableEq, Repr, Inhabited

structure Config where
  settings : LineSettings
  aliases : Table String
  external : ExternalSettings
  logging : LogSettings
deriving DecidableEq, Inhabited

namespace Config

def default : Config where
  settings := { historyExpansion := true, prompt := "tinsh: \x7bcwd\x7d> " }
  aliases := .ofList [("dir", "ls"), ("type", "cat"), ("del", "rm"), ("cls", "clear")]
  external :=
    { suffixes := []
      interpreters := .ofList
        [("sh", "sh"), ("bat", "cmd /C"), ("cmd", "cmd /C"),
          ("ps1", "powershell -NoProfile -File")] }
  logging := { level := "warn", file := none }

end Config
end LineShell
