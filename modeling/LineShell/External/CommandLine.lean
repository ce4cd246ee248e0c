import LineShell.External.Resolver
import LineShell.PosixWords
import LineShell.Log

/-!
# Command lines of programs

The words that start a file: those of the interpreter for its extension, if
there is one, then the path and the arguments.
-/

namespace LineShell

structure CommandLine where
  program : String
  args : List String
deriving DecidableEq, Repr, Inhabited

namespace CommandLine

def render (c : CommandLine) : String :=
  PosixWords.join (c.program :: c.args)

/-- The interpreters by extension in lower case; of two extensions that differ
only in case the later one counts. -/
def interpretersByExtension (interpreters : Table String) : Table String :=
  Table.ofList (interpreters.entries.map fun e => (Text.lower e.1, e.2))

def interpreter? (interpreters : Table String) (path : String) : Option String := do
  (interpretersByExtension interpreters).get? (Text.lower (← Path.extension? path))

/-- The command line that starts a path with arguments, and a record if the
interpreter line cannot be read. -/
def ofPath (interpreters : Table String) (path : String) (args : List String) :
    CommandLine × List Notice :=
  match interpreter? interpreters path with
  | none => (⟨path, args⟩, [])
  | some line =>
      match PosixWords.split? line with
      | some (program :: words) => (⟨program, words ++ path :: args⟩, [])
      | _ => (⟨path, args⟩, [.interpreterIgnored path line])

end CommandLine
end LineShell
