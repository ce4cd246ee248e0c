import LineShell.Cli.Run

/-!
# The command line

Runs the program on a tree that holds the directories and the settings of the
user, with the arguments, the input and the environment of the process.
-/

namespace LineShell
namespace Main

def readOptional (path : String) : IO (Option String) := do
  try
    return some (← IO.FS.readFile path)
  catch _ => return none

def readEnvironment : IO (Table String) := do
  let mut table := Table.empty
  for name in ["HOME", "PATH", "USER"] do
    if let some value ← IO.getEnv name then table := table.insert name value
  return table

/-- A world with the system's programs and the user's document. -/
def world (environment : Table String) (document : Option String) : World :=
  let base : World :=
    { tree :=
        ⟨[(["bin"], .newDirectory 0), (["bin", "sh"], .program .shell),
          (["bin", "cat"], .program .cat), (["dev"], .newDirectory 0), (["dev", "null"], .null)]⟩
      here := []
      clock := 0
      environment := environment
      accountHome := "/" }
  match document, environment.get? "HOME" with
  | some text, some home =>
      let file := Path.join home Config.userFile
      let made := (base.makeDirectories ((World.parentPath? file).getD "/")).2
      (made.write file (Text.encode text)).toOption.getD made
  | _, _ => base

end Main
end LineShell

open LineShell

def main (args : List String) : IO UInt32 := do
  let environment ← Main.readEnvironment
  let document ← match environment.get? "HOME" with
    | some home => Main.readOptional (Path.join home Config.userFile)
    | none => pure none
  let input ← (← IO.getStdin).readToEnd
  let report := Cli.run args (Main.world environment document) input
  IO.print report.output
  IO.eprint report.errors
  return report.code.toUInt32
