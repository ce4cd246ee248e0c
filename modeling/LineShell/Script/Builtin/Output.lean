import LineShell.Script.Builtin.Variables

/-!
# Commands that print and compare words

Printing words with escapes or by a format, and the conditions on words and files.
-/

namespace LineShell
namespace Script
namespace Shell

def echo (args : List String) : Act Unit := do
  let (words, ending) := match args with
    | "-n" :: rest => (rest, "")
    | _ => (args, "\n")
  let (text, stopped) := Printf.escaped (Text.joinWith " " words)
  emit 1 (if stopped then text else text ++ ending)
  setStatus 0

/-- Prints words by a format.  Complaints about the words come first. -/
def printFormatted (args : List String) : Act Unit :=
  withOptions [] args fun _ operands => do
    match operands with
    | [] => raise "usage: printf format [arg ...]"
    | format :: words =>
        let progress := Printf.render format words
        setStatus (if progress.complaints.isEmpty then 0 else 1)
        progress.complaints.forM warn
        emit 1 progress.output
        if progress.broken then raiseQuietly
where
  /-- Ends the command with a failure that was reported. -/
  raiseQuietly : Act Unit :=
    modify fun s => { s with status := 2, flow := .fault }

def conditionCommand (answer : World → Except Condition.Fault Bool) : Act Unit := do
  Routine.changeMachine Machine.synced
  match answer (← get).machine.world with
  | .ok held => setStatus (if held then 0 else 1)
  | .error fault => raise fault.message

end Shell
end Script
end LineShell
