import LineShell.Script.Builtin.Jobs

/-!
# Commands on the course of a script

Leaving loops, functions and the script, and sending signals.
-/

namespace LineShell
namespace Script
namespace Shell

/-- The number that the first argument gives, or a usual one; none after a failure. -/
def numberOr (usual : Nat) (args : List String) : Act (Option Nat) := do
  match args with
  | [] => return some usual
  | arg :: _ =>
      match count? arg with
      | some n => return some n
      | none =>
          raiseNumber arg
          return none

/-- Ends the script with a status; in a trap, the usual one is that from before. -/
def exitCommand (args : List String) : Act Unit := do
  let s ← get
  if let some n ← numberOr (s.trapped.getD s.status) args then
    modify fun s => { s with status := n, flow := .exit }

def returnCommand (args : List String) : Act Unit := do
  let s ← get
  if let some n ← numberOr s.status args then
    modify fun s => { s with status := n, flow := .back }

def leaveLoops (flow : Nat → Flow) (args : List String) : Act Unit := do
  setStatus 0
  if let some n ← numberOr 1 args then
    if n = 0 then raiseNumber (args.head?.getD "")
    else
      modify fun s => if s.loops = 0 then s else { s with flow := flow (min n s.loops) }

def killUsage : String :=
  "Usage: kill [-s sigspec | -signum | -sigspec] [pid | job]... or\nkill -l [exitstatus]"

/-- What the options before the operands of a sending say: the signal, whether signals
are to be listed, and the operands. -/
def sendOptions : Nat → Option Nat → Bool → List String →
    Except String (Option Nat × Bool × List String)
  | 0, signal, listing, args => .ok (signal, listing, args)
  | _ + 1, signal, listing, [] => .ok (signal, listing, [])
  | n + 1, signal, listing, arg :: rest =>
      match arg.toList with
      | ['-', '-'] => .ok (signal, listing, rest)
      | ['-', 'l'] => sendOptions n signal true rest
      | '-' :: 'l' :: cs => sendOptions n signal true (String.ofList ('-' :: cs) :: rest)
      | '-' :: 's' :: cs =>
          match (if cs.isEmpty then rest else String.ofList cs :: rest) with
          | [] => .error "No arg for -s option"
          | text :: rest =>
              match Signal.ofText? 1 text with
              | some signal => sendOptions n (some signal) listing rest
              | none => .error ("invalid signal number or name: " ++ text)
      | '-' :: c :: _ => .error ("Illegal option -" ++ c.toString)
      | _ => .ok (signal, listing, arg :: rest)

/-- Lists the names of signals, or that of one by its number or the status that it
gives. -/
def listSignals (args : List String) : Act Unit := do
  match args with
  | [] =>
      let names := (List.range Signal.greatest).map fun n => Signal.name (n + 1)
      emit 1 (Text.joinWith "\n" ("0" :: names) ++ "\n")
  | arg :: _ =>
      match count? arg with
      | none => raiseNumber arg
      | some n =>
          let signal := if 128 < n then n - 128 else n
          if 0 < signal ∧ signal ≤ Signal.greatest then printLine (Signal.name signal)
          else raise ("invalid signal number or exit status: " ++ arg)

def missing : Act Unit := do
  warn "No such process\n"
  setStatus 1

def sendTo (signal process : Nat) : Act Unit := do
  let m ← Routine.machine
  if !m.hasProcess process && !m.hasChild process then missing
  else if signal != 0 then
    Routine.changeMachine (·.send process signal)
    rest

def sendToArgument (signal : Nat) (arg : String) : Act Unit := do
  match arg.toList with
  | '%' :: _ => if let some _ ← jobOf arg then missing
  | '-' :: digits =>
      match count? (String.ofList digits) with
      | some _ => missing
      | none => raiseNumber (String.ofList digits)
  | _ =>
      match count? arg with
      | some process => sendTo signal process
      | none => raiseNumber arg

def killCommand (args : List String) : Act Unit := do
  setStatus 0
  let direct? := match args with
    | first :: rest =>
        match first.toList with
        | '-' :: text => (Signal.ofText? 1 (String.ofList text)).map (·, rest)
        | _ => none
    | [] => none
  let parsed : Except String (Option Nat × Bool × List String) := match direct? with
    | some (signal, rest) => .ok (some signal, false, rest)
    | none => sendOptions (2 * args.length + 1) none false args
  match parsed with
  | .error message => raise message
  | .ok (none, true, operands) => listSignals operands
  | .ok (some _, true, _) | .ok (_, false, []) => raise killUsage
  | .ok (signal?, false, operands) => eachArgument (sendToArgument (signal?.getD 15)) operands

end Shell
end Script
end LineShell
