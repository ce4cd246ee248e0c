import LineShell.Script.Builtin.Variables
import LineShell.Script.Job

/-!
# Commands on jobs

Listing the jobs of a script and waiting for their ends.
-/

namespace LineShell
namespace Script
namespace Shell

/-- The job that an argument names by its number, or as the last one or the one before it. -/
def jobOf (arg : String) : Act (Option Job) := do
  let s ← get
  let found (missing : String) (job? : Option Job) : Act (Option Job) := do
    if job?.isNone then raise missing
    return job?
  match arg.toList with
  | ['%'] | ['%', '%'] | ['%', '+'] => found "No current job" s.jobs.head?
  | ['%', '-'] => found "No previous job" s.jobs[1]?
  | '%' :: digits =>
      found ("No such job: " ++ arg) ((count? (String.ofList digits)).bind s.job?)
  | _ => found ("No such job: " ++ arg) none

def jobState (j : Job) : String :=
  if !j.isDone then "Running"
  else
    match j.ending.signal, j.ending.status with
    | some signal, _ => Signal.description signal
    | none, 0 => "Done"
    | none, n => "Done(" ++ toString n ++ ")"

inductive JobDetail where
  | state
  | processes
  | first
deriving DecidableEq, Repr, Inhabited

def jobLines (s : Shell) (detail : JobDetail) (j : Job) : String :=
  let padded := fun (text : String) (width : Nat) =>
    text ++ String.ofList (List.replicate (max 1 (33 - width)) ' ')
  let mark :=
    if s.jobs.head? == some j then "+" else if s.jobs[1]? == some j then "-" else " "
  let lead := "[" ++ toString j.number ++ "] " ++ mark ++ " "
  let shown := fun (m : Member) => toString m.process ++ " "
  match detail, j.members with
  | .first, members => Text.joinWith "" ((members.take 1).map fun m => toString m.process ++ "\n")
  | .state, members =>
      let text := lead ++ jobState j
      padded text text.length ++ Text.replicate (members.length - 1) " | " ++ "\n"
  | .processes, members =>
      let text := lead ++ Text.joinWith "" ((members.take 1).map shown) ++ jobState j
      padded text text.length ++ Text.joinWith "" ((members.drop 1).map fun m =>
        let text := String.ofList (List.replicate lead.length ' ') ++ shown m
        " |\n" ++ padded text text.length) ++ "\n"

/-- Lists a job, which is forgotten if it ended. -/
def listJob (detail : JobDetail) (j : Job) : Act Unit := do
  emit 1 (jobLines (← get) detail j)
  if j.isDone && detail != .first then dropJob j.number

def listJobs (args : List String) : Act Unit :=
  withOptions ['l', 'p'] args fun options names => do
    setStatus 0
    let detail := match options.getLast? with
      | none => JobDetail.state
      | some 'l' => .processes
      | some _ => .first
    if names.isEmpty then
      catchUp
      (← get).jobs.forM (listJob detail)
    else eachArgument (fun name => do if let some j ← jobOf name then listJob detail j) names

def foregroundCommand (args : List String) : Act Unit :=
  withOptions [] args fun _ operands => do
    if let some _ ← jobOf (operands.head?.getD "%%") then
      let shown := operands.head?.getD "(null)"
      raise ("job " ++ shown ++ " not created under job control")

def markWaited (test : Job → Bool) : Act Unit :=
  modify fun s =>
    { s with
      jobs := s.jobs.map fun j => if test j && j.isDone then { j with waited := true } else j }

def stopWaiting : Act Unit :=
  modify fun s =>
    let called := s.machine.signals.filter (·.1 == s.self)
    { s with status := Signal.status (called.getLast?.elim 0 (·.2)) }

def waitForAll : Nat → Act Unit
  | 0 => pure ()
  | n + 1 => do
      markWaited fun _ => true
      if (← get).jobs.any (!·.isDone) then
        if ← await true none then waitForAll n else stopWaiting

def waitForEach : List String → Act Unit
  | [] => pure ()
  | arg :: rest => do
      let job? ←
        if Text.startsWith arg "%" then jobOf arg
        else
          match count? arg with
          | none => do
              raiseNumber arg
              pure none
          | some process => do
              let isLast := fun (j : Job) => (j.members.getLast?.map (·.process)) == some process
              pure ((← get).jobs.find? isLast)
      if ← going then
        match job? with
        | none => waitForEach rest
        | some job =>
            if ← await true (some job.number) then
              markWaited (·.number == job.number)
              let s ← get
              setStatus ((s.job? job.number).elim 0 (·.ending.status))
              waitForEach rest
            else stopWaiting

def waitCommand (args : List String) : Act Unit :=
  withOptions [] args fun _ targets => do
    if targets.isEmpty then
      setStatus 0
      waitForAll ((← get).jobs.length + 1)
    else
      setStatus 127
      waitForEach targets

end Shell
end Script
end LineShell
