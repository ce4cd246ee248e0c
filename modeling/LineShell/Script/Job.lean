import LineShell.Script.Shell

/-!
# Jobs

A script may run a part of itself in a process of its own, which begins as a copy of it.
Processes that were started together are a job; the script learns of their ends when it
waits for them, and between its commands.
-/

namespace LineShell
namespace Script

namespace Job

def note (j : Job) (process : Nat) (e : Ending) : Job :=
  { j with
    members := j.members.map fun m =>
      if m.process = process then { m with ending := some e } else m }

def isDone (j : Job) : Bool :=
  j.members.all (·.ending.isSome)

/-- How the job ended: as its last process did. -/
def ending (j : Job) : Ending :=
  (j.members.getLast?.bind (·.ending)).getD ⟨0, none⟩

/-- Whether a new job may take the place of this one. -/
def isSpent (j : Job) : Bool :=
  j.isDone && j.waited

end Job

namespace Shell

def ending (s : Shell) : Ending :=
  ⟨s.status % 256, none⟩

def hasTraps (s : Shell) : Bool :=
  s.traps.any (·.2 != "")

/-- The script as a process of its own begins: it keeps of the traps only those that ignore
a signal, and has no jobs. -/
def copied (s : Shell) : Shell :=
  { s with
    traps := s.traps.filter (·.2 == "")
    isCopy := true
    jobs := []
    isLast := true }

/-- Starts a copy of the script, with a change of it, in a process of its own, which ends
with a step: the number of the process. -/
def fork (change : Shell → Shell) (act : Act Unit) : Act Nat := fun k s =>
  let here := s.machine.world.here
  let (child, m) := s.machine.addProcess s.self
  let s := { s with machine := Machine.idle }
  let copy := change { s.copied with self := child }
  .forking m child (OnMachine.footprint copy)
    (fun m => act (fun _ s => .ended s.machine s.ending) { copy with machine := m.moveTo here })
    (fun m => k child { s with machine := m.moveTo here })

/-- Makes processes a job: its number, which is the least one that is free. -/
def addJob (processes : List Nat) : Act Nat :=
  modifyGet fun s =>
    let isFree := fun (n : Nat) => s.jobs.all fun j => j.number != n || j.isSpent
    let number := ((List.range s.jobs.length).map (· + 1)).find? isFree |>.getD (s.jobs.length + 1)
    let job : Job := { number := number, members := processes.map fun p => { process := p } }
    (number, { s with jobs := job :: s.jobs.filter (·.number != number) })

def job? (s : Shell) (number : Nat) : Option Job :=
  s.jobs.find? (·.number == number)

def dropJob (number : Nat) : Act Unit :=
  modify fun s => { s with jobs := s.jobs.filter (·.number != number) }

/-- Learns of the end of a process, if one ended; says whether one did.  A signal that ended
a process of the job that is waited for is reported. -/
def learn (awaited : Option Nat) : Act Bool := do
  match (← Routine.machine).endedChild? (← get).self with
  | none => return false
  | some (process, e) =>
      modify fun s =>
        { s with
          machine := s.machine.forget process
          jobs := s.jobs.map (·.note process e) }
      let s ← get
      let isAwaited := (awaited.bind s.job?).any (·.members.any (·.process == process))
      match e.signal with
      | some signal =>
          if isAwaited && !Signal.isSilent signal then
            emit 2 (Signal.description signal ++ "\n")
      | none => pure ()
      return true

def learnAll (awaited : Option Nat) : Nat → Act Unit
  | 0 => pure ()
  | n + 1 => do if ← learn awaited then learnAll awaited n

def catchUp : Act Unit := do
  let table := (← get).machine.table
  if 1 < table.length then learnAll none table.length

def isCalled (s : Shell) : Bool :=
  s.machine.signals.any (·.1 == s.self)

/-- Waits until a job ended, or all processes did, in at most so many steps; says whether no
signal came first. -/
def awaitWithin (interruptible : Bool) (awaited : Option Nat) : Nat → Act Bool
  | 0 => pure true
  | n + 1 => do
      let s ← get
      if (awaited.bind s.job?).any (·.isDone) then
        learnAll awaited s.machine.table.length
        return true
      else if ← learn awaited then awaitWithin interruptible awaited n
      else if !s.machine.hasChild s.self then return true
      else if interruptible && s.isCalled then return false
      else
        Routine.pause (.child interruptible)
        awaitWithin interruptible awaited n

def await (interruptible : Bool) (awaited : Option Nat) : Act Bool := do
  awaitWithin interruptible awaited (3 * (← get).machine.table.length + 3)

/-- Waits for processes that were just started, and takes over how the last one ended. -/
def attendTo (processes : List Nat) : Act Unit := do
  let number ← addJob processes
  let _ ← await false (some number)
  let s ← get
  setStatus ((s.job? number).elim 0 (·.ending.status))
  dropJob number

end Shell
end Script
end LineShell
