import LineShell.Script.Machine
import LineShell.Script.Signal

/-!
# Processes as tasks

A process runs on the machine until it has to wait, starts another one, takes on another
program or ends.  A task is a process at such a point: what it left of the machine, what it
waits for, and how it goes on once it is given the machine again.  A routine is a step of a
process that may wait in its midst.
-/

namespace LineShell
namespace Script

inductive Need where
  | turn
  /-- Bytes in a pipe, or the end of those who write to it; a signal may come first. -/
  | input (channel : Nat) (interruptible : Bool)
  /-- Room in a pipe for some out of so many bytes, or the end of those who read from it. -/
  | room (channel count : Nat)
  /-- The end of a process that it started; a signal may come first. -/
  | child (interruptible : Bool)
deriving DecidableEq, Repr, Inhabited

structure Footprint where
  held : List Descriptors
  /-- The signals for which something is set. -/
  trapped : List Nat := []
  /-- The signals that do nothing to it. -/
  ignored : List Nat := []

/-- A process at a point where others may run. -/
inductive Task where
  | ended (machine : Machine) (ending : Ending)
  | waiting (machine : Machine) (footprint : Footprint) (need : Need) (resume : Machine → Task)
  | forking (machine : Machine) (child : Nat) (footprint : Footprint)
      (start resume : Machine → Task)
  | executing (machine : Machine) (path : String) (process : Process)
      (refused : SystemError → Machine → Task)

class OnMachine (σ : Type) where
  machine : σ → Machine
  put : Machine → σ → σ
  footprint : σ → Footprint

/-- A step of a process: what is left to do, given its result and the state after it, makes
it a task. -/
def Routine (σ α : Type) : Type :=
  (α → σ → Task) → σ → Task

namespace Routine

@[always_inline, inline]
instance {σ : Type} : Monad (Routine σ) where
  pure a := fun k s => k a s
  bind x f := fun k s => x (fun a s => f a k s) s

@[always_inline, inline]
instance {σ : Type} : MonadStateOf σ (Routine σ) where
  get := fun k s => k s s
  set s := fun k _ => k () s
  modifyGet f := fun k s =>
    match f s with
    | (a, s) => k a s

inductive Written where
  | done
  | refused
  /-- Nobody is left to read. -/
  | broken
deriving DecidableEq, Repr, Inhabited

@[inline] def machine {σ : Type} [OnMachine σ] : Routine σ Machine := fun k s =>
  k (OnMachine.machine s) s

@[inline] def changeMachine {σ : Type} [OnMachine σ] (f : Machine → Machine) : Routine σ Unit :=
  fun k s =>
    let m := OnMachine.machine s
    k () (OnMachine.put (f m) (OnMachine.put Machine.idle s))

/-- Goes on with a state in the same directory, once the machine is given back. -/
@[inline] def whenBack {σ : Type} [OnMachine σ] (go : σ → Task) (s : σ) : Machine → Task :=
  let here := (OnMachine.machine s).world.here
  let s := OnMachine.put Machine.idle s
  fun m => go (OnMachine.put (m.moveTo here) s)

def pause {σ : Type} [OnMachine σ] (need : Need) : Routine σ Unit := fun k s =>
  .waiting (OnMachine.machine s) (OnMachine.footprint s) need (whenBack (k ()) s)

/-- Takes on another program, which comes back only if it is refused. -/
def execute {σ : Type} [OnMachine σ] (path : String) (p : Process) : Routine σ SystemError :=
  fun k s =>
    let here := (OnMachine.machine s).world.here
    let away := OnMachine.put Machine.idle s
    .executing (OnMachine.machine s) path p fun e m => k e (OnMachine.put (m.moveTo here) away)

/-- Writes bytes to a pipe, in at most so many pieces.  Where nobody is left to read, a
signal comes first. -/
def writePipe {σ : Type} [OnMachine σ] (channel number : Nat) :
    Nat → List UInt8 → Routine σ Written
  | 0, _ => pure .done
  | n + 1, bytes => do
      pause (.room channel bytes.length)
      let m ← machine
      if (m.pipe number).broken then
        changeMachine fun m => m.send m.running Signal.brokenPipe
        pause .turn
        return .broken
      let count := (m.pipe number).room bytes.length
      changeMachine (·.modifyPipe number (·.push (bytes.take count)))
      if count < bytes.length then writePipe channel number n (bytes.drop count) else return .done

def write {σ : Type} [OnMachine σ] (channel : Nat) (bytes : List UInt8) :
    Routine σ Written := do
  let m ← machine
  if bytes.isEmpty then return .done
  else if !m.isWritable channel then return .refused
  else
    match m.pipeOf? channel with
    | some number => writePipe channel number (bytes.length + 1) bytes
    | none =>
        changeMachine (·.write channel bytes)
        return .done

/-- Reads a portion from a channel once there are bytes; none at its end. -/
def read {σ : Type} [OnMachine σ] (channel : Nat) (interruptible : Bool)
    (portion : Portion) : Routine σ (Except SystemError (List UInt8)) := do
  let m ← machine
  if (m.pipeOf? channel).isSome && m.channels[channel]?.any (·.access.reads) then
    pause (.input channel interruptible)
  fun k s =>
    match (OnMachine.machine s).read channel portion with
    | .ok (bytes, m) => k (.ok bytes) (OnMachine.put m s)
    | .error e => k (.error e) s

end Routine
end Script
end LineShell
