import LineShell.Script.Task

/-!
# Carrying on with processes

The processes of a machine take turns.  One goes on until it waits for something that is not
there yet, or until it had its share of turns; the next one is the first of the others that
can go on.  A signal ends a process that waits, unless something is set for it.
-/

namespace LineShell
namespace Script

/-- Takes on a program file: how it begins, unless the system refuses it. -/
abbrev Execute := Machine → String → Process → Except SystemError (Machine → Task)

structure Paused where
  process : Nat
  footprint : Footprint
  need : Need
  resume : Machine → Task

def Channel.isEndOf (c : Channel) (number : Nat) : Bool :=
  match c.target with
  | .pipe n => n == number
  | _ => false

namespace Paused

def holds (p : Paused) (m : Machine) (kind : Channel → Bool) : Bool :=
  p.footprint.held.any fun ds => ds.any fun d => m.channels[d.2]?.any kind

end Paused

namespace Schedule

def hasWriter (m : Machine) (all : List Paused) (number : Nat) : Bool :=
  all.any (·.holds m fun c => c.isEndOf number && c.access.writes)

def hasReader (m : Machine) (all : List Paused) (number : Nat) : Bool :=
  all.any (·.holds m fun c => c.isEndOf number && c.access.reads)

def isReady (m : Machine) (all : List Paused) (p : Paused) : Bool :=
  let isCalled := fun (interruptible : Bool) =>
    interruptible && m.signals.any (·.1 == p.process)
  match p.need with
  | .turn => true
  | .input channel interruptible =>
      isCalled interruptible ||
        (match m.pipeOf? channel with
        | some number => decide (0 < (m.pipe number).size) || !hasWriter m all number
        | none => true)
  | .room channel count =>
      match m.pipeOf? channel with
      | some number => decide (0 < (m.pipe number).room count) || !hasReader m all number
      | none => true
  | .child interruptible =>
      isCalled interruptible || (m.endedChild? p.process).isSome || !m.hasChild p.process

/-- A process that goes on, given all that wait.  One that writes to a pipe learns whether
somebody can read. -/
def goOn (m : Machine) (all : List Paused) (p : Paused) : Task :=
  let m := match p.need with
    | .room channel _ =>
        match m.pipeOf? channel with
        | some number =>
            m.modifyPipe number fun pipe => { pipe with broken := !hasReader m all number }
        | none => m
    | _ => m
  p.resume { m with running := p.process }

/-- The machine after the end of a process.  The one that started it is told by a signal, if
something is set for that. -/
def finished (m : Machine) (others : List Paused) (process : Nat) (e : Ending) : Machine :=
  let isTold := fun (parent : Nat) => others.any fun p =>
    p.process == parent && p.footprint.trapped.contains Signal.childEnded
  match (m.parentOf process).filter isTold with
  | some parent => (m.finish process e).send parent Signal.childEnded
  | none => m.finish process e

def killed (m : Machine) (others : List Paused) (process signal : Nat) : Machine :=
  finished m others process ⟨Signal.status signal, some signal⟩

inductive Effect where
  | ends
  /-- Something is set for the signal, which the process will do. -/
  | stays
  | nothing
deriving DecidableEq, Repr, Inhabited

def effect (f : Footprint) (signal : Nat) : Effect :=
  if Signal.isFinal signal then .ends
  else if f.trapped.contains signal then .stays
  else if f.ignored.contains signal || !Signal.ends signal then .nothing
  else .ends

/-- The machine after the signals for a process reached it, and the signal that ends it, if
one does. -/
def reached (m : Machine) (p : Paused) : Machine × Option Nat :=
  if m.signals.isEmpty then (m, none)
  else
    let own := m.signals.filter (·.1 == p.process)
    ({ m with
        signals := m.signals.filter fun sent =>
          sent.1 != p.process || effect p.footprint sent.2 == .stays },
      (own.find? fun sent => effect p.footprint sent.2 == .ends).map (·.2))

/-- The first of some processes that can go on, and the others in their order.  The signals
for those before it reach them. -/
def pick (m : Machine) :
    List Paused → List Paused → Machine × List Paused × Option (Paused × List Paused)
  | passed, [] => (m, passed.reverse, none)
  | passed, p :: rest =>
      match reached m p with
      | (m, some signal) =>
          pick (killed m (passed ++ rest) p.process signal) passed rest
      | (m, none) =>
          let all := passed.reverse ++ p :: rest
          if isReady m all p then (m, all, some (p, passed.reverse ++ rest))
          else pick m (p :: passed) rest

/-- Goes once more through the processes that wait, for what the end of one of them
changed. -/
def next (m : Machine) (all : List Paused) :
    Machine × List Paused × Option (Paused × List Paused) :=
  match pick m [] all with
  | (m, left, none) => if left.length < all.length then pick m [] left else (m, left, none)
  | found => found

/-- The number of turns that a process has before it is another one's turn. -/
def share : Nat := 1000

/-- The number of shares that are left to processes of which nobody learns any more. -/
def lingering : Nat := 100

def spare? (isWatched : Paused → Bool) (all : List Paused) (shares : Nat) : Option Nat :=
  if all.any isWatched then some shares else if shares = 0 then none else some (shares - 1)

/-- Carries on with a process and with those that wait, within a number of steps: the machine
after all of them.  The other numbers are the shares that are left once no process is watched
any more, the turns that are left to the process at hand, and the number of that process. -/
def run (execute : Execute) (isWatched : Machine → Paused → Bool) :
    Nat → Nat → Nat → Nat → Task → List Paused → Machine
  | 0, _, _, _, .ended m _, _ | 0, _, _, _, .waiting m _ _ _, _
  | 0, _, _, _, .forking m _ _ _ _, _ | 0, _, _, _, .executing m _ _ _, _ => m
  | n + 1, shares, turns, process, .forking m child footprint start resume, others =>
      run execute isWatched n shares turns process (resume m)
        (others ++ [⟨child, footprint, .turn, start⟩])
  | n + 1, shares, turns, process, .executing m path p refused, others =>
      let m := m.synced
      match execute m path p with
      | .ok start =>
          let footprint : Footprint := { held := [p.descriptors], ignored := p.ignored }
          run execute isWatched n shares 0 process (.waiting m footprint .turn start) others
      | .error e => run execute isWatched n shares turns process (refused e m) others
  | n + 1, shares, turns, process, .waiting m footprint need resume, others =>
      let p : Paused := ⟨process, footprint, need, resume⟩
      let (m, signal?) := reached m p
      if signal?.isNone && decide (0 < turns) && isReady m (p :: others) p then
        run execute isWatched n shares (turns - 1) process (goOn m (p :: others) p) others
      else
        let (m, all, next?) := match signal? with
          | some signal => next (killed m others process signal) others
          | none => next m (others ++ [p])
        match next?, spare? (isWatched m) all shares with
        | some (p, others), some shares =>
            run execute isWatched n shares share p.process (goOn m all p) others
        | _, _ => m
  | n + 1, shares, _, process, .ended m e, others =>
      let (m, all, next?) := next (finished m others process e) others
      match next?, spare? (isWatched m) all shares with
      | some (p, others), some shares =>
          run execute isWatched n shares share p.process (goOn m all p) others
      | _, _ => m

end Schedule
end Script
end LineShell
