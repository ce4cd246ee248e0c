import LineShell.Script.Builtin.Control
import LineShell.Script.Builtin.Names
import LineShell.Script.Tilde

/-!
# Scripts and processes

A part of a script may run in a copy of it, and a process may take on a program in the
place of the script.  What they change is left in the machine, and the script learns how
they ended.
-/

namespace LineShell
namespace Script
namespace Shell

/-- Runs a step that is the last one of its process only if it was so before and may
stay so. -/
def keepingLast (keep : Bool) (act : Act Unit) : Act Unit := do
  if keep || !(← get).isLast then act
  else
    modify fun s => { s with isLast := false }
    act
    modify fun s => { s with isLast := true }

/-- Runs a step in which failures end nothing, if asked for. -/
def shielded (shield : Bool) (act : Act Unit) : Act Unit := do
  if !shield || (← get).guarded then act
  else
    modify fun s => { s with guarded := true }
    act
    modify fun s => { s with guarded := false }

/-- Runs a step whose failure ends the script, if the script asks for it. -/
def checked (act : Act Unit) : Act Unit := do
  let isGuarded := (← get).guarded
  act
  unless isGuarded do
    modify fun s =>
      if s.hasOption 'e' && s.status != 0 && s.flow == .go then { s with flow := .exit } else s

def inLoop (act : Act Unit) : Act Unit := do
  modify fun s => { s with loops := s.loops + 1 }
  keepingLast false act
  modify fun s => { s with loops := s.loops - 1 }

def endTurn : Act Bool := do
  let s ← get
  match s.flow with
  | .go => return true
  | .leave n =>
      set { s with flow := if n ≤ 1 then .go else .leave (n - 1) }
      return false
  | .again n =>
      set { s with flow := if n ≤ 1 then .go else .again (n - 1) }
      return decide (n ≤ 1)
  | _ => return false

def reserving (saved : Descriptors) : Act Unit :=
  modify fun s => { s with reserve := saved :: s.reserve }

/-- Leads descriptors back to where they led before, as it was kept in reserve. -/
def restoreDescriptors (saved : Descriptors) (fds : List Nat) : Act Unit :=
  modify fun s =>
    { s with
      reserve := s.reserve.drop 1
      descriptors := fds.foldl
        (fun ds fd =>
          match saved.channel? fd with
          | some c => ds.set fd c
          | none => ds.close fd)
        s.descriptors }

def openFailure (reading : Bool) (path : String) (e : SystemError) : String :=
  let isMissing := e == .notFound || e == .notADirectory
  if reading then
    "cannot open " ++ path ++ ": " ++ (if isMissing then "No such file" else e.description)
  else
    "cannot create " ++ path ++ ": " ++
      (if isMissing then "Directory nonexistent" else e.description)

def accessOf : RedirOp → Access
  | .output | .overwrite => .truncate
  | .append => .append
  | .readWrite => .readWrite
  | _ => .read

/-- Leads a descriptor to the target of a redirect, or says why it cannot be done. -/
def redirected (s : Shell) (r : Redir String) : Except String Shell :=
  match r.op with
  | .document =>
      let (c, m) := s.machine.openChannel (.source (Text.bytesOfRaw r.target)) .read
      .ok { s with machine := m, descriptors := s.descriptors.set r.fd c }
  | .duplicate =>
      if r.target = "-" then .ok { s with descriptors := s.descriptors.close r.fd }
      else
        match s.descriptors.channel? (Text.digitsValue r.target.toList) with
        | some c => .ok { s with descriptors := s.descriptors.set r.fd c }
        | none => .error (r.target ++ ": Bad file descriptor")
  | op =>
      let exclusive := op == .output && s.hasOption 'C'
      match s.machine.openFile s.descriptors r.target (accessOf op) s.mask exclusive with
      | .ok (c, m) => .ok { s with machine := m, descriptors := s.descriptors.set r.fd c }
      | .error e => .error (openFailure (op == .input) r.target e)

/-- Opens redirects; says whether all could be opened. -/
def redirect : List (Redir String) → Act Bool
  | [] => pure true
  | r :: rest => do
      match (← get).redirected r with
      | .ok s =>
          set s
          redirect rest
      | .error message =>
          complain message 2
          return false

def interpreterPath : String := "/bin/sh"

/-- Takes on the first of some program files that can be, given the failure to report if none
can; comes back only with that.  A file that is no program is taken as a script. -/
def become (p : Process) : SystemError → List String → Act SystemError
  | failure, [] => pure failure
  | failure, path :: rest => do
      match ← Routine.execute path p with
      | .execFormat =>
          Routine.execute interpreterPath
            { p with args := interpreterPath :: path :: p.args.drop 1 }
      | e => become p (if e = .notFound ∨ e = .notADirectory then failure else e) rest

def refuse (name : String) (e : SystemError) (status : Nat) : Act Unit :=
  complain (name ++ ": " ++ (if e = .notFound then "not found" else e.description)) status

def refusalStatus (e : SystemError) : Nat :=
  if e = .notFound ∨ e = .notADirectory ∨ e = .tooManyLinks ∨ e = .nameTooLong then 127 else 126

def processOf (s : Shell) (words : List String) : Process where
  args := words
  environment := s.environment
  descriptors := s.descriptors
  mask := s.mask
  ignored := (OnMachine.footprint s).ignored

/-- Puts a program from one of some files in the place of the script, which ends if none can
be taken on. -/
def becomeProgram (name : String) (args files : List String) : Act Unit := do
  let e ← become ((← get).processOf (name :: args)) .notFound files
  refuse name e (refusalStatus e)
  modify fun s => { s with flow := .exit }

/-- Runs a step in a process of its own and waits for its end, unless the script itself need
not go on after it. -/
def aside (act : Act Unit) : Act Unit := do
  let s ← get
  if s.isLast && !s.hasTraps then
    modify copied
    act
    modify fun s => { s with flow := .exit }
  else attendTo [← fork id act]

def runProgram (search name : String) (args : List String) : Act Unit := do
  match (← get).pathsOf search name with
  | .error e => refuse name e 127
  | .ok files =>
      if let path :: _ := files then locate name path
      aside (becomeProgram name args files)

/-- Remembers where the program of a command is, if its name is plain. -/
def locateFirst : Cmd → Act Unit
  | .simple _ _ (w :: _) _ => do
      let s ← get
      match plain? w with
      | some name =>
          match s.commandKind s.search name with
          | .program path _ => locate name path
          | _ => pure ()
      | none => pure ()
  | _ => pure ()

def trace (descriptors : Descriptors) (lead : String) (words : List String) : Act Unit := do
  if let some errors := descriptors.channel? 2 then
    let line := lead ++ Text.joinWith " " words ++ "\n"
    let _ ← Routine.write errors (Text.bytesOfRaw line)

end Shell
end Script
end LineShell
