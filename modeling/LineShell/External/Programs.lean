import LineShell.External.Concatenate
import LineShell.External.Interpreter
import LineShell.Script.Run
import LineShell.Script.Schedule

/-!
# Carrying out programs

An executable file is one of the system's own programs, or a text whose first
line names the program that interprets it.
-/

namespace LineShell
namespace External

open Script

def stepLimit : Nat := 100000000

/-- The number of files that may be read to find the program that runs a file. -/
def interpreterLimit : Nat := 6

/-- The directory in which a shell starts, as it knows it: the name that the
environment gives to it, or its place in the tree, if it was not removed. -/
def startName? (m : Machine) (environment : Table String) : Option String :=
  match environment.get? "PWD" with
  | some name =>
      match m.world.find .follow (Text.ofRaw name) with
      | .ok (loc, _) =>
          if Path.isAbsolute name && loc == m.world.here then some name else placeOf? m
      | .error _ => placeOf? m
  | none => placeOf? m

def startVariables (environment : Table String) (parent : Nat) (directory : String) :
    Table Variable :=
  let given := environment.entries.filterMap fun e =>
    if isName e.1 then some (e.1, ({ value := some e.2, exported := true } : Variable)) else none
  let usual := [("PATH", usualSearch), ("PS1", "# "), ("PS2", "> "), ("PS4", "+ ")]
  let fixed := [("IFS", Shell.usualSeparators), ("OPTIND", "1"), ("PPID", toString parent)]
  let own := fun (e : String × String) => (e.1, ({ value := some e.2 } : Variable))
  let table := Table.ofList (usual.map own ++ given)
  let table := fixed.foldl
    (fun table e =>
      table.insert e.1 { (table.get? e.1).getD {} with value := some e.2 })
    table
  table.insert "PWD" { value := some directory, exported := true }

def newShell (m : Machine) (p : Process) (zero : String) : Shell :=
  let directory := (startName? m p.environment).getD ""
  { zero := zero
    args := []
    vars := startVariables p.environment ((m.parentOf m.running).getD 0) directory
    descriptors := p.descriptors
    directory := directory
    mask := p.mask
    ignored := p.ignored
    process := m.running
    self := m.running
    machine := m }

structure Request where
  command : Bool := false
  operands : List String := []

/-- Switches the options of a shell, within a number of arguments.  One of them asks for
a command. -/
def startOptions : Nat → Request → List String → Act Request
  | 0, r, args => pure { r with operands := args }
  | _ + 1, r, [] => pure r
  | n + 1, r, arg :: rest => do
      match arg.toList with
      | ['-'] | ['-', '-'] => return { r with operands := rest }
      | [] => return { r with operands := arg :: rest }
      | sign :: letters =>
          if sign = '-' ∨ sign = '+' then
            let isOwn := fun (c : Char) => c == 'c' || c == 'l'
            let rest ← Shell.switchLetters (sign == '-') (letters.filter (!isOwn ·)) rest
            let r := { r with command := r.command || letters.contains 'c' }
            if ← Shell.going then startOptions n r rest else return r
          else return { r with operands := arg :: rest }

def runWhole (origin : Origin) (text : String) : Act Unit :=
  runLines stepLimit origin false { rest := text.toList }

def runInput : Act Unit := do
  if let some channel := (← get).descriptors.channel? 0 then
    runWhole (.channel channel true) ""

def runScript (file : String) (args : List String) : Act Unit := do
  let s ← get
  match s.machine.openFile s.descriptors file .read 0 false with
  | .error e => Shell.raise (Shell.openFailure true file e)
  | .ok (channel, m) =>
      set { s with machine := m, zero := file, args := args }
      Shell.dropJobControl
      runWhole (.channel channel true) ""

/-- Runs what the arguments of a shell ask for: a command line, a file, or the input. -/
def runRequest (r : Request) : Act Unit := do
  let s ← get
  match r.command, s.hasOption 's', r.operands with
  | true, _, [] => Shell.raise "-c requires an argument"
  | true, isInput, text :: rest =>
      set { s with zero := rest.head?.getD s.zero, args := rest.drop 1 }
      Shell.dropJobControl
      runWhole .value text
      if isInput && (← Shell.going) then runInput
  | false, false, file :: args => runScript file args
  | false, _, operands =>
      let _ ← Shell.switchOption true 's'
      modify fun s => { s with args := operands }
      Shell.dropJobControl
      runInput

def startShell (p : Process) (m : Machine) : Task :=
  let act : Act Unit := do
    if (← get).directory = "" then
      Shell.emit 2 ("sh: 0: getcwd() failed: " ++ SystemError.notFound.description ++ "\n")
    let args := p.args.drop 1
    modify fun s => { s with undecided := Shell.namedOptions.map (·.2) }
    let r ← startOptions (args.length + 1) {} args
    modify fun s => { s with undecided := [] }
    if ← Shell.going then runRequest r
    endProcess stepLimit
  act (fun _ s => .ended s.machine s.ending) (newShell m p (p.args.head?.getD "sh"))

def programAt (w : World) (path : String) : Except SystemError Node := do
  if path = "" then .error .permissionDenied
  else
    match ← w.find .follow (Text.ofRaw path) with
    | (_, node) => if node.isExecutable then .ok node else .error .permissionDenied

/-- The greatest number of bytes of an argument, with the one that ends it. -/
def argumentLimit : Nat := 131072

def argumentsLimit : Nat := 2097152

/-- Whether the texts that a program is started with, and a mark for the place of each, fit
into what is there for them. -/
def fitsArguments (path : String) (p : Process) : Bool :=
  let texts := p.args ++ p.environment.entries.map fun e => e.1 ++ "=" ++ e.2
  let sizes := texts.map (·.length + 1)
  sizes.all (· ≤ argumentLimit) &&
    decide (path.length + 1 + sizes.foldl (· + ·) (8 * sizes.length) ≤ argumentsLimit)

/-- Takes on a program file, after at most so many files that name their interpreters. -/
def carryOutWithin : Nat → Execute
  | 0 => fun m path _ => do
      let _ ← programAt m.world path
      .error .tooManyLinks
  | n + 1 => fun m path p => do
      match ← programAt m.world path with
      | .program .shell => .ok (startShell p)
      | .program .cat => .ok (Concatenate.start p)
      | .file content _ =>
          match Interpreter.ofContent? content with
          | none => .error .execFormat
          | some i =>
              carryOutWithin n m i.name
                { p with args := i.name :: i.argument.toList ++ path :: p.args.drop 1 }
      | _ => .error .permissionDenied

def carryOut : Execute := fun m path p => do
  let _ ← programAt m.world path
  if fitsArguments path p then carryOutWithin interpreterLimit m path p
  else .error .argumentsTooLong

end External
end LineShell
