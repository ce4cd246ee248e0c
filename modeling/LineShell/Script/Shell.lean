import LineShell.Script.Parser
import LineShell.Script.Pattern
import LineShell.Script.Task
import LineShell.Script.Printf
import LineShell.Script.Condition

/-!
# The state of a running script

Variables, positional parameters, functions, aliases, options and descriptors, and the
steps that read and change them.  All texts are raw: they have a character for each
byte.
-/

namespace LineShell
namespace Script

inductive Flow where
  | go
  | exit
  /-- A failure ends the script, unless someone around catches it. -/
  | fault
  | leave (levels : Nat)
  | again (levels : Nat)
  | back
deriving DecidableEq, Repr, Inhabited

/-- A variable; one that is only marked has no value. -/
structure Variable where
  value : Option String := none
  exported : Bool := false
  readOnly : Bool := false
deriving DecidableEq, Repr, Inhabited

structure Member where
  process : Nat
  ending : Option Ending := none
deriving DecidableEq, Repr, Inhabited

structure Job where
  number : Nat
  members : List Member
  waited : Bool := false
deriving DecidableEq, Repr, Inhabited

/-- What a running script knows, without the machine on which it runs. -/
structure Context where
  zero : String
  args : List String
  vars : Table Variable
  functions : List (String × Cmd) := []
  aliases : List (String × String) := []
  /-- The programs that were found along the search path, and where. -/
  located : List (String × String) := []
  documents : Array Word := #[]
  descriptors : Descriptors
  /-- What is held besides: the descriptors as they were before the redirects at hand, and
  the pipes that are being read. -/
  reserve : List Descriptors := []
  directory : String
  line : Nat := 0
  /-- The command that messages name, if it is one of the script's own. -/
  speaker : Option String := none
  status : Nat := 0
  flow : Flow := .go
  options : List Char := []
  /-- The letters of the options that no argument of the shell has set so far, while it
  starts; they are listed as if they were on. -/
  undecided : List Char := []
  /-- Whether a failure is looked at and ends nothing. -/
  guarded : Bool := false
  /-- What runs when a signal comes, or at the end. -/
  traps : List (Nat × String) := []
  /-- The signals that did nothing from the start, for which nothing can be set. -/
  ignored : List Nat := []
  /-- The variables from before the function at hand, for those of its own. -/
  shadowed : Option (List (String × Option Variable)) := none
  loops : Nat := 0
  mask : Nat
  /-- Where the reading of options stands: the number of the next argument, and the
  place in the one before it. -/
  optionIndex : Nat := 1
  optionOffset : Option Nat := none
  /-- The process of the script that was started. -/
  process : Nat
  /-- The process of this copy of it. -/
  self : Nat
  /-- Whether this is a copy of the script that was started. -/
  isCopy : Bool := false
  /-- The jobs of this process, the last one first. -/
  jobs : List Job := []
  /-- The process that was last started in the background. -/
  lastJob : Option Nat := none
  /-- The status of the last command substitution in the words at hand. -/
  substituted : Option Nat := none
  /-- The status from before the trap at hand. -/
  trapped : Option Nat := none
  /-- Whether output of the command at hand went nowhere. -/
  lost : Bool := false
  /-- Whether the command at hand is the last one of its process. -/
  isLast : Bool := false

structure Shell extends Context where
  machine : Machine

instance : OnMachine Shell where
  machine := (·.machine)
  put m s := { s with machine := m }
  footprint s :=
    { held := s.descriptors :: s.reserve
      trapped := s.traps.filterMap fun t =>
        if t.2 = "" || s.ignored.contains t.1 then none else some t.1
      ignored := s.ignored ++ s.traps.filterMap fun t => if t.2 = "" then some t.1 else none }

abbrev Act := Routine Shell

namespace Shell

def usualSeparators : String := " \t\n"

def hasOption (s : Shell) (letter : Char) : Bool :=
  s.options.contains letter

def get? (s : Shell) (name : String) : Option String :=
  (s.vars.get? name).bind (·.value)

def separators (s : Shell) : List Char :=
  ((s.get? "IFS").getD usualSeparators).toList

/-- What stands between the positional parameters when they are joined. -/
def joint (s : Shell) : String :=
  match s.get? "IFS" with
  | none => " "
  | some ifs => String.ofList (ifs.toList.take 1)

/-- The letters of the options in the order in which they are shown. -/
def optionOrder : List Char :=
  ['p', 'u', 'b', 'a', 'C', 'E', 'V', 'v', 'x', 's', 'n', 'm', 'i', 'I', 'f', 'e']

def parameter? (s : Shell) (name : String) : Option String :=
  match name.toList with
  | ['#'] => some (toString s.args.length)
  | ['?'] => some (toString s.status)
  | ['$'] => some (toString s.process)
  | ['-'] => some (String.ofList (optionOrder.filter s.hasOption))
  | ['!'] => s.lastJob.map toString
  | cs =>
      if !cs.isEmpty && cs.all Char.isDigit then
        match Text.digitsValue cs with
        | 0 => some s.zero
        | n + 1 => s.args[n]?
      else s.get? name

def environment (s : Shell) : Table String :=
  Table.ofList (s.vars.entries.filterMap fun e =>
    match e.2 with
    | ⟨some value, true, _⟩ => some (e.1, value)
    | _ => none)

def setStatus (n : Nat) : Act Unit :=
  modify fun s => { s with status := n }

/-- Writes bytes to a descriptor; what its output loses is remembered. -/
def emitBytes (fd : Nat) (bytes : List UInt8) : Act Unit := do
  let written ← match (← get).descriptors.channel? fd with
    | some channel => Routine.write channel bytes
    | none => pure .refused
  if fd = 1 && written != .done then modify fun s => { s with lost := true }

def emit (fd : Nat) (text : String) : Act Unit :=
  if text = "" then pure () else emitBytes fd (Text.bytesOfRaw text)

def printLine (text : String) : Act Unit :=
  emit 1 (text ++ "\n")

/-- Writes a message with the name of the script, the line and the command. -/
def warn (message : String) : Act Unit := do
  let s ← get
  let speaker := s.speaker.elim "" (· ++ ": ")
  emit 2 (s.zero ++ ": " ++ toString s.line ++ ": " ++ speaker ++ message ++ "\n")

def complain (message : String) (status : Nat) : Act Unit := do
  warn message
  setStatus status

/-- Reports a failure that ends the script, unless someone around catches it. -/
def raise (message : String) : Act Unit := do
  complain message 2
  modify fun s => { s with flow := .fault }

/-- Whether nothing asks to leave the commands at hand. -/
def going : Act Bool := do
  return (← get).flow == .go

/-- Reads from a descriptor; nothing comes from one that cannot be read. -/
def readFrom (fd : Nat) (portion : Portion) : Act (List UInt8) := do
  match (← get).descriptors.channel? fd with
  | some channel => return (← Routine.read channel true portion).toOption.getD []
  | none => return []

def die {α : Type} (signal : Nat) : Act α := fun _ s =>
  .ended s.machine ⟨Signal.status signal, some signal⟩

def rest : Act Unit :=
  Routine.pause .turn

def variableOf (s : Shell) (name : String) : Variable :=
  (s.vars.get? name).getD {}

/-- Puts a variable in its place, whatever was there. -/
def putVariable (name : String) (v : Variable) : Act Unit :=
  modify fun s => { s with vars := s.vars.insert name v }

def count? (text : String) : Option Nat :=
  let cs := text.toList
  if !cs.isEmpty && cs.all Char.isDigit then some (Text.digitsValue cs) else none

def raiseNumber (text : String) : Act Unit :=
  raise ("Illegal number: " ++ text)

def resetOptions (value : String) : Act Unit :=
  match count? value with
  | some n => modify fun s => { s with optionIndex := max n 1, optionOffset := none }
  | none => raiseNumber value

/-- Sets a variable, unless its name is none or its value is fixed. -/
def setVariable (name value : String) : Act Unit := do
  let v := (← get).variableOf name
  if !isName name then raise (name ++ ": bad variable name")
  else if v.readOnly then raise (name ++ ": is read only")
  else
    if name = "OPTIND" then resetOptions value
    if ← going then
      modify fun s =>
        let exported := v.exported || s.hasOption 'a'
        { s with
          vars := s.vars.insert name { v with value := some value, exported := exported }
          located := if name = "PATH" then [] else s.located }

def setExported (name value : String) : Act Unit := do
  setVariable name value
  let s ← get
  putVariable name { s.variableOf name with exported := true }

def unsetVariable (name : String) : Act Unit := do
  if ((← get).variableOf name).readOnly then raise (name ++ ": is read only")
  else
    if name = "OPTIND" then resetOptions ""
    if ← going then
      modify fun s =>
        { s with
          vars := s.vars.erase name
          located := if name = "PATH" then [] else s.located }

def restore (saved : List (String × Option Variable)) : Act Unit :=
  modify fun s =>
    { s with
      vars := saved.foldl
        (fun vars old =>
          match old.2 with
          | some v => vars.insert old.1 v
          | none => vars.erase old.1)
        s.vars
      located := if saved.any (·.1 == "PATH") then [] else s.located }

/-- A text in quotes, from which it can be read back, within a number of rounds: single
quotes around what has none, double quotes around them. -/
def quotedWithin : Nat → List Char → String
  | 0, _ => ""
  | n + 1, cs =>
      let isQuote := (· == '\x27')
      let bare := cs.takeWhile (!isQuote ·)
      let rest := cs.dropWhile (!isQuote ·)
      let marks := rest.takeWhile isQuote
      let after := rest.dropWhile isQuote
      "\x27" ++ String.ofList bare ++ "\x27" ++
        (if marks.isEmpty then "" else "\"" ++ String.ofList marks ++ "\"") ++
        (if after.isEmpty then "" else quotedWithin n after)

def quoted (text : String) : String :=
  quotedWithin (text.length + 1) text.toList

end Shell
end Script
end LineShell
