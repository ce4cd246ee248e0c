import LineShell.External.Shown
import LineShell.Script.Task

/-!
# Printing files

The system's program that prints files one after the other, and may number their lines
and show bytes that cannot be seen.
-/

namespace LineShell
namespace External
namespace Concatenate

open Script

structure Options where
  number : Bool := false
  numberNonblank : Bool := false
  squeeze : Bool := false
  ends : Bool := false
  tabs : Bool := false
  nonprinting : Bool := false

def Options.add? (o : Options) : Char → Option Options
  | 'A' => some { o with nonprinting := true, ends := true, tabs := true }
  | 'b' => some { o with number := true, numberNonblank := true }
  | 'e' => some { o with nonprinting := true, ends := true }
  | 'E' => some { o with ends := true }
  | 'n' => some { o with number := true }
  | 's' => some { o with squeeze := true }
  | 't' => some { o with nonprinting := true, tabs := true }
  | 'T' => some { o with tabs := true }
  | 'u' => some o
  | 'v' => some { o with nonprinting := true }
  | _ => none

def longNames : List (String × Char) :=
  [("number-nonblank", 'b'), ("number", 'n'), ("squeeze-blank", 's'), ("show-nonprinting", 'v'),
    ("show-ends", 'E'), ("show-tabs", 'T'), ("show-all", 'A')]

/-- The letter of a long option, which may be cut short, or a complaint. -/
def longOption (text : String) : Except String Char :=
  let (name, value?) := match Text.cutOnce '=' text with
    | some (name, value) => (name, some value)
    | none => (text, none)
  let found := match longNames.find? (·.1 == name) with
    | some exactly => [exactly]
    | none => longNames.filter fun e => Text.startsWith e.1 name
  match found with
  | [(full, letter)] =>
      if value?.isSome then .error ("option \x27--" ++ full ++ "\x27 doesn\x27t allow an argument")
      else .ok letter
  | [] => .error ("unrecognized option \x27--" ++ text ++ "\x27")
  | several =>
      .error ("option \x27--" ++ text ++ "\x27 is ambiguous; possibilities:" ++
        Text.joinWith "" (several.map fun e => " \x27--" ++ e.1 ++ "\x27"))

def addLetters (o : Options) : List Char → Except String Options
  | [] => .ok o
  | c :: rest =>
      match o.add? c with
      | some o => addLetters o rest
      | none => .error ("invalid option -- \x27" ++ c.toString ++ "\x27")

def readArguments : Options → List String → List String → Except String (Options × List String)
  | o, files, [] => .ok (o, files.reverse)
  | o, files, arg :: rest =>
      match arg.toList with
      | ['-', '-'] => .ok (o, files.reverse ++ rest)
      | '-' :: '-' :: name => do
          let letter ← longOption (String.ofList name)
          readArguments (← addLetters o [letter]) files rest
      | '-' :: c :: letters => do readArguments (← addLetters o (c :: letters)) files rest
      | _ => readArguments o (arg :: files) rest

/-- Where the printing stands: the number of the last line, whether a line begins, the
number of blank lines before it, and whether a carriage return was read that may be part of
the end of a line. -/
structure Place where
  line : Nat := 0
  isStart : Bool := true
  blanks : Nat := 0
  held : Bool := false

def shownByte (o : Options) (b : UInt8) : List UInt8 :=
  if b == 9 then if o.tabs then [94, 73] else [9]
  else if !o.nonprinting then [b]
  else
    let low := if b < 128 then b else b - 128
    let shown := if low < 32 then [94, low + 64] else if low == 127 then [94, 63] else [low]
    if b < 128 then shown else 77 :: 45 :: shown

def lineNumber (n : Nat) : List UInt8 :=
  Text.encode (Text.padStart 6 ' ' (toString n) ++ "\t")

def lineEnd (o : Options) : List UInt8 :=
  if o.ends then [36, 10] else [10]

/-- What is shown of bytes, in reverse order, and where the printing stands after them. -/
def shownBytes (o : Options) : Place → List UInt8 → List UInt8 → List UInt8 × Place
  | p, shown, [] => (shown, p)
  | p, shown, b :: rest =>
      if b == 10 then
        if !p.isStart then
          shownBytes o { p with isStart := true, blanks := 0 } ((lineEnd o).reverse ++ shown) rest
        else if o.squeeze && decide (0 < p.blanks) then shownBytes o p shown rest
        else
          let numbered := o.number && !o.numberNonblank
          let lead := if numbered then lineNumber (p.line + 1) else []
          shownBytes o
            { p with line := if numbered then p.line + 1 else p.line, blanks := p.blanks + 1 }
            ((lead ++ lineEnd o).reverse ++ shown) rest
      else if b == 13 && o.ends && rest.isEmpty then (shown, { p with held := true })
      else
        let lead := if p.isStart && o.number then lineNumber (p.line + 1) else []
        let line := if p.isStart && o.number then p.line + 1 else p.line
        let byte := if b == 13 && o.ends && rest.head? == some 10 then [94, 77] else shownByte o b
        shownBytes o { line := line, isStart := false } ((lead ++ byte).reverse ++ shown) rest

def Options.isPlain (o : Options) : Bool :=
  !(o.number || o.squeeze || o.ends || o.tabs || o.nonprinting)

def shownNext (o : Options) (p : Place) (bytes : List UInt8) : List UInt8 × Place :=
  if o.isPlain then (bytes, p)
  else
    let (shown, p) :=
      if p.held then shownBytes o { p with held := false } [] (13 :: bytes)
      else shownBytes o p [] bytes
    (shown.reverse, p)

def shownLast (o : Options) (p : Place) : List UInt8 :=
  if p.held then (shownBytes { o with ends := false } { p with held := false } [] [13]).1.reverse
  else []

structure State where
  machine : Machine
  process : Process
  files : Descriptors := []
  status : Nat := 0
  place : Place := {}

instance : OnMachine State where
  machine := (·.machine)
  put m s := { s with machine := m }
  footprint s := { held := [s.process.descriptors, s.files], ignored := s.process.ignored }

def complain (message : String) : Routine State Unit := do
  modify fun s => { s with status := 1 }
  if let some errors := (← get).process.descriptors.channel? 2 then
    let _ ← Routine.write errors (Text.bytesOfRaw ("cat: " ++ message ++ "\n"))

/-- Writes what is shown to the output; says whether the program goes on. -/
def put (output : Nat) (shown : List UInt8) : Routine State Bool := do
  match ← Routine.write output shown with
  | .done => return true
  | .refused =>
      complain ("write error: " ++ SystemError.badDescriptor.description)
      return false
  | .broken =>
      complain ("write error: " ++ SystemError.brokenPipe.description)
      return false

/-- Whether a channel leads to the file to which the output goes, and was not read to its
end. -/
def isOwnOutput (m : Machine) (input output : Nat) : Bool :=
  match m.channels[input]?, m.channels[output]? with
  | some ⟨.file image position, _⟩, some ⟨.file image' _, _⟩ =>
      image == image' && decide (position < m.imageSize image)
  | _, _ => false

def blockSize : Nat := 131072

def blockLimit : Nat := 100000000

/-- Prints what a channel holds, under a name and in at most so many blocks; says whether the
program goes on. -/
def printBlocks (o : Options) (output : Nat) (name : String) (input : Nat) :
    Nat → Routine State Bool
  | 0 => pure true
  | n + 1 => do
      match ← Routine.read input false (.block blockSize) with
      | .error e =>
          complain (shownName name ++ ": " ++ e.description)
          return true
      | .ok bytes =>
          if bytes.isEmpty then return true
          let (shown, place) := shownNext o (← get).place bytes
          modify fun s => { s with place := place }
          if ← put output shown then printBlocks o output name input n else return false

def printChannel (o : Options) (output : Nat) (name : String) (input : Nat) :
    Routine State Bool := do
  if isOwnOutput (← get).machine input output then
    complain (shownName name ++ ": input file is output file")
    return true
  printBlocks o output name input blockLimit

def printFile (o : Options) (output : Nat) (file : String) : Routine State Bool := do
  let s ← get
  let ds := s.process.descriptors
  if file = "-" then
    match ds.channel? 0 with
    | some input => printChannel o output file input
    | none =>
        complain ("-: " ++ SystemError.badDescriptor.description)
        return true
  else
    match s.machine.openFile ds file .read s.process.mask false with
    | .ok (input, m) =>
        set { s with machine := m, files := [(0, input)] }
        printChannel o output file input
    | .error e =>
        complain (shownName file ++ ": " ++ e.description)
        return true

def printFiles (o : Options) (output : Nat) : List String → Routine State Bool
  | [] => pure true
  | file :: rest => do
      if ← printFile o output file then printFiles o output rest else return false

def run : Routine State Unit := do
  let p := (← get).process
  match readArguments {} [] (p.args.drop 1), p.descriptors.channel? 1 with
  | .error message, _ => complain (message ++ "\nTry \x27cat --help\x27 for more information.")
  | _, none => complain ("standard output: " ++ SystemError.badDescriptor.description)
  | .ok (o, files), some output =>
      let files := if files.isEmpty then ["-"] else files
      if ← printFiles o output files then
        if ← put output (shownLast o (← get).place) then
          if files.contains "-" && (p.descriptors.channel? 0).isNone then
            complain ("closing standard input: " ++ SystemError.badDescriptor.description)

def start (p : Process) (m : Machine) : Task :=
  run (fun _ s => .ended s.machine ⟨s.status, none⟩) { machine := m, process := p }

end Concatenate
end External
end LineShell
