import LineShell.Script.Fields

/-!
# Commands on variables and parameters

Setting, marking, listing and removing variables, the positional parameters and the
options, and reading a line or the options of a script into variables.
-/

namespace LineShell
namespace Script
namespace Shell

/-- The letters of the options before the operands of a command, and the operands; an
option that the command does not have is a failure. -/
def optionsOf (letters : List Char) : List String → Except String (List Char × List String)
  | [] => .ok ([], [])
  | arg :: rest =>
      match arg.toList with
      | ['-', '-'] => .ok ([], rest)
      | '-' :: c :: cs =>
          match (c :: cs).find? fun d => !letters.contains d with
          | some d => .error ("Illegal option -" ++ d.toString)
          | none => (optionsOf letters rest).map fun tail => (c :: cs ++ tail.1, tail.2)
      | _ => .ok ([], arg :: rest)

def withOptions (letters : List Char) (args : List String)
    (act : List Char → List String → Act Unit) : Act Unit :=
  match optionsOf letters args with
  | .ok (options, operands) => act options operands
  | .error message => raise message

def settingOf (arg : String) : String × Option String :=
  match Text.cutOnce '=' arg with
  | some (name, value) => (name, some value)
  | none => (arg, none)

/-- Sets a variable by an argument and gives it a mark; a name that is none fails. -/
def declare (mark : Variable → Variable) (arg : String) : Act Unit := do
  let (name, value?) := settingOf arg
  if !isName name then raise (name ++ ": bad variable name")
  else
    if let some value := value? then setVariable name value
    if ← going then
      let s ← get
      putVariable name (mark (s.variableOf name))

def eachArgument (act : String → Act Unit) : List String → Act Unit
  | [] => pure ()
  | arg :: rest => do
      act arg
      if ← going then eachArgument act rest

/-- Lists the variables that pass a test, as commands that set them again. -/
def listVariables (lead : String) (test : Variable → Bool) : Act Unit := do
  let s ← get
  emit 1 (Text.joinWith "" ((s.vars.entries.filter fun e => test e.2).map fun e =>
    lead ++ e.1 ++ (match e.2.value with
      | some value => "=" ++ quoted value
      | none => "") ++ "\n"))

def declareAll (command : String) (mark : Variable → Variable) (test : Variable → Bool)
    (args : List String) : Act Unit :=
  withOptions ['p'] args fun options names => do
    setStatus 0
    if names.isEmpty || options.contains 'p' then listVariables (command ++ " ") test
    else eachArgument (declare mark) names

def declareLocal (arg : String) : Act Unit := do
  let (name, value?) := settingOf arg
  if !isName name then raise (name ++ ": bad variable name")
  else
    modify fun s =>
      { s with
        shadowed := s.shadowed.map fun saved =>
          if saved.any (·.1 == name) then saved else (name, s.vars.get? name) :: saved }
    if let some value := value? then setVariable name value

def localAll (args : List String) : Act Unit := do
  setStatus 0
  if (← get).shadowed.isNone then raise "not in a function"
  else eachArgument declareLocal args

def unset (args : List String) : Act Unit :=
  withOptions ['v', 'f'] args fun options names => do
    setStatus 0
    if options.getLast? == some 'f' then
      modify fun s => { s with functions := s.functions.filter fun f => !names.contains f.1 }
    else
      eachArgument
        (fun name =>
          if isName name then unsetVariable name
          else raise (name ++ ": bad variable name"))
        names

def setArgs (args : List String) : Act Unit :=
  modify fun s => { s with args := args, optionIndex := 1, optionOffset := none }

def namedOptions : List (String × Char) :=
  [("errexit", 'e'), ("noglob", 'f'), ("ignoreeof", 'I'), ("interactive", 'i'), ("monitor", 'm'),
    ("noexec", 'n'), ("stdin", 's'), ("xtrace", 'x'), ("verbose", 'v'), ("vi", 'V'), ("emacs", 'E'),
    ("noclobber", 'C'), ("allexport", 'a'), ("notify", 'b'), ("nounset", 'u'),
    ("privileged", 'p'), ("nolog", '\x01'), ("debug", '\x02')]

/-- Switches an option on or off; says whether there is one with this letter. -/
def switchOption (on : Bool) (letter : Char) : Act Bool := do
  if namedOptions.any (·.2 == letter) then
    modify fun s =>
      let others := s.options.filter (· != letter)
      { s with
        options := if on then letter :: others else others
        undecided := s.undecided.filter (· != letter) }
    return true
  return false

def listOptions (on : Bool) : Act Unit := do
  let s ← get
  let lines := namedOptions.map fun o =>
    let isOn := s.hasOption o.2 || s.undecided.contains o.2
    if on then
      o.1 ++ String.ofList (List.replicate (16 - o.1.length) ' ') ++
        (if isOn then "on\n" else "off\n")
    else "set " ++ (if isOn then "-o " else "+o ") ++ o.1 ++ "\n"
  emit 1 ((if on then "Current option settings\n" else "") ++ Text.joinWith "" lines)

def switchNamed (on : Bool) : Option String → Act Unit
  | none => listOptions on
  | some name => do
      match namedOptions.lookup name with
      | some letter =>
          let _ ← switchOption on letter
      | none => raise ("Illegal option -o " ++ name)

/-- Switches options on or off by their letters; the ones that are given by name take
their names from the arguments after them, and those left over are returned. -/
def switchLetters (on : Bool) : List Char → List String → Act (List String)
  | [], args => pure args
  | 'o' :: letters, args => do
      switchNamed on args.head?
      switchLetters on letters (args.drop 1)
  | letter :: letters, args => do
      unless ← switchOption on letter do
        raise ("Illegal option -" ++ letter.toString)
      if ← going then switchLetters on letters args else return args

/-- Sets options, within a number of arguments; the positional parameters that follow
them, if any do. -/
def setOptions : Nat → List String → Act (Option (List String))
  | 0, _ => pure none
  | _ + 1, [] => pure none
  | n + 1, arg :: rest => do
      match arg.toList with
      | ['-', '-'] => return some rest
      | ['-'] =>
          let _ ← switchOption false 'x'
          let _ ← switchOption false 'v'
          return if rest.isEmpty then none else some rest
      | '-' :: letters =>
          let rest ← switchLetters true letters rest
          if ← going then setOptions n rest else return none
      | '+' :: letters =>
          let rest ← switchLetters false letters rest
          if ← going then setOptions n rest else return none
      | _ => return some (arg :: rest)

/-- Gives up the control of jobs, for which a terminal is needed.  A copy of the script
does not try to have it. -/
def dropJobControl : Act Unit := do
  let s ← get
  if s.hasOption 'm' && !s.isCopy then
    warn "can\x27t access tty; job control turned off"
    let _ ← switchOption false 'm'

def setCommand (args : List String) : Act Unit := do
  setStatus 0
  if args.isEmpty then listVariables "" (·.value.isSome)
  else
    let args? ← setOptions (args.length + 1) args
    if ← going then dropJobControl
    if let some args := args? then setArgs args

def shift (args : List String) : Act Unit := do
  setStatus 0
  let s ← get
  match args.head?.elim (some 1) count? with
  | none => raiseNumber (args.head?.getD "")
  | some n =>
      if s.args.length < n then raise "can\x27t shift that many"
      else setArgs (s.args.drop n)

/-- The number of pieces in which a line may come, and of lines on which it may go on. -/
def lineLimit : Nat := 100000

def readPieces : Nat → Act (List UInt8)
  | 0 => pure []
  | n + 1 => do
      let bytes ← readFrom 0 .line
      if bytes.isEmpty || bytes.getLast? == some 10 then return bytes
      return bytes ++ (← readPieces n)

/-- Reads a line and, unless it is taken raw, those on which it goes on: its
characters, and whether it was ended. -/
def readWhole (raw : Bool) : Nat → Act (List Char × Bool)
  | 0 => pure ([], false)
  | n + 1 => do
      let bytes ← readPieces lineLimit
      let ended := bytes.getLast? == some 10
      let line := (Text.rawOfBytes (if ended then bytes.dropLast else bytes)).toList.filter
        (· != '\x00')
      let backslashes := (line.reverse.takeWhile (· == '\\')).length
      if !raw && ended && backslashes % 2 == 1 then
        let (tail, ended) ← readWhole raw n
        return (line.dropLast ++ tail, ended)
      return (line, ended)

def readLine (args : List String) : Act Unit := do
  let args := match args with
    | "-p" :: _ :: rest => rest
    | _ => args
  withOptions ['r'] args fun options names => do
    if names.isEmpty then raise "arg count"
    else
      let raw := options.contains 'r'
      let (line, ended) ← readWhole raw lineLimit
      setStatus (if ended then 0 else 1)
      let s ← get
      let values := LineChar.fields s.separators names.length (LineChar.ofLine raw line)
      for (name, value) in names.zip values do
        if ← going then setVariable name value

/-- What an option letter is to a list of letters: unknown, known, or one that takes an
argument. -/
def optionKind (letters : List Char) (c : Char) : Option Bool :=
  match letters with
  | [] => none
  | d :: rest =>
      if d = c then some (rest.head? == some ':')
      else optionKind (if rest.head? == some ':' then rest.drop 1 else rest) c
termination_by letters.length
decreasing_by
  all_goals
    simp only [List.length_cons]
    split
    all_goals
      try simp only [List.length_drop]
      omega

/-- The next option letter among arguments and what is left of its argument, given
where the reading stands; the number of the argument after it. -/
def nextOption? (args : List String) (index : Nat) (offset : Option Nat) :
    Option (Char × List Char) × Nat :=
  let begun := match offset, args[index - 2]? with
    | some off, some arg => if 1 < index then arg.toList.drop off else []
    | _, _ => []
  match begun with
  | c :: rest => (some (c, rest), index)
  | [] =>
      match args[index - 1]?.map String.toList with
      | some ['-', '-'] => (none, index + 1)
      | some ('-' :: c :: rest) => (some (c, rest), index + 1)
      | _ => (none, index)

structure OptionReading where
  /-- The letter that was read, or a mark for one that is none. -/
  value : String
  argument : Option String := none
  /-- The number of the next argument, and the place in the one before it. -/
  index : Nat
  offset : Option Nat := none
  message : String := ""

def readOption (letters : String) (args : List String) (index : Nat) (offset : Option Nat) :
    Bool × OptionReading :=
  let silent := Text.startsWith letters ":"
  match nextOption? args index offset with
  | (none, after) => (false, { value := "?", index := after })
  | (some (c, rest), after) =>
      let inside :=
        if rest.isEmpty then none
        else args[after - 2]?.map fun arg => arg.length - rest.length
      let reading : OptionReading :=
        match optionKind letters.toList c with
        | none =>
            if silent then
              { value := "?", argument := some c.toString, index := after, offset := inside }
            else
              { value := "?", index := after, offset := inside
                message := "Illegal option -" ++ c.toString ++ "\n" }
        | some false =>
            { value := c.toString, argument := some "", index := after, offset := inside }
        | some true =>
            match rest, args[after - 1]? with
            | _ :: _, _ =>
                { value := c.toString, argument := some (String.ofList rest), index := after }
            | [], some arg => { value := c.toString, argument := some arg, index := after + 1 }
            | [], none =>
                if silent then { value := ":", argument := some c.toString, index := after }
                else
                  { value := "?", index := after
                    message := "No arg for -" ++ c.toString ++ " option\n" }
      (true, reading)

def nextOptionInto (letters name : String) (args : List String) : Act Unit := do
  let s ← get
  let index := if args.length + 1 < s.optionIndex ∨ s.optionIndex = 0 then 1 else s.optionIndex
  let offset := if index = s.optionIndex then s.optionOffset else none
  let (isFound, reading) := readOption letters args index offset
  emit 2 reading.message
  if isFound then
    match reading.argument with
    | some text => setVariable "OPTARG" text
    | none => unsetVariable "OPTARG"
  if ← going then setVariable "OPTIND" (toString reading.index)
  if ← going then setVariable name reading.value
  if ← going then
    modify fun s => { s with optionIndex := reading.index, optionOffset := reading.offset }
    setStatus (if isFound then 0 else 1)

def getOptions (args : List String) : Act Unit := do
  let s ← get
  match args with
  | letters :: name :: rest => nextOptionInto letters name (if rest.isEmpty then s.args else rest)
  | _ => raise "Usage: getopts optstring var [arg...]"

end Shell
end Script
end LineShell
