import LineShell.Script.Builtin
import LineShell.Script.Fields

/-!
# Running scripts

Carries out the commands of a script, within a number of steps.  Subshells, the stages of a
pipeline, substitutions and what runs in the background are processes of their own; all else
happens in the process of the script.
-/

namespace LineShell
namespace Script

open Shell

structure Manner where
  splits : Bool := false
  assigns : Bool := false

structure Head where
  name : String
  args : List String
  /-- Functions are passed over, and failures end nothing. -/
  direct : Bool := false
  /-- The search path, if it is not that of the script. -/
  search : Option String := none

def Shell.hasFunction (s : Shell) (name : String) : Bool :=
  s.functions.any (·.1 == name)

/-- The words after `command` and its options, and whether the usual search path is to be
taken; none if there are none or other options. -/
def afterCommandWord (usual : Bool) : List String → Option (Bool × List String)
  | [] => none
  | arg :: rest =>
      match arg.toList with
      | ['-', '-'] => if rest.isEmpty then none else some (usual, rest)
      | '-' :: c :: cs =>
          if (c :: cs).all (· == 'p') then afterCommandWord true rest else none
      | _ => some (usual, arg :: rest)

def Head.resolve (s : Shell) : Nat → Head → Head
  | 0, h => h
  | n + 1, h =>
      if h.name = "command" ∧ (h.direct || !s.hasFunction h.name) then
        match afterCommandWord h.search.isSome h.args with
        | some (usual, name :: args) =>
            resolve s n ⟨name, args, true, if usual then some usualSearch else none⟩
        | _ => h
      else h

def Head.ofFields? (s : Shell) : List String → Option Head
  | [] => none
  | name :: args => some (resolve s (args.length + 1) { name := name, args := args })

/-- The commands whose arguments may be assignments. -/
def declaringNames : List String := ["alias", "export", "local", "readonly"]

/-- Whether the words that are still to come may be assignments, as far as the fields
before them tell. -/
def mayDeclare? (s : Shell) (fields : List String) : Option Bool :=
  let isLead := fun (field : String) =>
    field == "command" || (Text.startsWith field "-" && field != "-")
  let name? := match fields with
    | "command" :: rest => rest.find? (!isLead ·)
    | _ => fields.head?
  name?.map fun name => declaringNames.contains name && !s.hasFunction name

/-- The commands that are programs of every system as well. -/
def sharedNames : List String :=
  ["[", "echo", "false", "kill", "printf", "pwd", "test", "true"]

/-- An alternative text of a parameter: what stands there without quotes is split. -/
def loosened (fragments : List Fragment) : List Fragment :=
  fragments.map fun fragment =>
    match fragment with
    | .chars text false _ => .chars text false true
    | _ => fragment

/-- The text of a substitution: its bytes without the zero ones and the line ends at the
end. -/
def substitutedText (bytes : List UInt8) : String :=
  Text.dropEnd (· == '\n') (Text.rawOfBytes (bytes.filter (· != 0)))

def unsetMessage (name : String) (orEmpty : Bool) : String :=
  name ++ ": parameter not set" ++ (if orEmpty then " or null" else "")

def Shell.nextSignal? (s : Shell) : Option Nat :=
  ((s.machine.signals.filter (·.1 == s.self)).map (·.2)).min?

def Shell.withoutSignal (s : Shell) (signal : Nat) : Shell :=
  { s with
    machine := { s.machine with
      signals := s.machine.signals.filter (· != (s.self, signal)) } }

inductive Origin where
  /-- A value of the script, or an argument of the shell. -/
  | value
  /-- A channel, which may have more of it. -/
  | channel (number : Nat) (hasMore : Bool)
deriving DecidableEq, Repr, Inhabited

def Origin.more? : Origin → Option Nat
  | .channel number true => some number
  | _ => none

/-- Whether the end of the text had a part in what was read. -/
def isUnfinished : Except Breach (Option Body × Reader) → Bool
  | .error breach => breach.left == 0
  | .ok (_, after) => after.isAtEnd || after.isCut

def blockSize : Nat := 8192

def readBlock (channel : Nat) : Act (List Char) := do
  let bytes? ← Routine.read channel false (.block blockSize)
  return (Text.rawOfBytes (bytes?.toOption.getD [])).toList

/-- The lines of a text of which something was read, given how much is left of it. -/
def Reader.linesTo (r : Reader) (left : Nat) : String :=
  let passed := r.rest.take (r.rest.length - left)
  let ahead := r.rest.drop passed.length
  let lineEnd := (ahead.takeWhile (· != '\n')).length + 1
  let isPartial := !passed.isEmpty && passed.getLast? != some '\n'
  String.ofList (passed ++ if isPartial then ahead.take lineEnd else [])

/-- Writes the lines that were read from a channel to the errors, if the script asks for
it. -/
def echoRead (origin : Origin) (r : Reader) (left : Nat) : Act Unit := do
  match origin with
  | .channel _ _ => if (← get).hasOption 'v' then emit 2 (r.linesTo left)
  | _ => pure ()

def runExec (h : Head) : Act Unit := do
  let s ← get
  match h.args with
  | [] => setStatus 0
  | name :: args =>
      let search := h.search.getD s.search
      if sharedNames.contains name && (s.pathsOf search name).toOption.isNone then
        runPlain name args
        modify fun s => { s with traps := [], flow := .exit }
      else
        becomeProgram name args
          (if Text.hasChar name '/' then [name] else pathsAlong search name)

mutual

/-- Runs the commands of a text, line by line.  A text without commands succeeds. -/
def runLines : Nat → Origin → Bool → Reader → Act Unit
  | 0, _, _, _ => pure ()
  | n + 1, origin, ran, reader => do
      let s ← get
      let reader :=
        { reader with aliases := s.aliases, documents := s.documents, isCut := false }
      let found := reader.nextCommands
      match origin.more?.filter fun _ => isUnfinished found with
      | some channel =>
          let more ← readBlock channel
          runLines n (.channel channel (!more.isEmpty)) ran
            { reader with rest := reader.rest ++ more }
      | none =>
          match found with
          | .error breach =>
              echoRead origin reader breach.left
              modify fun s => { s with line := breach.line }
              raise breach.fault.message
          | .ok (none, _) =>
              echoRead origin reader 0
              unless ran do setStatus 0
          | .ok (some body, after) =>
              echoRead origin reader after.rest.length
              modify fun s => { s with documents := after.documents }
              runItems n body
              if ← going then runLines n origin (ran || !body.isEmpty) after

def runText : Nat → Origin → String → Act Unit
  | 0, _, _ => pure ()
  | n + 1, origin, text =>
      keepingLast false (runLines n origin false { rest := text.toList })

def runItems : Nat → Body → Act Unit
  | 0, _ => pure ()
  | _ + 1, [] => pure ()
  | n + 1, item :: rest => do
      if item.background then
        unless (← get).hasOption 'n' do startJob n item.links
      else keepingLast rest.isEmpty (runLinks n item.links)
      if ← going then runItems n rest

def runLinks : Nat → List (Link Cmd) → Act Unit
  | 0, _ => pure ()
  | _ + 1, [] => pure ()
  | n + 1, link :: rest => do
      let s ← get
      let due := match link.connector with
        | .always => true
        | .onSuccess => s.status == 0
        | .onFailure => s.status != 0
      if due then
        let isFree := rest.isEmpty && !link.negated
        keepingLast isFree (shielded (!isFree) (runStages n link.stages))
        if link.negated then
          modify fun s =>
            if s.flow == .go then { s with status := if s.status = 0 then 1 else 0 } else s
      if ← going then runLinks n rest

/-- Runs a pipeline; more than one stage run in copies of the script. -/
def runStages : Nat → List Cmd → Act Unit
  | 0, _ => pure ()
  | n + 1, [cmd] => runCmd n cmd
  | n + 1, stages => do
      checked (do attendTo (← startStages n id none stages))
      attend n

/-- Starts the stages of a pipeline, each with the output of the one before as its input, and
with a change of the script: their processes. -/
def startStages : Nat → (Shell → Shell) → Option Nat → List Cmd → Act (List Nat)
  | 0, _, _, _ => pure []
  | _ + 1, _, _, [] => pure []
  | n + 1, change, input?, cmd :: rest => do
      locateFirst cmd
      let s ← get
      let (next?, output?, m) := if rest.isEmpty then (none, none, s.machine) else
        match s.machine.openPipe with
        | (output, input, m) => (some output, some input, m)
      set { s with machine := m }
      let lead := fun (fd : Nat) (channel? : Option Nat) (ds : Descriptors) =>
        channel?.elim ds (ds.set fd)
      let process ← fork
        (fun s => change { s with descriptors := lead 1 output? (lead 0 input? s.descriptors) })
        (do
          runCmd n cmd
          endProcess n)
      let processes ← startStages n change next? rest
      return process :: processes

/-- Starts commands in the background, with nothing to read.  The targets of the redirects of
a compound command other than a subshell are expanded before it starts. -/
def startJob : Nat → List (Link Cmd) → Act Unit
  | 0, _ => pure ()
  | n + 1, links => do
      let s ← get
      let (input, m) := s.machine.openChannel .null .read
      set { s with machine := m }
      let inBackground := fun (s : Shell) =>
        { s with
          guarded := false
          ignored := Signal.interrupt :: Signal.quit :: s.ignored }
      let forkOne := fun (act : Act Unit) => do
        let process ← fork
          (fun s => inBackground { s with descriptors := s.descriptors.set 0 input })
          (do
            act
            endProcess n)
        pure [process]
      let processes ← match links with
        | [⟨_, false, first :: second :: rest⟩] =>
            startStages n inBackground (some input) (first :: second :: rest)
        | [⟨_, false, [.redirected _ (.subshell _) _]⟩] => forkOne (runLinks n links)
        | [⟨_, false, [.redirected line body redirs]⟩] => do
            modify fun s => { s with line := line }
            let targets ← expandTargets n redirs
            if ← going then forkOne (do if ← redirect targets then runCmd n body)
            else pure []
        | _ => forkOne (runLinks n links)
      if ← going then
        let _ ← addJob processes
        modify fun s => { s with lastJob := processes.getLast?, status := 0 }
        attend n

/-- Runs a command, and then what is due for signals that came meanwhile. -/
def runCmd : Nat → Cmd → Act Unit
  | 0, _ => pure ()
  | n + 1, cmd => do
      unless (← get).hasOption 'n' do
        rest
        runForm n cmd
        attend n

def runForm : Nat → Cmd → Act Unit
  | 0, _ => pure ()
  | n + 1, .simple line assigns words redirs =>
      checked (do
        modify fun s => { s with line := line }
        runSimple n assigns words redirs
        catchUp)
  | n + 1, .group body => runItems n body
  | n + 1, .subshell body =>
      checked (aside (do
        runItems n body
        endProcess n))
  | n + 1, .branch test body otherwise => do
      shielded true (keepingLast false (runItems n test))
      if ← going then
        if (← get).status = 0 then runItems n body
        else if otherwise.isEmpty then setStatus 0
        else runItems n otherwise
  | n + 1, .loop negated test body => inLoop (runLoop n negated 0 test body)
  | n + 1, .each line name words body => do
      modify fun s => { s with line := line }
      let values ← match words with
        | some words => expandWords n words
        | none => do pure (← get).args
      if ← going then
        if values.isEmpty then setStatus 0 else inLoop (runEach n name values body)
  | n + 1, .select line subject clauses => do
      modify fun s => { s with line := line }
      let s ← get
      let text ← expandText n {} (s.withHomes false subject)
      if ← going then runChoice n text clauses
  | _ + 1, .define name body =>
      modify fun s =>
        { s with
          functions := (name, body) :: s.functions.filter (·.1 != name)
          status := 0 }
  | n + 1, .redirected line (.subshell body) redirs =>
      checked (do
        modify fun s => { s with line := line }
        let targets ← expandTargets n redirs
        if ← going then
          aside (do
            if ← redirect targets then runItems n body
            endProcess n))
  | n + 1, .redirected line body redirs => do
      modify fun s => { s with line := line }
      let saved := (← get).descriptors
      let isOpen ← openRedirs n redirs
      reserving saved
      if isOpen then keepingLast false (runCmd n body) else checked (pure ())
      restoreDescriptors saved (redirs.map (·.fd))

def runLoop : Nat → Bool → Nat → Body → Body → Act Unit
  | 0, _, _, _, _ => pure ()
  | n + 1, negated, last, test, body => do
      shielded true (runItems n test)
      if ← going then
        if ((← get).status == 0) != negated then
          runItems n body
          let last := (← get).status
          if ← endTurn then runLoop n negated last test body
        else setStatus last
      else if ← endTurn then runLoop n negated last test body
      else
        modify fun s =>
          match s.flow with
          | .go | .leave _ => { s with status := last }
          | _ => s

def runEach : Nat → String → List String → Body → Act Unit
  | 0, _, _, _ => pure ()
  | _ + 1, _, [], _ => pure ()
  | n + 1, name, value :: rest, body => do
      setVariable name value
      if ← going then
        runItems n body
        if ← endTurn then runEach n name rest body

def runChoice : Nat → String → List (List Word × Body) → Act Unit
  | 0, _, _ => pure ()
  | _ + 1, _, [] => setStatus 0
  | n + 1, text, (patterns, body) :: rest => do
      let matched ← anyMatches n text patterns
      if ← going then
        if !matched then runChoice n text rest
        else if body.isEmpty then setStatus 0
        else runItems n body

def anyMatches : Nat → String → List Word → Act Bool
  | 0, _, _ => pure false
  | _ + 1, _, [] => pure false
  | n + 1, text, w :: rest => do
      let s ← get
      let pattern := markedOf (← expandParts n {} (s.withHomes false w))
      if pattern.matches text.toList then return true
      if ← going then anyMatches n text rest else return false

/-- Opens redirects; says whether all could be opened. -/
def openRedirs : Nat → List (Redir Word) → Act Bool
  | 0, _ => pure false
  | _ + 1, [] => pure true
  | n + 1, redirs => do
      let targets ← expandTargets n redirs
      if ← going then redirect targets else return false

def expandTargets : Nat → List (Redir Word) → Act (List (Redir String))
  | 0, _ => pure []
  | _ + 1, [] => pure []
  | n + 1, r :: rest => do
      let s ← get
      let target ← expandText n {} (s.withHomes false r.target)
      let isDescriptor := target == "-" || (target.length == 1 && target.toList.all Char.isDigit)
      if r.op == .duplicate && !isDescriptor then raise SyntaxFault.badDescriptor.message
      if ← going then return ⟨r.fd, r.op, target⟩ :: (← expandTargets n rest)
      return []

def runSimple : Nat → List (String × Word) → List Word → List (Redir Word) → Act Unit
  | 0, _, _, _ => pure ()
  | n + 1, assigns, words, redirs => do
      modify fun s => { s with substituted := none }
      let fields ← expandCommand n [] words
      let s ← get
      if s.flow != .go then return
      let head? := Head.ofFields? s fields
      let isFunction := head?.any fun h => !h.direct && s.hasFunction h.name
      let isSpecial := !isFunction && head?.any fun h => !h.direct && specialNames.contains h.name
      let isExec := !isFunction && head?.any (·.name == "exec")
      let isLasting := head?.isNone || isSpecial
      let descriptors := s.descriptors
      let vars := s.vars
      let isOpen ← openRedirs n redirs
      unless isExec || redirs.isEmpty do reserving descriptors
      if isOpen then
        assign n (!isLasting || (isExec && fields.length != 1)) assigns
        if ← going then
          if (← get).hasOption 'x' then traceCommand n descriptors assigns fields
          match head? with
          | none => modify fun s => { s with status := s.substituted.getD 0 }
          | some h => runHead n isFunction isSpecial h
        unless isLasting do restore (assigns.map fun a => (a.1, vars.get? a.1))
      else if isSpecial then modify fun s => { s with flow := .fault }
      unless isExec || redirs.isEmpty do restoreDescriptors descriptors (redirs.map (·.fd))

def traceCommand :
    Nat → Descriptors → List (String × Word) → List String → Act Unit
  | 0, _, _, _ => pure ()
  | n + 1, ds, assigns, fields => do
      let s ← get
      let lead ← expandText n {} (quotedText ((s.get? "PS4").getD ""))
      let settings := assigns.map fun a => a.1 ++ "=" ++ (s.get? a.1).getD ""
      trace ds lead (settings ++ fields)

def assign : Nat → Bool → List (String × Word) → Act Unit
  | 0, _, _ => pure ()
  | _ + 1, _, [] => pure ()
  | n + 1, exporting, (name, w) :: rest => do
      let s ← get
      let value ← expandText n { assigns := true } (s.withHomes true w)
      if ← going then
        if exporting then setExported name value else setVariable name value
        if ← going then assign n exporting rest

/-- Runs what a name stands for: a function, one of the shell's own commands or a
program. -/
def runHead : Nat → Bool → Bool → Head → Act Unit
  | 0, _, _, _ => pure ()
  | n + 1, isFunction, isSpecial, h => do
      let s ← get
      if isFunction then runFunction n h.name h.args
      else if builtinNames.contains h.name then
        set { s with speaker := some h.name, lost := false }
        runOwn n h
        let after ← get
        if after.lost && after.flow != .fault && after.flow != .exit then
          warn (h.name ++ ": I/O error")
          modify fun s => { s with status := s.status ||| 1 }
        modify fun after =>
          { after with
            speaker := s.speaker
            lost := s.lost
            flow := if !isSpecial && after.flow == .fault then .go else after.flow }
      else runProgram (h.search.getD s.search) h.name h.args

/-- Runs a function.  What it gave variables of its own goes with it, unless the script
ends. -/
def runFunction : Nat → String → List String → Act Unit
  | 0, _, _ => pure ()
  | n + 1, name, args => do
      let s ← get
      match s.functions.lookup name with
      | none => pure ()
      | some body =>
          set { s with
            args := args
            shadowed := some []
            loops := 0
            optionIndex := 1
            optionOffset := none
            isLast := false }
          runCmd n body
          let after ← get
          if after.flow == .go || after.flow == .back then restore (after.shadowed.getD [])
          modify fun after =>
            { after with
              args := s.args
              shadowed := s.shadowed
              loops := s.loops
              optionIndex := s.optionIndex
              optionOffset := s.optionOffset
              isLast := s.isLast
              flow := if after.flow == .back then .go else after.flow }

def runOwn : Nat → Head → Act Unit
  | 0, _ => pure ()
  | n + 1, h =>
      match h.name with
      | "eval" => runText n .value (Text.joinWith " " h.args)
      | "." => withOptions [] h.args fun _ files => runFile n files.head?
      | "exec" => runExec h
      | "command" =>
          withOptions ['p', 'v', 'V'] h.args fun options names => do
            setStatus 0
            let s ← get
            let search := if options.contains 'p' then usualSearch else s.search
            match options.contains 'V' || options.contains 'v', names with
            | true, name :: _ => describe (options.contains 'V') search name
            | _, _ => pure ()
      | name => runPlain name h.args

/-- Runs the commands of a file, which is looked for along the search path. -/
def runFile : Nat → Option String → Act Unit
  | 0, _ => pure ()
  | _ + 1, none => setStatus 0
  | n + 1, some file => do
      let s ← get
      let world := s.machine.world
      let path? :=
        if Text.hasChar file '/' then some file
        else (pathsAlong s.search file).find? fun path => world.isRegular (Text.ofRaw path)
      match path? with
      | none => raise (file ++ ": not found")
      | some path =>
          match s.machine.openFile s.descriptors path .read 0 false with
          | .error e => raise (openFailure true path e)
          | .ok (channel, m) =>
              set { s with machine := m, speaker := some path }
              runText n (.channel channel true) ""
              modify fun s => { s with flow := if s.flow == .back then .go else s.flow }

/-- Ends the process of the script: what is set for the end runs. -/
def endProcess : Nat → Act Unit
  | 0 => pure ()
  | n + 1 => do
      let s ← get
      if let some action := s.traps.lookup Signal.atExit then
        let status := s.status
        set { s with
          traps := s.traps.filter (·.1 != Signal.atExit)
          flow := .go
          trapped := some status }
        runText n .value action
        modify fun after =>
          match after.flow with
          | .exit | .fault => after
          | _ => { after with status := status }

def attend : Nat → Act Unit
  | 0 => pure ()
  | n + 1 => do
      let s ← get
      if s.machine.signals.isEmpty || s.flow != .go then return
      if let some signal := s.nextSignal? then
        set (s.withoutSignal signal)
        if let some action := s.traps.lookup signal then
          let status := s.status
          let trapped := s.trapped
          modify fun s => { s with trapped := some (trapped.getD status) }
          unless action = "" do runText n .value action
          modify fun after =>
            { after with
              trapped := trapped
              status := match after.flow with
                | .back | .exit | .fault => after.status
                | _ => status }
        attend n

def readToEnd (channel : Nat) : Nat → Act (List (List UInt8))
  | 0 => pure []
  | n + 1 => do
      match ← Routine.read channel false (.block Pipe.capacity) with
      | .ok (b :: bytes) => return (b :: bytes) :: (← readToEnd channel n)
      | _ => return []

def substitute : Nat → Body → Act String
  | 0, _ => pure ""
  | n + 1, body => do
      let s ← get
      let status := s.status
      let (output, input, m) := s.machine.openPipe
      set { s with machine := m }
      let process ← fork
        (fun s => { s with descriptors := s.descriptors.set 1 input, guarded := false })
        (do
          runItems n body
          endProcess n)
      reserving [(0, output)]
      let pieces ← readToEnd output n
      modify fun s => { s with reserve := s.reserve.drop 1 }
      attendTo [process]
      modify fun s => { s with status := status, substituted := some s.status }
      return substitutedText pieces.flatten

/-- The fields of the words of a command, given those of the words before. -/
def expandCommand : Nat → List String → List Word → Act (List String)
  | 0, fields, _ => pure fields
  | _ + 1, fields, [] => pure fields
  | n + 1, fields, w :: rest => do
      match mayDeclare? (← get) fields with
      | some true => return fields ++ (← expandArguments n (w :: rest))
      | some false => return fields ++ (← expandWords n (w :: rest))
      | none =>
          let more ← expandWord n w
          if ← going then expandCommand n (fields ++ more) rest else return fields

/-- The fields of words that may be assignments, which are not split. -/
def expandArguments : Nat → List Word → Act (List String)
  | 0, _ => pure []
  | _ + 1, [] => pure []
  | n + 1, w :: rest => do
      let fields ← match Parse.assignment? w with
        | some (name, value) => do
            let s ← get
            let text ← expandText n { assigns := true } (s.withHomes true value)
            pure [name ++ "=" ++ text]
        | none => expandWord n w
      if ← going then return fields ++ (← expandArguments n rest) else return fields

def expandWords : Nat → List Word → Act (List String)
  | 0, _ => pure []
  | _ + 1, [] => pure []
  | n + 1, w :: rest => do
      let fields ← expandWord n w
      if ← going then return fields ++ (← expandWords n rest) else return fields

def expandWord : Nat → Word → Act (List String)
  | 0, _ => pure []
  | n + 1, w => do
      let s ← get
      let fragments ← expandParts n { splits := true } (s.withHomes false w)
      let s ← get
      let fields := Fields.ofFragments s.separators fragments
      if s.hasOption 'f' then return fields.map Marked.text
      return fields.flatMap (glob s.machine.world)

def expandText : Nat → Manner → Word → Act String
  | 0, _, _ => pure ""
  | n + 1, manner, w => do return textOf (← expandParts n manner w)

def expandParts : Nat → Manner → Word → Act (List Fragment)
  | 0, _, _ => pure []
  | _ + 1, _, [] => pure []
  | n + 1, manner, part :: rest => do
      let first ← match part with
        | .text chars quoted => pure [Fragment.chars chars quoted false]
        | .command body quoted => do
            pure [.chars (← substitute n body) quoted (!quoted)]
        | .arithmetic w quoted => do
            pure [.chars (← calculate n w) quoted (!quoted)]
        | .document number => do
            let body := (← get).documents[number]?.getD []
            pure [.chars (← expandText n {} body) true false]
        | .param name op w quoted => expandParam n manner name op w quoted
      if ← going then return first ++ (← expandParts n manner rest) else return first

def calculate : Nat → Word → Act String
  | 0, _ => pure ""
  | n + 1, w => do
      let text ← expandText n {} w
      let s ← get
      if s.flow != .go then return ""
      let (result, assigned) := Arithmetic.evaluate (fun name => (s.get? name).getD "") text
      for (name, number) in assigned do
        if ← going then setVariable name (toString number)
      match result with
      | .ok value => return toString value
      | .error .overflow =>
          die Signal.badArithmetic
      | .error fault =>
          if ← going then raise (fault.message text)
          return ""

def expandParam :
    Nat → Manner → String → ParamOp → Word → Bool → Act (List Fragment)
  | 0, _, _, _, _, _ => pure []
  | n + 1, manner, name, op, w, quoted => do
      let s ← get
      let isRow := name == "@" || name == "*"
      let value? := if isRow then some (Text.joinWith s.joint s.args) else s.parameter? name
      let value := value?.getD ""
      let shown := fun (text : String) => [Fragment.chars text quoted (!quoted)]
      let plain := if isRow && manner.splits then positional s name quoted else shown value
      let isMissing := fun (colon : Bool) => value?.isNone || (colon && value == "")
      let isRefused := value?.isNone && s.hasOption 'u'
      match op with
      | .malformed =>
          raise "Bad substitution"
          return []
      | .default colon =>
          if isMissing colon then alternative n manner w quoted else return plain
      | .alternative colon =>
          if isMissing colon then return [] else alternative n manner w quoted
      | .assign colon =>
          if !isMissing colon then return plain
          let text ← expandText n {} (s.withHomes false w)
          if ← going then setVariable name text
          return shown text
      | .demand colon =>
          if !isMissing colon then return plain
          let text ← expandText n {} (s.withHomes false w)
          if ← going then
            raise (if w.isEmpty then unsetMessage name colon else name ++ ": " ++ text)
          return []
      | _ =>
          if isRefused then
            raise (unsetMessage name false)
            return []
          match op with
          | .length => return shown (toString value.length)
          | .cutStart longest =>
              let pattern := markedOf (← expandParts n {} (s.withHomes false w))
              return shown (cutStart pattern longest value)
          | .cutEnd longest =>
              let pattern := markedOf (← expandParts n {} (s.withHomes false w))
              return shown (cutEnd pattern longest value)
          | _ => return plain

def alternative : Nat → Manner → Word → Bool → Act (List Fragment)
  | 0, _, _, _ => pure []
  | n + 1, manner, w, quoted => do
      let s ← get
      if quoted then expandParts n manner w
      else return loosened (← expandParts n manner (s.withHomes manner.assigns w))

end

end Script
end LineShell
