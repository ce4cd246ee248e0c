import LineShell.Script.Builtin.Variables

/-!
# What names stand for

The name of a command is a reserved word, an alias, a function, one of the shell's own
commands, or a program along the search path.
-/

namespace LineShell
namespace Script

/-- The shell's own commands whose failures end a script. -/
def specialNames : List String :=
  [".", ":", "break", "continue", "eval", "exec", "exit", "export", "local", "readonly", "return",
    "set", "shift", "times", "trap", "unset"]

def builtinNames : List String :=
  specialNames ++
    ["[", "alias", "bg", "cd", "command", "echo", "false", "fg", "getopts", "hash", "jobs", "kill",
      "printf", "pwd", "read", "test", "true", "type", "ulimit", "umask", "unalias", "wait"]

inductive NameKind where
  | reserved
  | aliased (text : String)
  | function
  | builtin (special : Bool)
  | program (path : String) (tracked : Bool)
  | unknown
deriving DecidableEq, Repr, Inhabited

def pathsAlong (search name : String) : List String :=
  (Text.parts ':' search).map fun directory =>
    if directory = "" then name else directory ++ "/" ++ name

/-- The paths of a program from the first on that may be run, given the failure to
report if there is none. -/
def programPaths (w : World) : SystemError → List String → Except SystemError (List String)
  | failure, [] => .error failure
  | failure, path :: rest =>
      match w.find .follow (Text.ofRaw path) with
      | .ok (_, node) =>
          if node.isExecutable then .ok (path :: rest) else programPaths w .permissionDenied rest
      | .error e =>
          programPaths w (if e = .notFound ∨ e = .notADirectory then failure else e) rest

def usualSearch : String :=
  "/usr/local/sbin:/usr/local/bin:/usr/sbin:/usr/bin:/sbin:/bin"

namespace Shell

def search (s : Shell) : String :=
  (s.get? "PATH").getD ""

def pathsOf (s : Shell) (search name : String) : Except SystemError (List String) :=
  if Text.hasChar name '/' then .ok [name]
  else programPaths s.machine.world .notFound (pathsAlong search name)

def locate (name path : String) : Act Unit :=
  modify fun s =>
    if Text.hasChar name '/' || s.located.any (·.1 == name) then s
    else { s with located := s.located ++ [(name, path)] }

def commandKind (s : Shell) (search name : String) : NameKind :=
  if s.functions.any (·.1 == name) then .function
  else if builtinNames.contains name then .builtin (specialNames.contains name)
  else if Text.hasChar name '/' then
    if s.machine.world.isPresent (Text.ofRaw name) then .program name false else .unknown
  else
    match s.located.lookup name with
    | some path => .program path true
    | none =>
        match s.pathsOf search name with
        | .ok (path :: _) => .program path false
        | _ => .unknown

def kindOf (s : Shell) (search name : String) : NameKind :=
  if reservedWords.contains name then .reserved
  else
    match s.aliases.lookup name with
    | some text => .aliased text
    | none => s.commandKind search name

def kindText (name : String) : NameKind → String
  | .reserved => name ++ " is a shell keyword"
  | .aliased text => name ++ " is an alias for " ++ text
  | .function => name ++ " is a shell function"
  | .builtin true => name ++ " is a special shell builtin"
  | .builtin false => name ++ " is a shell builtin"
  | .program path true => name ++ " is a tracked alias for " ++ path
  | .program path false => name ++ " is " ++ path
  | .unknown => name ++ ": not found"

def kindWord (name : String) : NameKind → Option String
  | .aliased text => some ("alias " ++ name ++ "=" ++ quoted text)
  | .program path _ => some path
  | .unknown => none
  | _ => some name

def describe (verbose : Bool) (search name : String) : Act Unit := do
  let kind := (← get).kindOf search name
  if verbose then printLine (kindText name kind)
  else if let some word := kindWord name kind then printLine word
  match kind with
  | .unknown => setStatus 127
  | .program path _ => locate name path
  | _ => pure ()

def typeCommand (names : List String) : Act Unit := do
  setStatus 0
  let s ← get
  names.forM (describe true s.search)

/-- The place of a name in the order in which found programs are listed. -/
def locatedRank (name : String) : Nat :=
  let codes := name.toList.map Char.toNat
  (codes.head?.getD 0 * 16 + codes.foldl (· + ·) 0) % 32768 % 31

def hashArgument (name : String) : Act Unit := do
  let s ← get
  match s.commandKind s.search name with
  | .program path _ => locate name path
  | .unknown =>
      warn (name ++ ": not found")
      setStatus 1
  | _ => pure ()

def hashCommand (args : List String) : Act Unit :=
  withOptions ['r'] args fun options names => do
    setStatus 0
    if !options.isEmpty then modify fun s => { s with located := [] }
    else if names.isEmpty then
      let listed := (← get).located.mergeSort fun a b =>
        decide (locatedRank a.1 ≤ locatedRank b.1)
      emit 1 (Text.joinWith "" (listed.map fun e => e.2 ++ "\n"))
    else names.forM hashArgument

end Shell
end Script
end LineShell
