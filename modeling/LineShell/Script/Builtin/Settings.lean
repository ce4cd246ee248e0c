import LineShell.Script.Builtin.Variables

/-!
# Commands on settings

The mask of permission bits, the aliases, and what runs when a signal comes.
-/

namespace LineShell
namespace Script

/-- A mask of permission bits as it is shown: four octal digits. -/
def maskText (mask : Nat) : String :=
  Text.padStart 4 '0' (String.ofList (Nat.toDigits 8 mask))

/-- The permissions that a mask leaves to each class of users. -/
def maskNames (mask : Nat) : String :=
  Text.joinWith "," ([("u", 6), ("g", 3), ("o", 0)].map fun (user, shift) =>
    let kept := fun (letter : Char) (bit : Nat) =>
      if mask >>> shift &&& bit = 0 then letter.toString else ""
    user ++ "=" ++ kept 'r' 4 ++ kept 'w' 2 ++ kept 'x' 1)

def usersOf : Char → Nat
  | 'a' => 0o111
  | 'u' => 0o100
  | 'g' => 0o010
  | _ => 0o001

/-- The permissions that a letter names, given those that were there before. -/
def permissionOf (before : Nat) : Char → Nat
  | 'r' => 4
  | 'w' => 2
  | 'x' => 1
  | 'u' => before >>> 6
  | 'g' => before >>> 3
  | 'o' => before
  | 'X' => if before &&& 0o111 = 0 then 0 else 1
  | _ => 0

def withoutBits (bits removed : Nat) : Nat :=
  bits - (bits &&& removed)

/-- The permissions after the changes that a text spells, given those from before and
the users that the last change was for. -/
def changePermissions (before : Nat) : Nat → Nat → Nat → List Char → Option Nat
  | 0, _, _, _ => none
  | _ + 1, now, _, [] => some now
  | n + 1, now, users, cs =>
      let isUser := (['a', 'u', 'g', 'o'].contains ·)
      let isPermission := (['r', 'w', 'x', 'u', 'g', 'o', 'X', 's'].contains ·)
      let named := (cs.takeWhile isUser).foldl (fun bits c => bits ||| usersOf c) users
      let users := if named = 0 then 0o111 else named
      match cs.dropWhile isUser with
      | [] => some now
      | op :: rest =>
          let bits := (rest.takeWhile isPermission).foldl
            (fun bits c => bits ||| permissionOf before c) 0
          let bits := (bits &&& 7) * users
          let after := rest.dropWhile isPermission
          let changed? := match op with
            | '-' => some (withoutBits now bits)
            | '+' => some (now ||| bits)
            | '=' => some (withoutBits now (users * 7) ||| bits)
            | _ => none
          match changed?, after with
          | none, _ => none
          | some changed, [] => some changed
          | some changed, ',' :: rest => changePermissions before n changed 0 rest
          | some changed, c :: rest =>
              if ['-', '+', '='].contains c then
                changePermissions before n changed users (c :: rest)
              else none

def aliasRank (name : String) : Nat :=
  let codes := name.toList.map Char.toNat
  (codes.head?.getD 0 * 16 + codes.foldl (· + ·) 0) % 39

namespace Shell

/-- Sets the mask of permission bits by the octal digits or by the permissions that are
left. -/
def setMask (arg : String) : Act Unit := do
  let cs := arg.toList
  let s ← get
  match cs.head?.any Char.isDigit, cs.all Arithmetic.isOctalDigit with
  | true, true =>
      set { s with mask := Arithmetic.valueIn 8 cs % 0o1000 }
  | true, false => raiseNumber arg
  | false, _ =>
      let before := withoutBits 0o777 s.mask
      match changePermissions before (cs.length + 1) before 0 cs with
      | some bits => set { s with mask := withoutBits 0o777 bits }
      | none => raise ("Illegal mode: " ++ arg)

def maskCommand (args : List String) : Act Unit :=
  withOptions ['S'] args fun options operands => do
    setStatus 0
    match operands with
    | arg :: _ => setMask arg
    | [] =>
        let mask := (← get).mask
        printLine (if options.isEmpty then maskText mask else maskNames mask)

def aliasLine (entry : String × String) : String :=
  entry.1 ++ "=" ++ quoted entry.2 ++ "\n"

def aliasArgument (arg : String) : Act Unit := do
  let s ← get
  match Text.cutOnce '=' (String.ofList (arg.toList.drop 1)) with
  | some (rest, text) =>
      let name := String.ofList (arg.toList.take 1) ++ rest
      let entry := (name, text)
      set { s with
        aliases :=
          if s.aliases.any (·.1 == name) then
            s.aliases.map fun (old : String × String) => if old.1 == name then entry else old
          else s.aliases ++ [entry] }
  | none =>
      match s.aliases.lookup arg with
      | some text => emit 1 (aliasLine (arg, text))
      | none =>
          emit 2 ("alias: " ++ arg ++ " not found\n")
          setStatus 1

def aliasCommand (args : List String) : Act Unit := do
  setStatus 0
  if args.isEmpty then
    let listed := (← get).aliases.mergeSort fun a b => decide (aliasRank a.1 ≤ aliasRank b.1)
    emit 1 (Text.joinWith "" (listed.map aliasLine))
  else args.forM aliasArgument

def unaliasCommand (args : List String) : Act Unit :=
  withOptions ['a'] args fun options names => do
    setStatus 0
    if !options.isEmpty then modify fun s => { s with aliases := [] }
    else
      for name in names do
        let s ← get
        if s.aliases.any (·.1 == name) then
          set { s with aliases := s.aliases.filter (·.1 != name) }
        else
          emit 2 ("unalias: " ++ name ++ " not found\n")
          setStatus 1

/-- Sets what runs when one of some signals comes, up to one that is none. -/
def setTraps (action : Option String) : List String → Act Unit
  | [] => pure ()
  | text :: rest => do
      match Signal.ofText? Signal.atExit text with
      | none =>
          emit 2 ("trap: " ++ text ++ ": bad trap\n")
          setStatus 1
      | some signal =>
          modify fun s =>
            let others := s.traps.filter (·.1 != signal)
            { s with
              traps := match action with
                | some action => (signal, action) :: others
                | none => others }
          setTraps action rest

def trapCommand (args : List String) : Act Unit :=
  withOptions [] args fun _ operands => do
    setStatus 0
    match operands with
    | [] =>
        let s ← get
        let listed := s.traps.mergeSort fun a b => decide (a.1 ≤ b.1)
        emit 1 (Text.joinWith "" (listed.map fun t =>
          "trap -- " ++ quoted t.2 ++ " " ++ Signal.name t.1 ++ "\n"))
    | first :: rest =>
        if rest.isEmpty || (count? first).any (· ≤ Signal.greatest) then setTraps none operands
        else setTraps (if first = "-" then none else some first) rest

/-- The times that the script and its programs took, which are not measured. -/
def timesCommand : Act Unit := do
  emit 1 (Text.replicate 2 "0m0.000000s 0m0.000000s\n")
  setStatus 0

def limitCommand (args : List String) : Act Unit :=
  withOptions "HSatfdscmlpnvwr".toList args fun _ operands => do
    setStatus 0
    if operands.isEmpty then printLine "unlimited"

end Shell
end Script
end LineShell
