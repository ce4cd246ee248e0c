import LineShell.Script.Reader

/-!
# Commands of scripts

Builds the commands of a script by descent through the grammar.  Units are cut from
the text only as the grammar asks for them, because what a word means depends on its
place: a reserved word or an alias counts where a command may begin, and a command
substitution inside a word ends where its own commands end.
-/

namespace LineShell
namespace Script
namespace Parse

/-- What is done with the next unit before it is handed out. -/
structure Look where
  lines : Bool := false
  reserved : Bool := false
  aliases : Bool := false

namespace Look

def plain : Look := {}

/-- The start of a command, perhaps on a later line. -/
def command : Look := { lines := true, reserved := true, aliases := true }

/-- The start of a command on this line. -/
def here : Look := { reserved := true, aliases := true }

def first : Look := { aliases := true }

def pattern : Look := { lines := true, reserved := true }

end Look

inductive ListKind where
  /-- On a line of its own, which ends it. -/
  | line
  /-- Inside a compound command; it must not be empty. -/
  | block
  /-- In a place where it may be empty. -/
  | clause
deriving DecidableEq, Repr, Inhabited

/-- The redirect operators: what they do, and the descriptor that they usually
take. -/
def redirOps : List (String × RedirOp × Nat) :=
  [("<", .input, 0), (">", .output, 1), (">|", .overwrite, 1), (">>", .append, 1),
    ("<>", .readWrite, 0), ("<&", .duplicate, 0), (">&", .duplicate, 1), ("<<", .document, 0),
    ("<<-", .document, 0)]

/-- All operators, longer ones first. -/
def operators : List String :=
  ["<<-", "&&", "||", ";;", "<<", ">>", "<&", ">&", "<>", ">|", "|", "&", ";", "<", ">", "(", ")"]

/-- What follows marks at the head of a text, and the number of escaped line ends that were
left out before it. -/
def afterMarks? : List Char → Nat → List Char → Option (Nat × List Char)
  | [], joined, cs => some (joined, cs)
  | mark :: marks, joined, cs =>
      match dropJoins joined cs with
      | (joined, c :: rest) => if c = mark then afterMarks? marks joined rest else none
      | (_, []) => none

/-- The operator that comes next, which is left behind.  Escaped line ends may stand between
its marks. -/
def operator? : Parse (Option String) :=
  modifyGet fun r =>
    let found? := operators.findSome? fun op =>
      (afterMarks? op.toList 0 r.rest).map fun after => (op, after)
    match found? with
    | some (op, joined, rest) => (some op, { r with rest := rest, line := r.line + joined })
    | none => (none, r)

def skipBlanks : Nat → Parse Unit
  | 0 => pure ()
  | n + 1 => do
      match ← peekJoined with
      | some ' ' | some '\t' =>
          let _ ← takeWhile fun c => c == ' ' || c == '\t'
          skipBlanks n
      | some '#' =>
          let _ ← takeWhile (· != '\n')
          skipBlanks n
      | _ => pure ()

/-- Leaves the aliases behind that were read to their end; says whether one of them
asks that the next word be looked up as well. -/
def closeAliases : Parse Bool :=
  modifyGet fun r =>
    if r.active.isEmpty then (false, r)
    else
      let left := r.rest.length
      (r.active.any fun a => a.blankEnd && decide (left ≤ a.behind),
        { r with active := r.active.filter fun a => decide (a.behind < left) })

/-- Puts the text of an alias in the place of its name; says whether there was one
that is not being read already. -/
def openAlias (name : String) : Parse Bool :=
  modifyGet fun r =>
    match r.aliases.lookup name with
    | none => (false, r)
    | some text =>
        if r.active.any (·.name == name) then (false, r)
        else
          let cs := text.toList
          let blankEnd := cs.getLast? == some ' ' || cs.getLast? == some '\t'
          (true,
            { r with
              rest := cs ++ r.rest
              active := ⟨name, blankEnd, r.rest.length⟩ :: r.active })

def assignment? (w : Word) : Option (String × Word) :=
  match w with
  | .text chars false :: rest =>
      match Text.cutOnce '=' chars with
      | some (name, value) =>
          if isName name then some (name, if value = "" then rest else .text value false :: rest)
          else none
      | none => none
  | _ => none

/-- The number that a word before a redirect stands for: one digit. -/
def descriptor? (w : Word) : Option Nat :=
  match plain? w with
  | some s =>
      match s.toList with
      | [d] => if d.isDigit then some (d.toNat - '0'.toNat) else none
      | _ => none
  | none => none

def wordOp? (colon : Bool) : Char → Option ParamOp
  | '-' => some (.default colon)
  | '=' => some (.assign colon)
  | '?' => some (.demand colon)
  | '+' => some (.alternative colon)
  | _ => none

def paramOp : Parse ParamOp := do
  match ← peekJoined with
  | some '\x7d' =>
      skip
      return .value
  | some ':' =>
      skip
      let op := (← peekJoined).bind (wordOp? true)
      skip
      return op.getD .malformed
  | some '%' =>
      skip
      if (← peekJoined) == some '%' then
        skip
        return .cutEnd true
      return .cutEnd false
  | some '#' =>
      skip
      if (← peekJoined) == some '#' then
        skip
        return .cutStart true
      return .cutStart false
  | some c =>
      skip
      return (wordOp? false c).getD .malformed
  | none => return .malformed

def paramName? : Parse (Option String) := do
  match ← peekJoined with
  | some c =>
      if isNameStart c then return some (← takeJoined isNameRest 1000 "")
      else if c.isDigit then return some (← takeJoined Char.isDigit 1000 "")
      else return none
  | none => return none

/-- Reads what follows the length mark at the head of braces: the length of a parameter,
or the number of parameters under an operator. -/
def afterLengthMark : Parse (String × ParamOp) := do
  match ← paramName? with
  | some name =>
      if (← peekJoined) == some '\x7d' then
        skip
        return (name, .length)
      return (name, .malformed)
  | none =>
      match (← get).rest with
      | c :: '\x7d' :: _ =>
          if c = '\x7d' then return ("#", ← paramOp)
          skip
          skip
          return (c.toString, if isSpecial c then .length else .malformed)
      | _ => return ("#", ← paramOp)

def paramHead : Parse (String × ParamOp) := do
  match ← paramName? with
  | some name => return (name, ← paramOp)
  | none =>
      match ← peekJoined with
      | some '#' =>
          skip
          afterLengthMark
      | some c =>
          if isSpecial c then
            skip
            return (c.toString, ← paramOp)
          return ("", .malformed)
      | none => return ("", .malformed)

def isPlainQuoted (c : Char) : Bool :=
  !(['"', '\\', '$', '\x60'].contains c)

def isPlainWord (c : Char) : Bool :=
  isPlainQuoted c && c != '\x27' && !endsWord c

def isPlainBrace (c : Char) : Bool :=
  isPlainQuoted c && c != '\x27' && c != '\x7d'

mutual

def wordParts : Nat → List Part → Parse Word
  | 0, _ => fail .tooDeep
  | n + 1, acc => do
      match ← peekJoined with
      | none => return acc.reverse
      | some c =>
          if endsWord c then return acc.reverse
          if isPlainWord c then wordParts n (pushText false (← takeWhile isPlainWord) acc)
          else wordParts n (← basePart n c acc)

/-- Reads a piece outside double quotes that begins with a character of meaning. -/
def basePart : Nat → Char → List Part → Parse (List Part)
  | 0, _, _ => fail .tooDeep
  | n + 1, c, acc => do
      skip
      if c = '\\' then
        match ← peek with
        | some d =>
            skip
            return pushText true d.toString acc
        | none => return pushText true "\\" acc
      else if c = '\x27' then return pushText true (← singleQuoted) acc
      else if c = '"' then
        let inner ← quotedParts n []
        match inner with
        | [.param "@" .value _ _] => return inner ++ acc
        | _ => return inner ++ pushText true "" acc
      else if c = '$' then return (← dollarPart n false) :: acc
      else if c = '\x60' then return (← backPart n false) :: acc
      else return pushText false c.toString acc

def quotedParts : Nat → List Part → Parse (List Part)
  | 0, _ => fail .tooDeep
  | n + 1, acc => do
      match ← peekJoined with
      | none => fail .unterminatedQuote
      | some c =>
          if isPlainQuoted c then quotedParts n (pushText true (← takeWhile isPlainQuoted) acc)
          else if c = '"' then
            skip
            return acc
          else quotedParts n (← insidePart n ['"'] c acc)

/-- Reads a piece inside double quotes that begins with a character of meaning; a
backslash guards those of meaning and the given ones. -/
def insidePart : Nat → List Char → Char → List Part → Parse (List Part)
  | 0, _, _, _ => fail .tooDeep
  | n + 1, guarded, c, acc => do
      skip
      if c = '\\' then
        match ← peek with
        | some d =>
            skip
            if ['$', '\x60', '\\'].contains d || guarded.contains d then
              return pushText true d.toString acc
            return pushText true ("\\".push d) acc
        | none => return pushText true "\\" acc
      else if c = '$' then return (← dollarPart n true) :: acc
      else if c = '\x60' then return (← backPart n true) :: acc
      else return pushText true c.toString acc

/-- Reads the pieces of a text in which double quotes have no meaning, up to its end. -/
def documentParts : Nat → List Part → Parse Word
  | 0, _ => fail .tooDeep
  | n + 1, acc => do
      match ← peekJoined with
      | none => return acc.reverse
      | some c =>
          if isPlainQuoted c then documentParts n (pushText true (← takeWhile isPlainQuoted) acc)
          else documentParts n (← insidePart n [] c acc)

def arithmeticParts : Nat → Nat → List Part → Parse Word
  | 0, _, _ => fail .tooDeep
  | n + 1, depth, acc => do
      match ← peekJoined with
      | none => fail .missingBrackets
      | some '(' =>
          skip
          arithmeticParts n (depth + 1) (pushText true "(" acc)
      | some ')' =>
          skip
          if 0 < depth then arithmeticParts n (depth - 1) (pushText true ")" acc)
          else if (← peekJoined) == some ')' then
            skip
            return acc.reverse
          else arithmeticParts n 0 (pushText true ")" acc)
      | some c =>
          let isPlain := fun (c : Char) => isPlainQuoted c && c != '(' && c != ')'
          if isPlain c then arithmeticParts n depth (pushText true (← takeWhile isPlain) acc)
          else arithmeticParts n depth (← insidePart n ['"'] c acc)

def braceParts : Nat → List Part → Parse Word
  | 0, _ => fail .tooDeep
  | n + 1, acc => do
      match ← peekJoined with
      | none => fail .missingBrace
      | some c =>
          if isPlainBrace c then braceParts n (pushText false (← takeWhile isPlainBrace) acc)
          else if c = '\x7d' then
            skip
            return acc.reverse
          else braceParts n (← basePart n c acc)

/-- Reads the word of a parameter inside double quotes, up to the closing brace; quotes
inside it shield braces. -/
def braceQuotedParts : Nat → Bool → List Part → Parse Word
  | 0, _, _ => fail .tooDeep
  | n + 1, shielded, acc => do
      match ← peekJoined with
      | none => fail .unterminatedQuote
      | some c =>
          let isPlain := fun (c : Char) => isPlainQuoted c && c != '\x7d'
          if isPlain c then
            braceQuotedParts n shielded (pushText true (← takeWhile isPlain) acc)
          else if c = '"' then
            skip
            braceQuotedParts n (!shielded) acc
          else if c = '\x7d' && !shielded then
            skip
            return acc.reverse
          else braceQuotedParts n shielded (← insidePart n ['"', '\x7d'] c acc)

def dollarPart : Nat → Bool → Parse Part
  | 0, _ => fail .tooDeep
  | n + 1, quoted => do
      match ← peekJoined with
      | some '(' =>
          skip
          if (← peekJoined) == some '(' then
            skip
            return .arithmetic (← arithmeticParts n 0 []) quoted
          let pending := (← get).pending
          modify fun r => { r with pending := [] }
          let body ← commands n .clause []
          let t ← token n .plain
          unless t.isMark ")" do failAt t (some "\")\"")
          modify fun r => { r with pending := pending }
          return .command body quoted
      | some '\x7b' =>
          skip
          let (name, op) ← paramHead
          match op with
          | .value | .length => return .param name op [] quoted
          | .cutStart _ | .cutEnd _ => return .param name op (← braceParts n []) quoted
          | _ =>
              if quoted then return .param name op (← braceQuotedParts n false []) quoted
              return .param name op (← braceParts n []) quoted
      | some c =>
          if isNameStart c then
            return .param (← takeJoined isNameRest 1000 "") .value [] quoted
          else if isSpecial c then
            skip
            return .param c.toString .value [] quoted
          else return .text "$" quoted
      | none => return .text "$" quoted

def backPart : Nat → Bool → Parse Part
  | 0, _ => fail .tooDeep
  | n + 1, quoted => do
      let outer ← get
      match backQuoted quoted "" outer.rest with
      | none =>
          set { outer with rest := [], line := outer.line + outer.rest.count '\n' }
          fail .openBackQuote
      | some (inner, rest) =>
          set { outer with
            rest := inner.toList
            behind := some (outer.behind.getD rest.length)
            line := 1
            pending := [] }
          let body ← commands n .clause []
          let passed := outer.rest.take (outer.rest.length - rest.length)
          modify fun r =>
            { r with
              rest := rest
              behind := outer.behind
              line := outer.line + passed.count '\n'
              pending := outer.pending
              next := none }
          return .command body quoted

/-- Reads the pieces of a here-document up to the line that ends it, given whether a line
begins. -/
def hereParts : Nat → PendingBody → Bool → List Part → Parse Word
  | 0, _, _, _ => fail .tooDeep
  | n + 1, p, true, acc => do
      skipLineStart p.strip n
      if ← acceptLine p.delimiter then return acc.reverse
      hereParts n p false acc
  | n + 1, p, false, acc => do
      match ← peekJoined with
      | none =>
          modify fun r => { r with isCut := true }
          return acc.reverse
      | some '\n' =>
          skip
          hereParts n p true (pushText true "\n" acc)
      | some c =>
          let isPlain := fun (c : Char) => isPlainQuoted c && c != '\n'
          if isPlain c then hereParts n p false (pushText true (← takeWhile isPlain) acc)
          else hereParts n p false (← insidePart n [] c acc)

def readBodies : Nat → Parse Unit
  | 0 => fail .tooDeep
  | n + 1 => do
      let r ← get
      match r.pending with
      | [] => pure ()
      | p :: ps =>
          set { r with pending := [] }
          let w ← (do
            if p.quoted then
              let (body, rest?, lines) := readBody p (r.rest.length + 1) "" 0 r.rest
              modify fun r =>
                { r with
                  rest := rest?.getD []
                  line := r.line + lines
                  isCut := r.isCut || rest?.isNone }
              return [.text body true]
            hereParts n p true [])
          modify fun after =>
            { after with
              pending := ps
              documents := after.documents.setIfInBounds p.number w }
          readBodies n

def token : Nat → Look → Parse Token
  | 0, _ => fail .tooDeep
  | n + 1, look => do
      match (← get).next with
      | some t =>
          modify fun r => { r with next := none }
          match t with
          | .newline => if look.lines then token n look else return t
          | _ => return t
      | none =>
          skipBlanks (n + 1)
          let asked ← closeAliases
          match ← peek with
          | none => return .endOfText
          | some '\n' =>
              skip
              readBodies n
              if look.lines then token n look else return .newline
          | some _ =>
              match ← operator? with
              | some op =>
                  return if redirOps.any (·.1 == op) then .redirect none op else .mark op
              | none =>
                  let w ← wordParts n []
                  let c ← peek
                  match descriptor? w, c == some '<' || c == some '>' with
                  | some fd, true =>
                      return .redirect (some fd) ((← operator?).getD "")
                  | _, _ =>
                      match plain? w with
                      | none => return .word w
                      | some spelling =>
                          if look.reserved && reservedWords.contains spelling then
                            return .reserved spelling
                          if (look.aliases || asked) then
                            if ← openAlias spelling then
                              return ← token n { look with aliases := true }
                          return .word w

/-- Reads the items of a list of commands, given those before in reverse order. -/
def commands : Nat → ListKind → Body → Parse Body
  | 0, _, _ => fail .tooDeep
  | n + 1, kind, acc => do
      let t ← token n { Look.here with lines := kind != .line }
      match t with
      | .newline => return acc.reverse
      | .endOfText =>
          readBodies n
          putBack t
          return acc.reverse
      | _ =>
          putBack t
          if (kind = .clause || (kind = .block && !acc.isEmpty)) && t.endsList then
            return acc.reverse
          let links ← andOr n .always
          let after ← token n .plain
          let acc := ⟨links, after.isMark "&"⟩ :: acc
          match after with
          | .newline | .endOfText =>
              putBack after
              commands n kind acc
          | .mark "&" | .mark ";" => commands n kind acc
          | _ =>
              if kind = .line then failAt after none
              putBack after
              return acc.reverse

def andOr : Nat → Connector → Parse (List (Link Cmd))
  | 0, _ => fail .tooDeep
  | n + 1, connector => do
      let link ← pipeline n connector
      let t ← token n .plain
      match t with
      | .mark "&&" => return link :: (← andOr n .onSuccess)
      | .mark "||" => return link :: (← andOr n .onFailure)
      | _ =>
          putBack t
          return [link]

def pipeline : Nat → Connector → Parse (Link Cmd)
  | 0, _ => fail .tooDeep
  | n + 1, connector => do
      let t ← token n .command
      if t.isReserved "!" then return ⟨connector, true, ← stages n .here⟩
      putBack t
      return ⟨connector, false, ← stages n .command⟩

def stages : Nat → Look → Parse (List Cmd)
  | 0, _ => fail .tooDeep
  | n + 1, look => do
      let first ← command n look
      let t ← token n .plain
      if t.isMark "|" then return first :: (← stages n .command)
      putBack t
      return [first]

def expectReserved : Nat → String → Parse Unit
  | 0, _ => fail .tooDeep
  | n + 1, text => do
      let t ← token n .here
      unless t.isReserved text do failAt t (some ("\"" ++ text ++ "\""))

def command : Nat → Look → Parse Cmd
  | 0, _ => fail .tooDeep
  | n + 1, look => do
      let line := (← get).line
      let t ← token n look
      match t with
      | .reserved "if" => afterCommand n line (← branch n)
      | .reserved "while" => afterCommand n line (← loop n false)
      | .reserved "until" => afterCommand n line (← loop n true)
      | .reserved "for" => afterCommand n line (← each n line)
      | .reserved "case" => afterCommand n line (← select n line)
      | .reserved "\x7b" =>
          let body ← commands n .block []
          expectReserved n "\x7d"
          afterCommand n line (.group body)
      | .mark "(" =>
          let body ← commands n .block []
          let close ← token n .plain
          unless close.isMark ")" do failAt close (some "\")\"")
          afterCommand n line (.subshell body)
      | .word _ | .redirect _ _ =>
          putBack t
          simple n (← get).line [] [] []
      | _ => failAt t none

def afterCommand : Nat → Nat → Cmd → Parse Cmd
  | 0, _, _ => fail .tooDeep
  | n + 1, line, cmd => do
      let redirs ← redirects n .here
      return if redirs.isEmpty then cmd else .redirected line cmd redirs

/-- Reads redirects as long as there are any; after the first one, words have no other
meaning. -/
def redirects : Nat → Look → Parse (List (Redir Word))
  | 0, _ => fail .tooDeep
  | n + 1, look => do
      let t ← token n look
      match t with
      | .redirect fd marks => return (← target n fd marks) :: (← redirects n .plain)
      | _ =>
          putBack t
          return []

def target : Nat → Option Nat → String → Parse (Redir Word)
  | 0, _, _ => fail .tooDeep
  | n + 1, fd, marks => do
      let (op, usual) := (redirOps.lookup marks).getD (.input, 0)
      skipBlanks (n + 1)
      let c ← peek
      if op == .document && c.any (!endsWord ·) then
        let (text, quoted) ← delimiterFrom n "" false
        let r ← get
        let number := r.documents.size
        let body : PendingBody := ⟨number, text, quoted, marks == "<<-"⟩
        set { r with
          pending := r.pending ++ [body]
          documents := r.documents.push [] }
        return ⟨fd.getD usual, op, [.document number]⟩
      let t ← token n .plain
      match t with
      | .word w => return ⟨fd.getD usual, op, w⟩
      | _ => failAt t none

/-- Reads a simple command, given what was read of it, or the definition of a
function. -/
def simple : Nat → Nat → List (String × Word) → List Word → List (Redir Word) → Parse Cmd
  | 0, _, _, _, _ => fail .tooDeep
  | n + 1, line, assigns, words, redirs => do
      let t ← token n (if words.isEmpty then .first else .plain)
      match t with
      | .word w =>
          match words, assignment? w with
          | [], some a => simple n line (assigns ++ [a]) words redirs
          | _, _ => simple n line assigns (words ++ [w]) redirs
      | .redirect fd marks =>
          let r ← target n fd marks
          simple n line assigns words (redirs ++ [r])
      | .mark "(" =>
          match words, assigns, redirs with
          | [name], [], [] =>
              let close ← token n .plain
              unless close.isMark ")" do failAt close (some "\")\"")
              functionBody n name
          | _, _, _ =>
              putBack t
              return .simple line assigns words redirs
      | _ =>
          putBack t
          return .simple line assigns words redirs

def functionBody : Nat → Word → Parse Cmd
  | 0, _ => fail .tooDeep
  | n + 1, w => do
      match plain? w with
      | some name =>
          if !isName name || specialBuiltins.contains name then fail .badFunctionName
          return .define name (← command n .command)
      | none => fail .badFunctionName
where
  /-- The commands whose names no function can take. -/
  specialBuiltins : List String :=
    ["break", "continue", "eval", "exec", "exit", "export", "readonly", "return", "set", "shift",
      "times", "trap", "unset"]

def branch : Nat → Parse Cmd
  | 0 => fail .tooDeep
  | n + 1 => do
      let test ← commands n .block []
      expectReserved n "then"
      let body ← commands n .block []
      let t ← token n .here
      if t.isReserved "elif" then
        return .branch test body [⟨[⟨.always, false, [← branch n]⟩], false⟩]
      if t.isReserved "else" then
        let otherwise ← commands n .block []
        expectReserved n "fi"
        return .branch test body otherwise
      putBack t
      expectReserved n "fi"
      return .branch test body []

def loop : Nat → Bool → Parse Cmd
  | 0, _ => fail .tooDeep
  | n + 1, negated => do
      let test ← commands n .block []
      expectReserved n "do"
      let body ← commands n .block []
      expectReserved n "done"
      return .loop negated test body

def each : Nat → Nat → Parse Cmd
  | 0, _ => fail .tooDeep
  | n + 1, line => do
      let t ← token n .plain
      let name ← match t with
        | .word w =>
            match plain? w with
            | some name => if isName name then pure name else fail .badLoopVariable
            | none => fail .badLoopVariable
        | _ => fail .badLoopVariable
      let t ← token n .command
      if t.isReserved "in" then
        let words ← wordsUntilEnd n
        return ← eachBody n line name (some words)
      unless t.isMark ";" do putBack t
      eachBody n line name none

def wordsUntilEnd : Nat → Parse (List Word)
  | 0 => fail .tooDeep
  | n + 1 => do
      let t ← token n .plain
      match t with
      | .word w => return w :: (← wordsUntilEnd n)
      | .newline | .mark ";" => return []
      | _ => failAt t none

def eachBody : Nat → Nat → String → Option (List Word) → Parse Cmd
  | 0, _, _, _ => fail .tooDeep
  | n + 1, line, name, words => do
      let t ← token n .command
      unless t.isReserved "do" do failAt t (some "\"do\"")
      let body ← commands n .block []
      expectReserved n "done"
      return .each line name words body

def select : Nat → Nat → Parse Cmd
  | 0, _ => fail .tooDeep
  | n + 1, line => do
      let t ← token n .plain
      match t with
      | .word subject =>
          let t ← token n .command
          unless t.isReserved "in" do failAt t (some "\"in\"")
          return .select line subject (← clauses n)
      | _ => failAt t (some "word")

def clauses : Nat → Parse (List (List Word × Body))
  | 0 => fail .tooDeep
  | n + 1 => do
      let t ← token n .pattern
      if t.isReserved "esac" then return []
      let t ← (do if t.isMark "(" then token n .plain else return t)
      let alternatives ← patterns n t
      let body ← commands n .clause []
      let t ← token n .pattern
      match t with
      | .reserved "esac" => return [(alternatives, body)]
      | .mark ";;" => return (alternatives, body) :: (← clauses n)
      | _ => failAt t (some "\";;\"")

/-- Reads the patterns of a clause from a unit on, and the bracket after them. -/
def patterns : Nat → Token → Parse (List Word)
  | 0, _ => fail .tooDeep
  | n + 1, t => do
      let w ← match t with
        | .word w => pure w
        | .reserved text => pure [.text text false]
        | _ => failAt t (some "\")\"")
      let after ← token n .plain
      match after with
      | .mark "|" => return w :: (← patterns n (← token n .plain))
      | .mark ")" => return [w]
      | _ => failAt after (some "\")\"")

end

def depthLimit : Nat := 1000000

end Parse

/-- Reads the commands of the next line, which may go on over several; none at the end
of the text. -/
def Reader.nextCommands (r : Reader) : Except Breach (Option Body × Reader) := do
  let (body, after) ← (Parse.commands Parse.depthLimit .line []).run r
  match body, after.next with
  | [], some .endOfText => .ok (none, after)
  | _, some .endOfText => .ok (some body, after)
  | _, _ => .ok (some body, { after with next := none })

def Reader.isAtEnd (r : Reader) : Bool :=
  match r.next with
  | some .endOfText => true
  | _ => false

/-- The pieces of a text that is expanded as if it stood in double quotes, or the text
itself if it breaks the grammar. -/
def quotedText (text : String) : Word :=
  match (Parse.documentParts Parse.depthLimit []).run { rest := text.toList } with
  | .ok (w, _) => w
  | .error _ => [.text text true]

end Script
end LineShell
