import LineShell.Script.Reader

/-!
# Arithmetic of scripts

Expressions over words of 64 bits with the usual operators, by increasing strength:
assignment, choice, the logical ones, those on bits, comparisons, shifts, sums,
products and signs.  A variable stands for the number that it spells.  The side of a
choice or of a logical operator that does not count is read but not carried out.
-/

namespace LineShell
namespace Script
namespace Arithmetic

def valueIn (base : Nat) (digits : List Char) : Nat :=
  digits.foldl (fun n c => base * n +
    (if c.isDigit then c.toNat - '0'.toNat else c.toLower.toNat - 'a'.toNat + 10)) 0

def isHexDigit (c : Char) : Bool :=
  c.isDigit || (decide ('a' ≤ c.toLower) && decide (c.toLower ≤ 'f'))

def isOctalDigit (c : Char) : Bool :=
  decide ('0' ≤ c) && decide (c ≤ '7')

def isSpace (c : Char) : Bool :=
  c == ' ' || (decide ('\t' ≤ c) && decide (c ≤ '\r'))

/-- The least and the greatest number of a word. -/
def leastNumber : Int := -9223372036854775808

@[inherit_doc leastNumber]
def greatestNumber : Int := 9223372036854775807

/-- Reads an unsigned number, with a mark for its base before it, and returns what
follows. -/
def readNumber (cs : List Char) : Nat × List Char :=
  match cs with
  | '0' :: x :: d :: rest =>
      if (x = 'x' ∨ x = 'X') ∧ isHexDigit d then
        let digits := d :: rest
        (valueIn 16 (digits.takeWhile isHexDigit), digits.dropWhile isHexDigit)
      else
        let digits := x :: d :: rest
        (valueIn 8 (digits.takeWhile isOctalDigit), digits.dropWhile isOctalDigit)
  | '0' :: rest => (valueIn 8 (rest.takeWhile isOctalDigit), rest.dropWhile isOctalDigit)
  | _ => (valueIn 10 (cs.takeWhile Char.isDigit), cs.dropWhile Char.isDigit)

def readDecimal (cs : List Char) : Nat × List Char :=
  (valueIn 10 (cs.takeWhile Char.isDigit), cs.dropWhile Char.isDigit)

/-- Reads a number with a sign after blanks, by a reader of its digits: the number, what
follows it, and whether there were digits. -/
def readSigned (digits : List Char → Nat × List Char) (text : String) : Int × List Char × Bool :=
  let cs := text.toList.dropWhile isSpace
  let (negative, rest) := match cs with
    | '-' :: rest => (true, rest)
    | '+' :: rest => (false, rest)
    | rest => (false, rest)
  if rest.head?.any Char.isDigit then
    let (value, after) := digits rest
    (if negative then -(value : Int) else value, after, true)
  else (0, text.toList, false)

def fits (n : Int) : Bool :=
  decide (leastNumber ≤ n) && decide (n ≤ greatestNumber)

/-- The number that a text spells in base ten, between blanks. -/
def number? (text : String) : Option Int :=
  let (value, rest, found) := readSigned readDecimal text
  if found && rest.all isSpace && fits value then some value else none

/-- The number that the value of a variable spells in any base; an empty one is zero. -/
def variableNumber? (text : String) : Option Int :=
  let (value, rest, _) := readSigned readNumber text
  if rest.all isSpace && fits value then some value else none

inductive Fault where
  | primary
  | closing
  | colon
  | rest
  | division
  /-- A quotient that no word holds. -/
  | overflow
  | illegalNumber (text : String)
deriving DecidableEq, Repr, Inhabited

def Fault.message (source : String) : Fault → String
  | .primary => "arithmetic expression: expecting primary: \"" ++ source ++ "\""
  | .closing => "arithmetic expression: expecting \x27)\x27: \"" ++ source ++ "\""
  | .colon => "arithmetic expression: expecting \x27:\x27: \"" ++ source ++ "\""
  | .rest => "arithmetic expression: expecting EOF: \"" ++ source ++ "\""
  | .division => "arithmetic expression: division by zero: \"" ++ source ++ "\""
  | .overflow => ""
  | .illegalNumber text => "Illegal number: " ++ text

inductive Symbol where
  | number (value : Int64)
  | name (text : String)
  | op (marks : String)
deriving DecidableEq, Inhabited

def operators : List String :=
  ["<<=", ">>=", "&&", "||", "==", "!=", "<=", ">=", "<<", ">>", "+=", "-=", "*=", "/=", "%=",
    "&=", "^=", "|=", "=", "<", ">", "&", "|", "^", "+", "-", "*", "/", "%", "!", "~", "(", ")",
    "?", ":"]

/-- A number as a word; one that does not fit is the greatest one. -/
def wordOf (n : Nat) : Int64 :=
  if fits n then Int64.ofInt n else Int64.ofInt greatestNumber

/-- The symbols of an expression, within a number of steps; what is none of them is an
operator that no rule asks for. -/
def symbols : Nat → List Char → List Symbol
  | 0, _ => []
  | _ + 1, [] => []
  | n + 1, c :: rest =>
      if isSpace c then symbols n rest
      else if c.isDigit then
        let (value, after) := readNumber (c :: rest)
        .number (wordOf value) :: symbols n after
      else if isNameStart c then
        .name (String.ofList ((c :: rest).takeWhile isNameRest)) ::
          symbols n (rest.dropWhile isNameRest)
      else
        match operators.find? fun op => op.toList.isPrefixOf (c :: rest) with
        | some op => .op op :: symbols n ((c :: rest).drop op.length)
        | none => [.op c.toString]

structure Tape where
  rest : List Symbol
  assigned : List (String × Int64) := []

/-- Reads a part of an expression.  What it has set stays set after a fault. -/
abbrev Calc := ExceptT Fault (StateM Tape)

def strength? : String → Option Nat
  | "*" | "/" | "%" => some 8
  | "+" | "-" => some 7
  | "<<" | ">>" => some 6
  | "<" | "<=" | ">" | ">=" => some 5
  | "==" | "!=" => some 4
  | "&" => some 3
  | "^" => some 2
  | "|" => some 1
  | _ => none

def ofBool (b : Bool) : Int64 :=
  if b then 1 else 0

def divisionFault? (a b : Int64) : Option Fault :=
  if b = 0 then some .division
  else if a = Int64.minValue ∧ b = -1 then some .overflow
  else none

/-- Applies an operator; nothing is divided by zero. -/
def apply (op : String) (a b : Int64) : Except Fault Int64 :=
  match op with
  | "+" => .ok (a + b)
  | "-" => .ok (a - b)
  | "*" => .ok (a * b)
  | "/" => (divisionFault? a b).elim (.ok (a / b)) .error
  | "%" => (divisionFault? a b).elim (.ok (a % b)) .error
  | "<<" => .ok (a <<< b)
  | ">>" => .ok (a >>> b)
  | "<" => .ok (ofBool (a < b))
  | "<=" => .ok (ofBool (a ≤ b))
  | ">" => .ok (ofBool (b < a))
  | ">=" => .ok (ofBool (b ≤ a))
  | "==" => .ok (ofBool (a == b))
  | "!=" => .ok (ofBool (a != b))
  | "&" => .ok (a &&& b)
  | "^" => .ok (a ^^^ b)
  | _ => .ok (a ||| b)

def valueOfName (lookup : String → String) (name : String) : Calc Int64 := do
  match (← get).assigned.lookup name with
  | some value => return value
  | none =>
      match variableNumber? (lookup name) with
      | some value => return Int64.ofInt value
      | none => throw (.illegalNumber (lookup name))

def setVariable (name : String) (value : Int64) : Calc PUnit :=
  modify fun t => { t with assigned := (name, value) :: t.assigned }

def peek : Calc (Option Symbol) := do
  return (← get).rest.head?

def skip : Calc PUnit :=
  modify fun t => { t with rest := t.rest.drop 1 }

def accept (marks : String) : Calc Bool := do
  if (← peek) == some (.op marks) then
    skip
    return true
  return false

/-- Reads an operator that sets a variable, and returns its marks before the last
one. -/
def assignOp? : Calc (Option String) := do
  match ← peek with
  | some (.op marks) =>
      let isAssign := marks == "=" ||
        (["==", "!=", "<=", ">="].all (· != marks) && marks.toList.getLast? == some '=')
      if isAssign then
        skip
        return some (String.ofList marks.toList.dropLast)
      return none
  | _ => return none

mutual

def assignment (lookup : String → String) : Nat → Bool → Calc Int64
  | 0, _ => throw .primary
  | n + 1, idle => do
      match (← get).rest with
      | .name name :: after =>
          let before ← get
          set { before with rest := after }
          match ← assignOp? with
          | some op =>
              let value ← assignment lookup n idle
              if idle then return value
              let result ← (do
                if op = "" then return value
                let old ← valueOfName lookup name
                match apply op old value with
                | .ok result => return result
                | .error fault => throw fault)
              setVariable name result
              return result
          | none =>
              set before
              choice lookup n idle
      | _ => choice lookup n idle

def choice (lookup : String → String) : Nat → Bool → Calc Int64
  | 0, _ => throw .primary
  | n + 1, idle => do
      let test ← disjunction lookup n idle
      if ← accept "?" then
        let first ← assignment lookup n (idle || test == 0)
        unless ← accept ":" do throw .colon
        let second ← choice lookup n (idle || test != 0)
        return if test != 0 then first else second
      return test

def disjunction (lookup : String → String) : Nat → Bool → Calc Int64
  | 0, _ => throw .primary
  | n + 1, idle => do
      let first ← conjunction lookup n idle
      if ← accept "||" then
        let second ← disjunction lookup n (idle || first != 0)
        return ofBool (first != 0 || second != 0)
      return first

def conjunction (lookup : String → String) : Nat → Bool → Calc Int64
  | 0, _ => throw .primary
  | n + 1, idle => do
      let first ← operation lookup n idle 1
      if ← accept "&&" then
        let second ← conjunction lookup n (idle || first == 0)
        return ofBool (first != 0 && second != 0)
      return first

def operation (lookup : String → String) : Nat → Bool → Nat → Calc Int64
  | 0, _, _ => throw .primary
  | n + 1, idle, least => do
      let first ← operand lookup n idle
      operatorsFrom lookup n idle least first

def operatorsFrom (lookup : String → String) : Nat → Bool → Nat → Int64 → Calc Int64
  | 0, _, _, _ => throw .primary
  | n + 1, idle, least, first => do
      match ← peek with
      | some (.op marks) =>
          match strength? marks with
          | some k =>
              if least ≤ k then
                skip
                let second ← operation lookup n idle (k + 1)
                if idle then return ← operatorsFrom lookup n idle least second
                match apply marks first second with
                | .ok result => operatorsFrom lookup n idle least result
                | .error fault => throw fault
              else return first
          | none => return first
      | _ => return first

def operand (lookup : String → String) : Nat → Bool → Calc Int64
  | 0, _ => throw .primary
  | n + 1, idle => do
      match ← peek with
      | some (.number value) =>
          skip
          return value
      | some (.name name) =>
          skip
          if idle then return 0
          valueOfName lookup name
      | some (.op "(") =>
          skip
          let value ← assignment lookup n idle
          unless ← accept ")" do throw .closing
          return value
      | some (.op "+") =>
          skip
          operand lookup n idle
      | some (.op "-") =>
          skip
          return -(← operand lookup n idle)
      | some (.op "!") =>
          skip
          return ofBool ((← operand lookup n idle) == 0)
      | some (.op "~") =>
          skip
          return ~~~(← operand lookup n idle)
      | _ => throw .primary

end

/-- The value of an expression or its fault, and the variables that it has set, in their
order. -/
def evaluate (lookup : String → String) (source : String) :
    Except Fault Int × List (String × Int) :=
  let rest := symbols (source.length + 1) source.toList
  let act : Calc Int := do
    let value ← assignment lookup (16 * rest.length + 32) false
    if (← get).rest.isEmpty then return value.toInt else throw .rest
  let (result, tape) := act.run.run { rest := rest }
  (result, tape.assigned.reverse.map fun a => (a.1, a.2.toInt))

end Arithmetic
end Script
end LineShell
