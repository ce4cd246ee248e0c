import LineShell.Script.Arithmetic
import LineShell.World

/-!
# Conditions of scripts

The words of a test: a condition on one file or text, a comparison of two, or
several ones joined by `-a` and `-o`, negated by `!` or grouped by brackets.
Few words are told apart by their number, so that an operand may look like an
operator.
-/

namespace LineShell
namespace Script
namespace Condition

inductive Fault where
  | illegalNumber (text : String)
  | unexpectedOperator (word : String)
  | argumentExpected (op : String)
  | closingExpected
  | missingBracket
deriving DecidableEq, Repr, Inhabited

def Fault.message : Fault → String
  | .illegalNumber text => "Illegal number: " ++ text
  | .unexpectedOperator "" => "unexpected operator"
  | .unexpectedOperator word => word ++ ": unexpected operator"
  | .argumentExpected op => op ++ ": argument expected"
  | .closingExpected => "closing paren expected"
  | .missingBracket => "missing ]"

inductive Role where
  | nothing
  | operand
  | unary
  | binary
  | negation
  | conjunction
  | disjunction
  | opening
  | closing
deriving DecidableEq, Repr, Inhabited

def unaryOps : List String :=
  ["-r", "-w", "-x", "-e", "-f", "-d", "-c", "-b", "-p", "-u", "-g", "-k", "-s", "-t", "-z", "-n",
    "-h", "-L", "-O", "-G", "-S"]

def binaryOps : List String :=
  ["=", "!=", "<", ">", "-eq", "-ne", "-ge", "-gt", "-le", "-lt", "-nt", "-ot", "-ef"]

def roleOf? (word : String) : Option Role :=
  if unaryOps.contains word then some .unary
  else if binaryOps.contains word then some .binary
  else
    match word with
    | "!" => some .negation
    | "-a" => some .conjunction
    | "-o" => some .disjunction
    | "(" => some .opening
    | ")" => some .closing
    | _ => none

/-- Whether an operator with one operand is itself an operand, given the words after
it. -/
def isOperand : List String → Bool
  | [] => true
  | [_] => false
  | op :: _ => roleOf? op == some .binary

def role : List String → Role
  | [] => .nothing
  | word :: rest =>
      match roleOf? word with
      | none => .operand
      | some .unary => if isOperand rest then .operand else .unary
      | some .opening => if rest.isEmpty then .operand else .opening
      | some r => r

/-- Whether the entry at a path has one of some permission bits. -/
def hasMode (w : World) (bits : Nat) (path : String) : Bool :=
  w.holds (fun node => node.attributes.mode &&& bits != 0) path

def unary (w : World) (op word : String) : Except Fault Bool :=
  let path := Text.ofRaw word
  match op with
  | "-n" => .ok (word != "")
  | "-z" => .ok (word == "")
  | "-e" | "-r" | "-w" | "-O" | "-G" => .ok (w.isPresent path)
  | "-f" => .ok (w.isRegular path)
  | "-d" => .ok (w.isDirectory path)
  | "-x" => .ok (w.isExecutable path || w.isDirectory path)
  | "-s" => .ok (w.holds (fun node => decide (0 < node.length) || node.isDirectory) path)
  | "-c" => .ok (w.holds (· == .null) path)
  | "-u" => .ok (hasMode w 0o4000 path)
  | "-g" => .ok (hasMode w 0o2000 path)
  | "-k" => .ok (hasMode w 0o1000 path)
  | "-h" | "-L" =>
      .ok (match w.find .keep path with
        | .ok (_, .link _ _) => true
        | _ => false)
  | "-t" =>
      match Arithmetic.number? word with
      | some _ => .ok false
      | none => .error (.illegalNumber word)
  | _ => .ok false

def compareNumbers (op a b : String) : Except Fault Bool :=
  match Arithmetic.number? a, Arithmetic.number? b with
  | some x, some y =>
      .ok (match op with
        | "-eq" => x == y
        | "-ne" => x != y
        | "-ge" => decide (y ≤ x)
        | "-gt" => decide (y < x)
        | "-le" => decide (x ≤ y)
        | _ => decide (x < y))
  | none, _ => .error (.illegalNumber a)
  | _, none => .error (.illegalNumber b)

def isNewer (w : World) (a b : String) : Bool :=
  match w.modified? (Text.ofRaw a), w.modified? (Text.ofRaw b) with
  | some x, some y => decide (y < x)
  | _, _ => false

def isSame (w : World) (a b : String) : Bool :=
  match w.find .follow (Text.ofRaw a), w.find .follow (Text.ofRaw b) with
  | .ok x, .ok y => x.1 == y.1
  | _, _ => false

def binary (w : World) (a op b : String) : Except Fault Bool :=
  match op with
  | "=" => .ok (a == b)
  | "!=" => .ok (a != b)
  | "<" => .ok (decide (a < b))
  | ">" => .ok (decide (b < a))
  | "-nt" => .ok (isNewer w a b)
  | "-ot" => .ok (isNewer w b a)
  | "-ef" => .ok (isSame w a b)
  | _ => compareNumbers op a b

/-- Reads words of a condition.  A part of a condition leaves the last word that
belongs to it in place. -/
abbrev Judge := StateT (List String) (Except Fault)

mutual

/-- Reads conditions joined by `-o`, from a word in a role on. -/
def disjunction (w : World) : Nat → Role → Judge Bool
  | 0, _ => throw (.unexpectedOperator "")
  | n + 1, r => do
      let first ← conjunction w n r
      let rest ← get
      if role (rest.drop 1) = .disjunction then
        set (rest.drop 2)
        let others ← disjunction w n (role (rest.drop 2))
        return first || others
      return first

/-- Reads conditions joined by `-a`, from a word in a role on. -/
def conjunction (w : World) : Nat → Role → Judge Bool
  | 0, _ => throw (.unexpectedOperator "")
  | n + 1, r => do
      let first ← negation w n r
      let rest ← get
      if role (rest.drop 1) = .conjunction then
        set (rest.drop 2)
        let others ← conjunction w n (role (rest.drop 2))
        return first && others
      return first

def negation (w : World) : Nat → Role → Judge Bool
  | 0, _ => throw (.unexpectedOperator "")
  | n + 1, r => do
      if r != .negation then return ← primary w n r
      let rest ← get
      let next := role (rest.drop 1)
      if next != .nothing then set (rest.drop 1)
      return !(← negation w n next)

def primary (w : World) : Nat → Role → Judge Bool
  | 0, _ => throw (.unexpectedOperator "")
  | n + 1, r => do
      let words ← get
      match r, words with
      | .nothing, _ | _, [] => return false
      | .opening, _ :: rest =>
          set rest
          if role rest = .closing then return false
          let inner ← disjunction w n (role rest)
          let after := (← get).drop 1
          set after
          unless role after = .closing do throw .closingExpected
          return inner
      | .unary, op :: rest =>
          set rest
          match rest with
          | [] => throw (.argumentExpected op)
          | word :: _ => unary w op word
      | _, word :: rest =>
          if role rest = .binary then
            set (rest.drop 1)
            match rest with
            | op :: b :: _ => binary w word op b
            | op :: [] => throw (.argumentExpected op)
            | [] => return false
          else return word != ""

end

def judge (w : World) (r : Role) (words : List String) : Except Fault Bool := do
  let (answer, rest) ← (disjunction w (8 * words.length + 8) r).run words
  match rest with
  | word :: _ :: _ => .error (.unexpectedOperator word)
  | _ => .ok answer

def isBracketed (words : List String) : Bool :=
  words.head? == some "(" && words.getLast? == some ")"

def evaluateThree (w : World) (a op b : String) : Except Fault Bool :=
  if roleOf? op = some .binary then judge w .operand [a, op, b]
  else if isBracketed [a, op, b] then judge w (role [op]) [op]
  else if a = "!" then (judge w (role [op, b]) [op, b]).map (!·)
  else judge w (role [a, op, b]) [a, op, b]

def evaluate (w : World) (words : List String) : Except Fault Bool :=
  match words with
  | [] => .ok false
  | [a, op, b] => evaluateThree w a op b
  | [a, b, c, d] =>
      if isBracketed words then judge w (role [b, c]) [b, c]
      else if a = "!" then (evaluateThree w b c d).map (!·)
      else judge w (role words) words
  | _ => judge w (role words) words

/-- What the words of a test between brackets say; the last one closes them. -/
def evaluateBracketed (w : World) (words : List String) : Except Fault Bool :=
  if words.getLast? = some "]" then evaluate w words.dropLast else .error .missingBracket

end Condition
end Script
end LineShell
