import LineShell.Script.Floating
import LineShell.Text.Bytes

/-!
# Formatted output of scripts

A format is repeated as long as there are arguments.  Texts are raw, so that an escape
may stand for any byte.
-/

namespace LineShell
namespace Script
namespace Printf

/-- The character of an escape, and what follows it; a backslash before anything else
stands for itself. -/
def escape (cs : List Char) : Char × List Char :=
  match cs with
  | 'n' :: rest => ('\n', rest)
  | 't' :: rest => ('\t', rest)
  | 'r' :: rest => ('\r', rest)
  | 'a' :: rest => ('\x07', rest)
  | 'b' :: rest => ('\x08', rest)
  | 'e' :: rest => ('\x1b', rest)
  | 'f' :: rest => ('\x0c', rest)
  | 'v' :: rest => ('\x0b', rest)
  | '\\' :: rest => ('\\', rest)
  | _ =>
      let digits := (cs.take 3).takeWhile Arithmetic.isOctalDigit
      if digits.isEmpty then ('\\', cs)
      else (Char.ofNat (Arithmetic.valueIn 8 digits % 256), cs.drop digits.length)

/-- The character of an escape in an argument, and what follows it: an octal number may
have a zero before its three digits. -/
def argumentEscape (cs : List Char) : Char × List Char :=
  match cs with
  | '0' :: rest =>
      let digits := (rest.take 3).takeWhile Arithmetic.isOctalDigit
      (Char.ofNat (Arithmetic.valueIn 8 digits % 256), rest.drop digits.length)
  | _ => escape cs

/-- An argument with its escapes, within a number of steps, and whether it stops
all output. -/
def escapes : Nat → String → List Char → String × Bool
  | 0, text, _ => (text, false)
  | _ + 1, text, [] => (text, false)
  | _ + 1, text, '\\' :: 'c' :: _ => (text, true)
  | n + 1, text, '\\' :: rest =>
      let e := argumentEscape rest
      escapes n (text.push e.1) e.2
  | n + 1, text, c :: rest => escapes n (text.push c) rest

def escaped (text : String) : String × Bool :=
  escapes (text.length + 1) "" text.toList

structure Layout where
  alternate : Bool := false
  left : Bool := false
  plus : Bool := false
  space : Bool := false
  zero : Bool := false
  width : Nat := 0
  precision : Option Nat := none

namespace Layout

def place (l : Layout) (text : String) : String :=
  let fill := String.ofList (List.replicate (l.width - text.length) ' ')
  if l.left then text ++ fill else fill ++ text

/-- Places the digits of a number after a sign or another mark; zeros go between. -/
def placeNumber (l : Layout) (lead digits : String) (zeros : Bool) : String :=
  if zeros && l.zero && !l.left then
    lead ++ Text.padStart (l.width - lead.length) '0' digits
  else l.place (lead ++ digits)

def sign (l : Layout) (negative : Bool) : String :=
  if negative then "-" else if l.plus then "+" else if l.space then " " else ""

def digits (l : Layout) (base n : Nat) : String :=
  let shown := String.ofList (Nat.toDigits base n)
  match l.precision with
  | none => shown
  | some p => if p = 0 ∧ n = 0 then "" else Text.padStart p '0' shown

def signed (l : Layout) (n : Int) : String :=
  l.placeNumber (l.sign (n < 0)) (l.digits 10 n.natAbs) l.precision.isNone

def unsigned (l : Layout) (conversion : Char) (n : Nat) : String :=
  let zeros := l.precision.isNone
  match conversion with
  | 'x' => l.placeNumber (if l.alternate && n != 0 then "0x" else "") (l.digits 16 n) zeros
  | 'X' => l.placeNumber (if l.alternate && n != 0 then "0X" else "") (l.digits 16 n).toUpper zeros
  | 'o' =>
      let shown := l.digits 8 n
      l.placeNumber "" (if l.alternate && !Text.startsWith shown "0" then "0" ++ shown else shown)
        zeros
  | _ => l.placeNumber "" (l.digits 10 n) zeros

def floating (l : Layout) (conversion : Char) (x : Floating) : String :=
  let shown := Floating.render conversion.toLower l.alternate l.precision x.magnitude
  let isNumber := match x.magnitude with
    | .finite _ _ => true
    | _ => false
  let mark := if isNumber && conversion.toLower == 'a' then "0x" else ""
  let cased := fun (text : String) => if conversion.isUpper then text.toUpper else text
  l.placeNumber (l.sign x.negative ++ cased mark) (cased shown) isNumber

end Layout

/-- What a format has come to: the arguments that are left, what it writes, and what it
complains of. -/
structure Progress where
  args : List String
  output : String := ""
  complaints : List String := []
  stopped : Bool := false
  /-- The format is malformed. -/
  broken : Bool := false

namespace Progress

def add (p : Progress) (text : String) : Progress :=
  { p with output := p.output ++ text }

def complain (p : Progress) (message : String) : Progress :=
  { p with complaints := p.complaints ++ [message] }

def halt (p : Progress) (message : String) : Progress :=
  { p.complain message with stopped := true, broken := true }

/-- Takes an argument; there is always one more, which is empty. -/
def take (p : Progress) : String × Progress :=
  (p.args.head?.getD "", { p with args := p.args.drop 1 })

def check (p : Progress) (arg : String) (rest : List Char) (inRange : Bool) : Progress :=
  if !rest.isEmpty then
    if rest.length = arg.length then p.complain (arg ++ ": expected numeric value")
    else p.complain (arg ++ ": not completely converted")
  else if inRange then p
  else p.complain (arg ++ ": Numerical result out of range")

/-- The code of the character after a quote, if an argument begins with one. -/
def quotedCode? (arg : String) : Option Nat :=
  match arg.toList with
  | c :: rest =>
      if c = '"' ∨ c = '\x27' then some ((rest.head?.map Char.toNat).getD 0) else none
  | [] => none

def takeSigned (p : Progress) : Int × Progress :=
  let (arg, p) := p.take
  match quotedCode? arg with
  | some code => (code, p)
  | none =>
      let (n, rest, _) := Arithmetic.readSigned Arithmetic.readNumber arg
      (max Arithmetic.leastNumber (min n Arithmetic.greatestNumber),
        p.check arg rest (Arithmetic.fits n))

def wordCount : Int := 18446744073709551616

/-- Takes a number without a sign; a negative one is counted from the end. -/
def takeUnsigned (p : Progress) : Nat × Progress :=
  let (arg, p) := p.take
  match quotedCode? arg with
  | some code => (code, p)
  | none =>
      let (n, rest, _) := Arithmetic.readSigned Arithmetic.readNumber arg
      let inRange := decide (n.natAbs < wordCount.natAbs)
      ((if inRange then n % wordCount else wordCount - 1).toNat, p.check arg rest inRange)

def takeFloating (p : Progress) : Floating × Progress :=
  let (arg, p) := p.take
  match quotedCode? arg with
  | some code => (⟨false, .finite code 1⟩, p)
  | none =>
      match Floating.read? arg with
      | some r => (r.value, p.check arg r.rest r.inRange)
      | none => (⟨false, .finite 0 1⟩, p.check arg arg.toList true)

end Progress

def flags (cs : List Char) : Layout × List Char :=
  let isFlag := fun (c : Char) => ['-', '0', '+', ' ', '#'].contains c
  let marks := cs.takeWhile isFlag
  ({ alternate := marks.contains '#', left := marks.contains '-', plus := marks.contains '+'
     space := marks.contains ' ', zero := marks.contains '0' }, cs.dropWhile isFlag)

/-- Reads a number of a conversion, which an argument may give. -/
def fieldNumber (p : Progress) (cs : List Char) : Int × Progress × List Char :=
  match cs with
  | '*' :: rest =>
      let (n, p) := p.takeSigned
      (n, p, rest)
  | _ => (Text.digitsValue (cs.takeWhile Char.isDigit), p, cs.dropWhile Char.isDigit)

def layout (p : Progress) (cs : List Char) : Layout × Progress × List Char :=
  let (l, rest) := flags cs
  let (width, p, rest) := fieldNumber p rest
  let l := { l with width := width.natAbs, left := l.left || decide (width < 0) }
  match rest with
  | '.' :: tail =>
      let (precision, p, rest) := fieldNumber p tail
      ({ l with precision := if precision < 0 then none else some precision.toNat }, p, rest)
  | _ => (l, p, rest)

def convert (l : Layout) (conversion : Char) (p : Progress) : Option Progress :=
  let cut := fun (s : String) => match l.precision with
    | some n => String.ofList (s.toList.take n)
    | none => s
  match conversion with
  | 's' =>
      let (arg, p) := p.take
      some (p.add (l.place (cut arg)))
  | 'b' =>
      let (arg, p) := p.take
      let (text, stopped) := escaped arg
      some { p.add (l.place (cut text)) with stopped := stopped }
  | 'c' =>
      let (arg, p) := p.take
      some (p.add (l.place (String.ofList [arg.toList.head?.getD '\x00'])))
  | 'd' | 'i' =>
      let (n, p) := p.takeSigned
      some (p.add (l.signed n))
  | 'u' | 'o' | 'x' | 'X' =>
      let (n, p) := p.takeUnsigned
      some (p.add (l.unsigned conversion n))
  | 'f' | 'F' | 'e' | 'E' | 'g' | 'G' | 'a' | 'A' =>
      let (x, p) := p.takeFloating
      some (p.add (l.floating conversion x))
  | _ => none

def pass : Nat → List Char → Progress → Progress
  | 0, _, p => p
  | _ + 1, [], p => p
  | n + 1, '\\' :: rest, p =>
      let e := escape rest
      pass n e.2 (p.add e.1.toString)
  | n + 1, '%' :: '%' :: rest, p => pass n rest (p.add "%")
  | n + 1, '%' :: rest, p =>
      let (l, q, after) := layout p rest
      match after with
      | [] => q.halt "missing format character"
      | c :: tail =>
          match convert l c q with
          | some q => if q.stopped then q else pass n tail q
          | none =>
              let directive := (rest.take (rest.length - tail.length))
              q.halt ("%" ++ String.ofList directive ++ ": invalid directive")
  | n + 1, c :: rest, p => pass n rest (p.add c.toString)

def passes : Nat → String → Progress → Progress
  | 0, _, p => p
  | n + 1, format, p =>
      let after := pass (format.length + 1) format.toList p
      if after.stopped || after.args.isEmpty || after.args.length = p.args.length then after
      else passes n format after

def render (format : String) (args : List String) : Progress :=
  passes (args.length + 1) format { args := args }

end Printf
end Script
end LineShell
