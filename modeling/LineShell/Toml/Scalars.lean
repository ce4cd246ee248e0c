import LineShell.Toml.Item
import LineShell.Toml.Strings
import LineShell.Calendar

/-!
# Numbers, dates and times of a settings document

A value that is neither quoted nor bracketed is a row of characters without
blanks, read as a whole; only a date may go on after one blank with a time.
-/

namespace LineShell
namespace Toml

def isScalarChar (c : Char) : Bool :=
  c.isAlphanum || ['+', '-', '.', ':', '_'].contains c

/-- Digits in groups that single underscores divide, without the underscores. -/
def grouped? (isDigit : Char → Bool) (cs : List Char) : Option (List Char) :=
  let groups := (Text.parts '_' (String.ofList cs)).map String.toList
  if groups.all fun g => !g.isEmpty && g.all isDigit then some groups.flatten else none

def splitSign : List Char → Bool × List Char
  | '-' :: rest => (true, rest)
  | '+' :: rest => (false, rest)
  | cs => (false, cs)

/-- The digits of a decimal number, which begin with a zero only if there is
nothing else. -/
def decimalDigits? (cs : List Char) : Option (List Char) :=
  match cs with
  | '0' :: _ :: _ => none
  | _ => grouped? Char.isDigit cs

/-- The least number that an integer does not reach, `2 ^ 63`. -/
def integerLimit : Int := 9223372036854775808

def inRange (n : Int) : Bool :=
  decide (-integerLimit ≤ n) && decide (n < integerLimit)

def baseValue (base : Nat) (cs : List Char) : Nat :=
  cs.foldl (fun n c => base * n + (hexDigit? c).getD 0) 0

def basedInteger? (base : Nat) (cs : List Char) : Option Item := do
  let digits ← grouped? (fun c => (hexDigit? c).any (· < base)) cs
  let value : Int := baseValue base digits
  if inRange value then some (.integer value) else none

def integer? (cs : List Char) : Option Item :=
  match cs with
  | '0' :: 'x' :: rest => basedInteger? 16 rest
  | '0' :: 'o' :: rest => basedInteger? 8 rest
  | '0' :: 'b' :: rest => basedInteger? 2 rest
  | _ => do
      let signed := splitSign cs
      let value : Int := Text.digitsValue (← decimalDigits? signed.2)
      let value := if signed.1 then -value else value
      if inRange value then some (.integer value) else none

/-- The least number that is too large for a double float: half a step above the
largest one. -/
def floatLimit : Nat := Nat.pow 2 1024 - Nat.pow 2 970

def overflows (digits : List Char) (exponent : Int) : Bool :=
  let value := Text.digitsValue digits
  if value = 0 then false
  else
    let magnitude : Int := (Nat.toDigits 10 value).length + exponent
    if 310 < magnitude then true
    else if magnitude < 300 then false
    else if 0 ≤ exponent then decide (floatLimit ≤ value * Nat.pow 10 exponent.toNat)
    else decide (floatLimit * Nat.pow 10 (-exponent).toNat ≤ value)

/-- The part before the first character of a class, and the part after it. -/
def cutAt? (p : Char → Bool) (cs : List Char) : List Char × Option (List Char) :=
  match cs.dropWhile (!p ·) with
  | [] => (cs, none)
  | _ :: rest => (cs.takeWhile (!p ·), some rest)

def exponent? (cs : List Char) : Option Int := do
  let signed := splitSign cs
  let value : Int := Text.digitsValue (← grouped? Char.isDigit signed.2)
  some (if signed.1 then -value else value)

/-- Whether a row of characters is a float: a decimal with a fraction or an
exponent, or one of the special values.  A positive number must not be too
large. -/
def isFloat (cs : List Char) : Bool :=
  let signed := splitSign cs
  if signed.2 = "inf".toList ∨ signed.2 = "nan".toList then true
  else
    let power := cutAt? (fun c => c == 'e' || c == 'E') signed.2
    let point := cutAt? (· == '.') power.1
    if power.2.isNone && point.2.isNone then false
    else
      match decimalDigits? point.1, grouped? Char.isDigit (point.2.getD ['0']),
          exponent? (power.2.getD ['0']) with
      | some whole, some fraction, some exponent =>
          signed.1 || !overflows (whole ++ fraction) (exponent - fraction.length)
      | _, _, _ => false

def twoDigits? (low high : Nat) (a b : Char) : Option Nat :=
  let n := Text.digitsValue [a, b]
  if a.isDigit && b.isDigit && decide (low ≤ n) && decide (n ≤ high) then some n else none

def monthLength (year month : Nat) : Nat :=
  if month = 2 then
    if year % 4 = 0 ∧ (year % 100 ≠ 0 ∨ year % 400 = 0) then 29 else 28
  else if month = 4 ∨ month = 6 ∨ month = 9 ∨ month = 11 then 30
  else 31

def date? : List Char → Option (String × List Char)
  | y1 :: y2 :: y3 :: y4 :: '-' :: m1 :: m2 :: '-' :: d1 :: d2 :: rest => do
      let month ← twoDigits? 1 12 m1 m2
      let day ← twoDigits? 1 31 d1 d2
      let year := Text.digitsValue [y1, y2, y3, y4]
      if [y1, y2, y3, y4].all Char.isDigit && decide (day ≤ monthLength year month) then
        some ((Date.mk year month day).render, rest)
      else none
  | _ => none

/-- A fraction of a second as it is shown: nine digits at most, without zeros at
the end. -/
def fractionText (digits : List Char) : String :=
  let kept := Text.dropEnd (· == '0') (String.ofList (digits.take 9))
  if kept = "" then "" else "." ++ kept

def time? : List Char → Option (String × List Char)
  | h1 :: h2 :: ':' :: m1 :: m2 :: ':' :: s1 :: s2 :: rest => do
      let hour ← twoDigits? 0 23 h1 h2
      let minute ← twoDigits? 0 59 m1 m2
      let second ← twoDigits? 0 60 s1 s2
      let whole := Date.padded 2 hour ++ ":" ++ Date.padded 2 minute ++ ":" ++ Date.padded 2 second
      match rest with
      | '.' :: tail =>
          let digits := tail.takeWhile Char.isDigit
          if digits.isEmpty then none
          else some (whole ++ fractionText digits, tail.dropWhile Char.isDigit)
      | _ => some (whole, rest)
  | _ => none

def offset? : List Char → Option String
  | [] => some ""
  | ['Z'] | ['z'] => some "Z"
  | [sign, h1, h2, ':', m1, m2] => do
      let hour ← twoDigits? 0 23 h1 h2
      let minute ← twoDigits? 0 59 m1 m2
      let shown := Date.padded 2 hour ++ ":" ++ Date.padded 2 minute
      if sign = '-' then some ((if hour = 0 ∧ minute = 0 then "+" else "-") ++ shown)
      else if sign = '+' then some ("+" ++ shown)
      else none
  | _ => none

def timeWithOffset? (cs : List Char) : Option String := do
  let time ← time? cs
  some (time.1 ++ (← offset? time.2))

def localTime? (cs : List Char) : Option String := do
  let time ← time? cs
  if time.2.isEmpty then some time.1 else none

def datetime? (cs : List Char) : Option String := do
  let date ← date? cs
  match date.2 with
  | [] => some date.1
  | c :: rest =>
      if c = 'T' ∨ c = 't' then some (date.1 ++ "T" ++ (← timeWithOffset? rest)) else none

def scalar (cs : List Char) : Option Item :=
  if cs = "true".toList then some (.boolean true)
  else if cs = "false".toList then some (.boolean false)
  else
    match (datetime? cs).or (localTime? cs) with
    | some text => some (.datetime text)
    | none => if isFloat cs then some .float else integer? cs

def readScalar (cs : List Char) : Option (Item × List Char) :=
  let word := cs.takeWhile isScalarChar
  let rest := cs.dropWhile isScalarChar
  match date? word, rest with
  | some (date, []), ' ' :: tail =>
      let time := tail.takeWhile isScalarChar
      if time.isEmpty then some (.datetime date, rest)
      else (timeWithOffset? time).map fun t =>
        (.datetime (date ++ "T" ++ t), tail.dropWhile isScalarChar)
  | _, _ => (scalar word).map (·, rest)

end Toml
end LineShell
