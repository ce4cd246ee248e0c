import LineShell.Script.Arithmetic

/-!
# Binary fractions

Numbers of 53 significant bits with a binary exponent: the one nearest to a decimal
fraction, and its decimal text with a fixed number of places or of digits.  All
rounding is to the nearest, and a tie goes to the even neighbour.
-/

namespace LineShell
namespace Script

/-- A number that is not negative: a fraction whose denominator is a power of two, or
one of the two that are no number of the line. -/
inductive Magnitude where
  | finite (numerator denominator : Nat)
  | infinite
  | undefined
deriving DecidableEq, Repr, Inhabited

structure Floating where
  negative : Bool
  magnitude : Magnitude
deriving DecidableEq, Repr, Inhabited

namespace Floating

/-- The quotient nearest to a fraction; a tie goes to the even one. -/
def roundedQuotient (num den : Nat) : Nat :=
  let q := num / den
  let twice := 2 * (num % den)
  if twice < den then q else if den < twice then q + 1 else q + q % 2

def precisionBits : Nat := 53

/-- The least exponent of the last bit, with its sign turned around. -/
def leastExponent : Nat := 1074

/-- The exponent from which on a number is infinite. -/
def exponentLimit : Nat := 1024

def twoTo (n : Nat) : Nat :=
  Nat.pow 2 n

def tenTo (n : Nat) : Nat :=
  Nat.pow 10 n

def nearest (num den : Nat) : Magnitude :=
  if num = 0 ∨ den = 0 then .finite 0 1
  else
    -- The last bit has the weight `2 ^ (shift - leastExponent)`.
    let scaled := num * twoTo leastExponent
    let shift := Nat.log2 (scaled / den) + 1 - precisionBits
    let bits := roundedQuotient scaled (den * twoTo shift)
    let value := bits * twoTo shift
    if twoTo (exponentLimit + leastExponent) ≤ value then .infinite
    else .finite value (twoTo leastExponent)

/-- Whether a fraction is in the range of the numbers: below the infinite one, and if it
is too small for all significant bits, exactly one of them. -/
def isInRange (num den : Nat) : Bool :=
  match nearest num den with
  | .finite n d =>
      num == 0 || decide (den * twoTo (precisionBits - 1) ≤ num * twoTo leastExponent) ||
        n * den == num * d
  | _ => false

/-- A number as it was read: whether it was in the range of the numbers, and what
follows. -/
structure Reading where
  value : Floating
  inRange : Bool
  rest : List Char

def Reading.ofFraction (negative : Bool) (num den : Nat) (rest : List Char) : Reading :=
  ⟨⟨negative, nearest num den⟩, isInRange num den, rest⟩

def readExponent (letters : List Char) (cs : List Char) : Int × List Char :=
  match cs with
  | e :: tail =>
      let (negative, unsigned) := match tail with
        | '-' :: ds => (true, ds)
        | '+' :: ds => (false, ds)
        | ds => (false, ds)
      if letters.contains e && unsigned.head?.any Char.isDigit then
        let n : Nat := min (Text.digitsValue (unsigned.takeWhile Char.isDigit)) 5000
        (if negative then -(n : Int) else (n : Int), unsigned.dropWhile Char.isDigit)
      else (0, cs)
  | [] => (0, [])

/-- Reads digits of a base with a point among them: their value, the number of those after
the point, and what follows. -/
def readPlaces? (base : Nat) (isDigit : Char → Bool) (cs : List Char) :
    Option (Nat × Nat × List Char) :=
  let whole := cs.takeWhile isDigit
  let afterWhole := cs.dropWhile isDigit
  let (places, rest) := match afterWhole with
    | '.' :: tail => (tail.takeWhile isDigit, tail.dropWhile isDigit)
    | _ => ([], afterWhole)
  if whole.isEmpty && places.isEmpty then none
  else some (Arithmetic.valueIn base (whole ++ places), places.length, rest)

def readDecimal? (negative : Bool) (cs : List Char) : Option Reading :=
  (readPlaces? 10 Char.isDigit cs).map fun (digits, places, rest) =>
    let (e, rest) := readExponent ['e', 'E'] rest
    .ofFraction negative (digits * tenTo e.toNat) (tenTo (places + (-e).toNat)) rest

/-- Reads a fraction in hexadecimal digits, whose exponent is one of two. -/
def readHexadecimal? (negative : Bool) (cs : List Char) : Option Reading :=
  (readPlaces? 16 Arithmetic.isHexDigit cs).map fun (digits, places, rest) =>
    let (e, rest) := readExponent ['p', 'P'] rest
    .ofFraction negative (digits * twoTo e.toNat) (twoTo (4 * places + (-e).toNat)) rest

def spells (word : String) (cs : List Char) : Bool :=
  (cs.take word.length).map Char.toLower == word.toList

def read? (text : String) : Option Reading :=
  let cs := text.toList.dropWhile Arithmetic.isSpace
  let (negative, rest) := match cs with
    | '-' :: rest => (true, rest)
    | '+' :: rest => (false, rest)
    | rest => (false, rest)
  if spells "infinity" rest then some ⟨⟨negative, .infinite⟩, true, rest.drop 8⟩
  else if spells "inf" rest then some ⟨⟨negative, .infinite⟩, true, rest.drop 3⟩
  else if spells "nan" rest then some ⟨⟨negative, .undefined⟩, true, rest.drop 3⟩
  else if spells "0x" rest then
    (readHexadecimal? negative (rest.drop 2)).or (readDecimal? negative rest)
  else readDecimal? negative rest

/-- The decimal digits of a number, at least so many. -/
def digitsOf (least n : Nat) : String :=
  Text.padStart least '0' (toString n)

/-- The text of a whole number of units of the last of so many places. -/
def pointed (alternate : Bool) (places n : Nat) : String :=
  let digits := digitsOf (places + 1) n
  let cs := digits.toList
  let cut := cs.length - places
  String.ofList (cs.take cut) ++
    (if 0 < places || alternate then "." ++ String.ofList (cs.drop cut) else "")

def fixed (alternate : Bool) (places num den : Nat) : String :=
  pointed alternate places (roundedQuotient (num * tenTo places) den)

/-- The decimal exponent and the digits of a fraction with so many places after the
first digit, by an exponent that is close to it. -/
def scientificAt (places num den : Nat) (exponent : Int) : Nat :=
  let shift := (places : Int) - exponent
  if 0 ≤ shift then roundedQuotient (num * tenTo shift.toNat) den
  else roundedQuotient num (den * tenTo (-shift).toNat)

/-- The greatest exponent of ten that does not exceed a fraction. -/
def decimalExponent (num den : Nat) : Int :=
  if num = 0 ∨ den = 0 then 0
  else if den ≤ num then ((toString (num / den)).length : Int) - 1
  else
    let k := (toString (den / num)).length
    if den ≤ num * tenTo (k - 1) then -((k : Int) - 1) else -(k : Int)

def scientificParts (places num den : Nat) : Int × Nat :=
  let e := decimalExponent num den
  let digits := scientificAt places num den e
  if tenTo (places + 1) ≤ digits then (e + 1, scientificAt places num den (e + 1)) else (e, digits)

/-- The text of an exponent: a sign and at least two digits. -/
def exponentText (e : Int) : String :=
  "e" ++ (if e < 0 then "-" else "+") ++ digitsOf 2 e.natAbs

def scientific (alternate : Bool) (places num den : Nat) : String :=
  let (e, digits) := scientificParts places num den
  pointed alternate places digits ++ exponentText e

def trimPlaces (s : String) : String :=
  if Text.hasChar s '.' then
    let kept := Text.dropEnd (· == '0') s
    if kept.toList.getLast? = some '.' then String.ofList kept.toList.dropLast else kept
  else s

/-- The text of a fraction with so many significant digits, in the shorter notation. -/
def general (alternate : Bool) (digits num den : Nat) : String :=
  let p := max digits 1
  let (e, _) := scientificParts (p - 1) num den
  let trim := fun s => if alternate then s else trimPlaces s
  if -4 ≤ e ∧ e < p then trim (fixed alternate ((p : Int) - 1 - e).toNat num den)
  else
    let (e, significand) := scientificParts (p - 1) num den
    trim (pointed alternate (p - 1) significand) ++ exponentText e

/-- The number of hexadecimal digits after the first one that hold all bits. -/
def hexPlaces : Nat := 13

/-- The first digit with all bits behind it as one number, and the exponent of two: numbers
that are too small for all significant bits begin with a zero. -/
def binaryParts (num den : Nat) : Nat × Int :=
  let scaled := num * twoTo leastExponent / den
  if scaled = 0 then (0, 0)
  else
    let shift := Nat.log2 scaled + 1 - precisionBits
    (scaled / twoTo shift, (shift + precisionBits : Nat) - (leastExponent + 1 : Nat))

/-- The text of a fraction in hexadecimal digits with a power of two, with all digits that
it has or so many. -/
def hexadecimal (alternate : Bool) (precision : Option Nat) (num den : Nat) : String :=
  let (bits, exponent) := binaryParts num den
  let places := precision.getD hexPlaces
  let rounded :=
    if places < hexPlaces then roundedQuotient bits (twoTo (4 * (hexPlaces - places)))
    else bits * twoTo (4 * (places - hexPlaces))
  let digits := Text.padStart (places + 1) '0' (String.ofList (Nat.toDigits 16 rounded))
  let tail := String.ofList (digits.toList.drop 1)
  let tail := if precision.isNone then Text.dropEnd (· == '0') tail else tail
  String.ofList (digits.toList.take 1) ++ (if alternate || tail != "" then "." else "") ++ tail ++
    "p" ++ (if exponent < 0 then "-" else "+") ++ toString exponent.natAbs

def render (style : Char) (alternate : Bool) (precision : Option Nat) : Magnitude → String
  | .infinite => "inf"
  | .undefined => "nan"
  | .finite num den =>
      let places := precision.getD 6
      match style with
      | 'a' => hexadecimal alternate precision num den
      | 'f' => fixed alternate places num den
      | 'e' => scientific alternate places num den
      | _ => general alternate places num den

end Floating
end Script
end LineShell
