import LineShell.World

/-!
# Patterns

A pattern is matched against names and values, byte by byte.  Its characters carry a
mark that says whether they were quoted, and a quoted one stands only for itself; so
does one after a backslash that is not quoted.
-/

namespace LineShell
namespace Script

/-- Characters, each with the mark that it was quoted. -/
abbrev Marked := List (Char × Bool)

namespace Marked

def text (p : Marked) : String :=
  String.ofList (p.map (·.1))

def ofText (quoted : Bool) (s : String) : Marked :=
  s.toList.map (·, quoted)

/-- The pattern with a mark in the place of each backslash that is not quoted. -/
def resolve : Marked → Marked
  | ('\\', false) :: (c, _) :: rest => (c, true) :: resolve rest
  | c :: rest => c :: resolve rest
  | [] => []

end Marked

def charClasses : List (String × (Char → Bool)) :=
  let isGraph := fun (c : Char) => decide ('!' ≤ c) && decide (c ≤ '~')
  [("alnum", Char.isAlphanum), ("alpha", Char.isAlpha), ("digit", Char.isDigit),
    ("lower", Char.isLower), ("upper", Char.isUpper),
    ("space", fun c => c == ' ' || (decide ('\t' ≤ c) && decide (c ≤ '\r'))),
    ("blank", fun c => c == ' ' || c == '\t'), ("graph", isGraph),
    ("print", fun c => c == ' ' || isGraph c), ("punct", fun c => isGraph c && !c.isAlphanum),
    ("cntrl", fun c => decide (c.toNat < 32) || c.toNat == 127),
    ("xdigit", fun c => c.isDigit || (decide ('a' ≤ c.toLower) && decide (c.toLower ≤ 'f')))]

/-- A class that a pattern names after a bracket, and the pattern after it. -/
def namedClass? (p : Marked) : Option ((Char → Bool) × Marked) :=
  charClasses.findSome? fun k =>
    let spelled := Marked.ofText false (":" ++ k.1 ++ ":]")
    if spelled.isPrefixOf p then some (k.2, p.drop spelled.length) else none

/-- The place of a byte in the order of ranges, where the upper half comes first. -/
def rangeRank (c : Char) : Nat :=
  (c.toNat + 128) % 256

/-- Whether a set between brackets holds a character, and the pattern after the set;
none if the set is not closed.  The first member may be a closing bracket. -/
def scanSet (c : Char) : Nat → Bool → Bool → Marked → Option (Bool × Marked)
  | 0, _, _, _ => none
  | _ + 1, _, _, [] => none
  | n + 1, isFirst, found, (p, quoted) :: rest =>
      if p = ']' ∧ !quoted ∧ !isFirst then some (found, rest)
      else
        match (if p = '[' ∧ !quoted then namedClass? rest else none) with
        | some (inClass, after) => scanSet c n false (found || inClass c) after
        | none =>
            match rest with
            | ('-', false) :: (high, q) :: after =>
                if high = ']' ∧ !q then scanSet c n false (found || p == c) rest
                else
                  let held := decide (rangeRank p ≤ rangeRank c) &&
                    decide (rangeRank c ≤ rangeRank high)
                  scanSet c n false (found || held) after
            | _ => scanSet c n false (found || p == c) rest

def admits (c : Char) (p : Marked) : Option (Bool × Marked) :=
  match p with
  | ('!', false) :: rest =>
      (scanSet c (p.length + 1) true false rest).map fun r => (!r.1, r.2)
  | _ => scanSet c (p.length + 1) true false p

def matchesWithin : Nat → Marked → List Char → Bool
  | 0, _, _ => false
  | _ + 1, [], cs => cs.isEmpty
  | n + 1, (p, quoted) :: rest, cs =>
      if p = '*' ∧ !quoted then
        matchesWithin n rest cs ||
          (match cs with
            | [] => false
            | _ :: tail => matchesWithin n ((p, quoted) :: rest) tail)
      else
        match cs with
        | [] => false
        | c :: tail =>
            if p = '?' ∧ !quoted then matchesWithin n rest tail
            else if p = '[' ∧ !quoted then
              match admits c rest with
              | some (held, after) => held && matchesWithin n after tail
              | none => p == c && matchesWithin n rest tail
            else p == c && matchesWithin n rest tail

def Marked.matches (p : Marked) (text : List Char) : Bool :=
  matchesWithin (p.length + text.length + 2) p.resolve text

def closesSet (p : Marked) : Bool :=
  let members := match p with
    | ('!', false) :: rest => rest.drop 1
    | _ => p.drop 1
  (members.takeWhile (·.1 != '/')).contains (']', false)

def Marked.isPattern : Marked → Bool
  | [] => false
  | (c, quoted) :: rest =>
      (!quoted && (c == '*' || c == '?' || (c == '[' && closesSet rest))) || isPattern rest

def Marked.parts (p : Marked) : List Marked :=
  p.foldr
    (fun c acc =>
      match acc with
      | [] => [[c]]
      | part :: rest => if c.1 = '/' then [] :: part :: rest else (c :: part) :: rest)
    [[]]

def namesIn (w : World) (directory : String) : List String :=
  match w.list (Text.ofRaw directory) with
  | .ok entries => "." :: ".." :: entries.map fun e => Text.raw e.1
  | .error _ => []

def globFrom (w : World) : String → List Marked → List String
  | base, [] => [base]
  | base, part :: rest =>
      let under := fun name => if rest.isEmpty then base ++ name else base ++ name ++ "/"
      if part.isPattern then
        let shown := (namesIn w (if base = "" then "." else base)).filter fun name =>
          part.matches name.toList &&
            (!Text.startsWith name "." || part.head?.map Prod.fst == some '.')
        shown.flatMap fun name => globFrom w (under name) rest
      else globFrom w (under part.text) rest

/-- The paths that a pattern stands for; itself if there are none. -/
def glob (w : World) (p : Marked) : List String :=
  let resolved := p.resolve
  if resolved.isPattern then
    let isThere := fun path => (w.find .keep (Text.ofRaw path)).toOption.isSome
    match (globFrom w "" resolved.parts).filter isThere with
    | [] => [p.text]
    | paths => paths.mergeSort Text.le
  else [p.text]

def lengthsUpTo (bound : Nat) (longestFirst : Bool) : List Nat :=
  let lengths := List.range (bound + 1)
  if longestFirst then lengths.reverse else lengths

def cutStart (p : Marked) (longest : Bool) (s : String) : String :=
  let cs := s.toList
  match (lengthsUpTo cs.length longest).find? fun n => p.matches (cs.take n) with
  | some n => String.ofList (cs.drop n)
  | none => s

def cutEnd (p : Marked) (longest : Bool) (s : String) : String :=
  let cs := s.toList
  match (lengthsUpTo cs.length longest).find? fun n => p.matches (cs.drop (cs.length - n)) with
  | some n => String.ofList (cs.take (cs.length - n))
  | none => s

end Script
end LineShell
