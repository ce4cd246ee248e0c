import LineShell.Text.Grapheme.BreakClass

/-!
# Clusters of characters

A text is cut into clusters, each of which a reader takes for one character: a letter
with its marks, a syllable, a flag, or a row of joined pictures.  Whether a character
goes on in the cluster before it depends on its class and on a summary of the
characters before it.
-/

namespace LineShell
namespace Text
namespace Grapheme

/-- What the characters up to a place have to say about the next border. -/
structure Context where
  last : BreakClass
  /-- The last character begins a flag that is still incomplete. -/
  flagOpen : Bool
  /-- The last characters are a picture and marks on it. -/
  pictured : Bool
  /-- The last character joins a picture to the next one. -/
  joining : Bool
  /-- The last characters are a consonant and marks on it. -/
  conjunct : Bool
  /-- One of these marks ties the consonant to the next one. -/
  linked : Bool
deriving DecidableEq, Repr, Inhabited

namespace Context

def start : Context :=
  ⟨.other, false, false, false, false, false⟩

def advance (x : Context) (c : Char) : Context :=
  let k := BreakClass.of c
  { last := k
    flagOpen := k == .regional && !x.flagOpen
    pictured := k == .pictograph || (k == .extend && x.pictured)
    joining := k == .joiner && x.pictured
    conjunct := k == .consonant || (isTransparent c && x.conjunct)
    linked := isTransparent c && x.conjunct && (x.linked || isLinker c) }

def isAlone (k : BreakClass) : Bool :=
  k == .control || k == .carriageReturn || k == .lineFeed

def isSyllable (a b : BreakClass) : Bool :=
  match a, b with
  | .leadingJamo, .leadingJamo | .leadingJamo, .vowelJamo => true
  | .leadingJamo, .openSyllable | .leadingJamo, .closedSyllable => true
  | .openSyllable, .vowelJamo | .openSyllable, .trailingJamo => true
  | .vowelJamo, .vowelJamo | .vowelJamo, .trailingJamo => true
  | .closedSyllable, .trailingJamo | .trailingJamo, .trailingJamo => true
  | _, _ => false

def joins (x : Context) (k : BreakClass) : Bool :=
  if x.last = .carriageReturn ∧ k = .lineFeed then true
  else if isAlone x.last || isAlone k then false
  else isSyllable x.last k || k == .extend || k == .joiner || k == .spacing ||
    x.last == .leader || (x.linked && k == .consonant) || (x.joining && k == .pictograph) ||
    (x.flagOpen && k == .regional)

end Context

/-- The clusters of the characters after a cluster that was begun, given in reverse
order. -/
def clustersFrom (x : Context) (begun : List Char) : List Char → List (List Char)
  | [] => [begun.reverse]
  | c :: rest =>
      if x.joins (BreakClass.of c) then clustersFrom (x.advance c) (c :: begun) rest
      else begun.reverse :: clustersFrom (x.advance c) [c] rest

def clusters : List Char → List (List Char)
  | [] => []
  | c :: rest => clustersFrom (Context.start.advance c) [c] rest

theorem flatten_clustersFrom (x : Context) (begun cs : List Char) :
    (clustersFrom x begun cs).flatten = begun.reverse ++ cs := by
  induction cs generalizing x begun with
  | nil => simp [clustersFrom]
  | cons c rest ih =>
      simp only [clustersFrom]
      split <;> simp [ih]

/-- Nothing of a text is lost in its clusters. -/
@[simp] theorem flatten_clusters (cs : List Char) : (clusters cs).flatten = cs := by
  cases cs with
  | nil => rfl
  | cons c rest => simp [clusters, flatten_clustersFrom]

end Grapheme
end Text
end LineShell
