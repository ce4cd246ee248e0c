/-!
# Quotation

A line is read with one piece of memory about quotes: whether the reader is
inside a single quotation, inside a double one, or in neither.  Within one kind
the other kind's mark is an ordinary character, and an unclosed quotation runs
to the end of the text.
-/

namespace LineShell

inductive Quotation where
  | outside
  | single
  | double
deriving DecidableEq, Repr, Inhabited

namespace Quotation

/-- The state after a mark that opens or closes a quotation here; none for
every other character. -/
def afterMark? : Quotation → Char → Option Quotation
  | .outside, '"' => some .double
  | .outside, '\x27' => some .single
  | .single, '\x27' => some .outside
  | .double, '"' => some .outside
  | _, _ => none

def step (q : Quotation) (c : Char) : Quotation :=
  (q.afterMark? c).getD q

def after (q : Quotation) (cs : List Char) : Quotation :=
  cs.foldl step q

/-- Whether a text leaves no quotation open. -/
def Closes (s : String) : Prop :=
  Quotation.after .outside s.toList = .outside

instance (s : String) : Decidable (Closes s) :=
  inferInstanceAs (Decidable (_ = _))

end Quotation
end LineShell
