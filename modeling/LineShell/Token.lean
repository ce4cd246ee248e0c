import LineShell.Text.Class
import LineShell.Quotation

/-!
# Tokens

One pass over a text cuts it into words and operators.  Outside quotations,
blanks separate words and the marks for pipes and redirects are operators.
Outside single quotations, `$NAME` is replaced by the value of the variable;
the value is spliced into the word at hand, so that nothing in it is read as a
quote, a blank or an operator.

The pass is an automaton: `Scanner.step` takes one character to the tokens that
it completes and to the next state, and `Scanner.finish` completes what is left.
-/

namespace LineShell

abbrev Lookup := String → Option String

inductive RedirectKind where
  | none
  | truncate
  | append
  | input
deriving DecidableEq, Repr, Inhabited

namespace RedirectKind

def isOutput : RedirectKind → Bool
  | .truncate | .append => true
  | .none | .input => false

end RedirectKind

/-- The operators that take the next word as their target. -/
inductive RedirectOp where
  | out
  | append
  | input
  | heredoc
deriving DecidableEq, Repr, Inhabited

namespace RedirectOp

def spelling : RedirectOp → String
  | .out => ">"
  | .append => ">>"
  | .input => "<"
  | .heredoc => "<<"

/-- What the operator asks for; a here-document asks for nothing. -/
def kind : RedirectOp → RedirectKind
  | .out => .truncate
  | .append => .append
  | .input => .input
  | .heredoc => .none

end RedirectOp

inductive Token where
  | word (text : String)
  | pipe
  | redirect (op : RedirectOp)
deriving DecidableEq, Repr, Inhabited

namespace Token

def spelling : Token → String
  | .word text => text
  | .pipe => "|"
  | .redirect op => op.spelling

def redirectKind? : Token → Option RedirectKind
  | .redirect op => some op.kind
  | .word _ | .pipe => none

end Token

/-- What has been begun and is settled by the next character. -/
inductive Pending where
  | nothing
  | name (letters : String)
  | out
  | input
deriving DecidableEq, Repr, Inhabited

/-- The state between two characters.  A word is begun by a quotation mark or by
its first character, so that an empty quotation still makes a word. -/
structure Scanner where
  quotation : Quotation := .outside
  word : Option String := none
  pending : Pending := .nothing
deriving DecidableEq, Repr, Inhabited

namespace Scanner

def flush (s : Scanner) : List Token :=
  s.word.toList.map Token.word

/-- Adds a text to the word at hand; an empty text begins no word. -/
def extend (s : Scanner) (text : String) : Scanner :=
  if text = "" then s else { s with word := some (s.word.getD "" ++ text) }

/-- Completes what is pending, when no further character belongs to it. -/
def settle (lookup : Lookup) (s : Scanner) : List Token × Scanner :=
  let s' := { s with pending := .nothing }
  match s.pending with
  | .nothing => ([], s')
  | .name "" => ([], s'.extend "$")
  | .name letters => ([], s'.extend ((lookup letters).getD ""))
  | .out => ([.redirect .out], s')
  | .input => ([.redirect .input], s')

def read (s : Scanner) (c : Char) : List Token × Scanner :=
  match s.quotation.afterMark? c with
  | some q => ([], { s with quotation := q, word := some (s.word.getD "") })
  | none =>
      if s.quotation = .outside ∧ c = '>' then (s.flush, { pending := .out })
      else if s.quotation = .outside ∧ c = '<' then (s.flush, { pending := .input })
      else if s.quotation = .outside ∧ c = '|' then (s.flush ++ [.pipe], {})
      else if s.quotation = .outside ∧ Text.isBlank c then (s.flush, {})
      else if s.quotation ≠ .single ∧ c = '$' then ([], { s with pending := .name "" })
      else ([], { s with word := some ((s.word.getD "").push c) })

/-- Reads a character that completes what is pending and is then read itself. -/
def settleAndRead (lookup : Lookup) (s : Scanner) (c : Char) : List Token × Scanner :=
  let settled := s.settle lookup
  let next := settled.2.read c
  (settled.1 ++ next.1, next.2)

/-- Reads a character: the tokens that it completes, and the next state. -/
def step (lookup : Lookup) (s : Scanner) (c : Char) : List Token × Scanner :=
  match s.pending with
  | .nothing => s.read c
  | .name letters =>
      if Text.isNameChar c then ([], { s with pending := .name (letters.push c) })
      else s.settleAndRead lookup c
  | .out =>
      if c = '>' then ([.redirect .append], { s with pending := .nothing })
      else s.settleAndRead lookup c
  | .input =>
      if c = '<' then ([.redirect .heredoc], { s with pending := .nothing })
      else s.settleAndRead lookup c

def finish (lookup : Lookup) (s : Scanner) : List Token :=
  let settled := s.settle lookup
  settled.1 ++ settled.2.flush

def scan (lookup : Lookup) : Scanner → List Char → List Token
  | s, [] => s.finish lookup
  | s, c :: rest =>
      let next := s.step lookup c
      next.1 ++ scan lookup next.2 rest

end Scanner

namespace Token

def tokenize (lookup : Lookup) (text : String) : List Token :=
  Scanner.scan lookup {} text.toList

end Token
end LineShell
