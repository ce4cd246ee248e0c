import Mathlib
import LineShell.Proofs.Sequence.Parts

/-!
# Reading a line in one pass

A line is read on two levels: it is cut at unquoted semicolons, and each part is
scanned for tokens with an account of quotations of its own.  Here a line is
scanned once, with the unquoted semicolon as one more token, and the tokens are
cut at the separators.  Both readings agree, since the two accounts of
quotations agree at every semicolon.
-/

namespace LineShell

/-- A lexical unit of a whole line. -/
inductive LineToken where
  | unit (token : Token)
  | separator
deriving DecidableEq, Repr, Inhabited

namespace Scanner

/-- Reads a character when nothing is pending; an unquoted semicolon ends the
word at hand and separates. -/
def readInLine (s : Scanner) (c : Char) : List LineToken × Scanner :=
  if s.quotation = .outside ∧ c = ';' then (s.flush.map .unit ++ [.separator], {})
  else ((s.read c).1.map .unit, (s.read c).2)

def settleAndReadInLine (lookup : Lookup) (s : Scanner) (c : Char) :
    List LineToken × Scanner :=
  let settled := s.settle lookup
  let next := settled.2.readInLine c
  (settled.1.map .unit ++ next.1, next.2)

def stepInLine (lookup : Lookup) (s : Scanner) (c : Char) : List LineToken × Scanner :=
  match s.pending with
  | .nothing => s.readInLine c
  | .name letters =>
      if Text.isNameChar c then ([], { s with pending := .name (letters.push c) })
      else s.settleAndReadInLine lookup c
  | .out =>
      if c = '>' then ([.unit (.redirect .append)], { s with pending := .nothing })
      else s.settleAndReadInLine lookup c
  | .input =>
      if c = '<' then ([.unit (.redirect .heredoc)], { s with pending := .nothing })
      else s.settleAndReadInLine lookup c

def scanLine (lookup : Lookup) : Scanner → List Char → List LineToken
  | s, [] => (s.finish lookup).map .unit
  | s, c :: rest =>
      let next := s.stepInLine lookup c
      next.1 ++ scanLine lookup next.2 rest

end Scanner

namespace LineToken

/-- The tokens between separators, given those of the segment at hand. -/
def segmentsFrom : List Token → List LineToken → List (List Token)
  | segment, [] => [segment]
  | segment, .unit token :: rest => segmentsFrom (segment ++ [token]) rest
  | segment, .separator :: rest => segment :: segmentsFrom [] rest

def segments (lookup : Lookup) (line : String) : List (List Token) :=
  segmentsFrom [] (Scanner.scanLine lookup {} line.toList)

end LineToken

namespace Sequence

/-- The sequence that a line spells when it is scanned once: one pipeline for each
segment that gives a stage, or a single empty one. -/
def parseInOnePass (lookup : Lookup) (line : String) : Sequence × List Notice :=
  let read := (LineToken.segments lookup line).map Pipeline.ofTokens
  (ofPipelines (read.map (·.1)), read.flatMap (·.2))

end Sequence

namespace Scanner

variable {lookup : Lookup}

theorem readInLine_of_not_separator {s : Scanner} {c : Char}
    (h : ¬(s.quotation = .outside ∧ c = ';')) :
    s.readInLine c = ((s.read c).1.map .unit, (s.read c).2) :=
  if_neg h

theorem settleAndReadInLine_of_not_separator {s : Scanner} {c : Char}
    (h : ¬(s.quotation = .outside ∧ c = ';')) :
    s.settleAndReadInLine lookup c =
      ((s.settleAndRead lookup c).1.map .unit, (s.settleAndRead lookup c).2) := by
  have hsettled : ¬((s.settle lookup).2.quotation = .outside ∧ c = ';') := by simpa using h
  simp [settleAndReadInLine, settleAndRead, readInLine_of_not_separator hsettled]

/-- Away from the separators both scans take the same step. -/
theorem stepInLine_of_not_separator {s : Scanner} {c : Char}
    (h : ¬(s.quotation = .outside ∧ c = ';')) :
    s.stepInLine lookup c = ((s.step lookup c).1.map .unit, (s.step lookup c).2) := by
  unfold stepInLine step
  cases s.pending with
  | nothing => exact readInLine_of_not_separator h
  | name letters =>
      by_cases hc : Text.isNameChar c = true
      · simp [hc]
      · simpa [hc] using settleAndReadInLine_of_not_separator h
  | out =>
      by_cases hc : c = '>'
      · simp [hc]
      · simpa [hc] using settleAndReadInLine_of_not_separator h
  | input =>
      by_cases hc : c = '<'
      · simp [hc]
      · simpa [hc] using settleAndReadInLine_of_not_separator h

/-- An unquoted semicolon does what the end of a part does, whatever is pending. -/
theorem stepInLine_separator {s : Scanner} (h : s.quotation = .outside) :
    s.stepInLine lookup ';' = ((s.finish lookup).map .unit ++ [.separator], {}) := by
  have hread : s.settleAndReadInLine lookup ';' =
      ((s.finish lookup).map .unit ++ [.separator], {}) := by
    simp [settleAndReadInLine, readInLine, h, finish]
  cases hp : s.pending with
  | nothing => simp [stepInLine, hp, readInLine, h, finish, settle_of_nothing hp]
  | name letters => simpa [stepInLine, hp, show Text.isNameChar ';' = false by decide] using hread
  | out => simpa [stepInLine, hp] using hread
  | input => simpa [stepInLine, hp] using hread

end Scanner

namespace LineToken

theorem segmentsFrom_units (segment ts : List Token) (rest : List LineToken) :
    segmentsFrom segment (ts.map .unit ++ rest) = segmentsFrom (segment ++ ts) rest := by
  induction ts generalizing segment with
  | nil => simp
  | cons t ts ih => simp [segmentsFrom, ih]

/-- The scan of a line from inside a part: the tokens of the part so far and the state
after it are carried along. -/
theorem segmentsFrom_scanLine (lookup : Lookup) (part : String) (cs : List Char) :
    segmentsFrom (Scanner.run lookup {} part.toList).1
        (Scanner.scanLine lookup (Scanner.run lookup {} part.toList).2 cs) =
      (Sequence.partsFrom (Quotation.outside.after part.toList) part cs).map
        (Token.tokenize lookup) := by
  -- The quotation with which the line is cut is that of the scanner's state.
  have hq : ∀ text : String, (Scanner.run lookup {} text.toList).2.quotation =
      Quotation.outside.after text.toList := fun text ↦ Scanner.run_quotation {} text.toList
  induction cs generalizing part with
  | nil =>
      have hunits := segmentsFrom_units (Scanner.run lookup {} part.toList).1
        ((Scanner.run lookup {} part.toList).2.finish lookup) []
      simpa [Scanner.scanLine, Sequence.partsFrom, segmentsFrom,
        Token.tokenize_eq_run] using hunits
  | cons c cs ih =>
      by_cases hsep : Quotation.outside.after part.toList = .outside ∧ c = ';'
      · obtain ⟨houtside, rfl⟩ := hsep
        have hrest := ih ""
        rw [Scanner.scanLine, Scanner.stepInLine_separator ((hq part).trans houtside),
          List.append_assoc, segmentsFrom_units, Sequence.partsFrom, if_pos ⟨houtside, rfl⟩,
          List.map_cons, Token.tokenize_eq_run]
        simpa [segmentsFrom] using hrest
      · have hnext := ih (part.push c)
        rw [Scanner.run_push] at hnext
        have hstep : ¬((Scanner.run lookup {} part.toList).2.quotation = .outside ∧ c = ';') := by
          rwa [hq part]
        rw [Scanner.scanLine, Scanner.stepInLine_of_not_separator hstep, segmentsFrom_units,
          Sequence.partsFrom, if_neg hsep]
        simpa using hnext

theorem segments_eq_map_tokenize (lookup : Lookup) (line : String) :
    segments lookup line = (Sequence.rawParts line).map (Token.tokenize lookup) := by
  simpa [segments, Sequence.rawParts] using segmentsFrom_scanLine lookup "" line.toList

end LineToken

namespace Sequence

/-- Cutting a line first and scanning its parts gives what a single scan gives, and
the same records. -/
theorem parse_eq_parseInOnePass (lookup : Lookup) (line : String) :
    parse lookup line = parseInOnePass lookup line := by
  have hread : (rawParts line).map (Pipeline.parse lookup) =
      (LineToken.segments lookup line).map Pipeline.ofTokens := by
    rw [LineToken.segments_eq_map_tokenize, List.map_map]
    rfl
  rw [parse_eq_readParts, readParts, hread]
  rfl

example : LineToken.segments (fun _ ↦ none) "a>;$b';'" =
    [[.word "a", .redirect .out], [.word ";"]] := by decide

end Sequence
end LineShell
