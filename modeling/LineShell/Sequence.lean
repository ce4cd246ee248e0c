import LineShell.Token
import LineShell.Text.Basic
import LineShell.Log

/-!
# Sequences of pipelines

A line is a sequence of pipelines between unquoted semicolons, and a pipeline is
a list of stages between pipe marks.  No text is refused: blank parts, stages
without words and pipelines without stages are dropped, and a redirect without
a target ends its pipeline before the stage that it stands in.
-/

namespace LineShell

structure Redirect where
  kind : RedirectKind := .none
  path : Option String := none
deriving DecidableEq, Repr, Inhabited

structure Stage where
  name : String
  args : List String := []
  redirect : Redirect := {}
deriving DecidableEq, Repr, Inhabited

abbrev Pipeline := List Stage

abbrev Sequence := List Pipeline

namespace Stage

/-- The stage with these words; none if there is no word. -/
def ofWords? (words : List String) (redirect : Redirect) : Option Stage :=
  match words with
  | [] => none
  | name :: args => some ⟨name, args, redirect⟩

end Stage

namespace Pipeline

/-- The stages of the rest of a token list, given the words and the redirect of
the stage at hand, and the records of ignored words. -/
def readFrom : List String → Redirect → List Token → Pipeline × List Notice
  | words, redirect, [] => ((Stage.ofWords? words redirect).toList, [])
  | words, redirect, .word w :: rest => readFrom (words ++ [w]) redirect rest
  | words, redirect, .pipe :: rest =>
      let tail := readFrom [] {} rest
      ((Stage.ofWords? words redirect).toList ++ tail.1, tail.2)
  | words, redirect, .redirect op :: .word target :: rest =>
      if op = .heredoc then
        let tail := readFrom words redirect rest
        (tail.1, .heredocIgnored target :: tail.2)
      else readFrom words ⟨op.kind, some target⟩ rest
  | _, _, .redirect _ :: _ => ([], [])

def ofTokens (tokens : List Token) : Pipeline × List Notice :=
  readFrom [] {} tokens

/-- The pipeline that a text without separators spells. -/
def parse (lookup : Lookup) (text : String) : Pipeline × List Notice :=
  ofTokens (Token.tokenize lookup text)

end Pipeline

namespace Sequence

def partsFrom : Quotation → String → List Char → List String
  | _, part, [] => [part]
  | q, part, c :: rest =>
      if q = .outside ∧ c = ';' then part :: partsFrom .outside "" rest
      else partsFrom (q.step c) (part.push c) rest

/-- All parts of a line, with their quotation marks. -/
def rawParts (line : String) : List String :=
  partsFrom .outside "" line.toList

/-- The parts of a line that are not blank. -/
def split (line : String) : List String :=
  (rawParts line).filter fun part => !Text.allBlank part

/-- The pipelines that have a stage; a single empty one if none has. -/
def ofPipelines (pipelines : List Pipeline) : Sequence :=
  match pipelines.filter (!·.isEmpty) with
  | [] => [[]]
  | kept => kept

/-- The sequence that a line spells, and the records of ignored words. -/
def parse (lookup : Lookup) (line : String) : Sequence × List Notice :=
  let read := (split line).map (Pipeline.parse lookup)
  (ofPipelines (read.map (·.1)), read.flatMap (·.2))

end Sequence
end LineShell
