import LineShell.Text.Basic
import LineShell.Quotation

/-!
# Words

The plain reading of a text: unquoted blanks separate words, quotation marks
are removed, and every other character stands for itself.  A simple command is
the first word with the words after it.
-/

namespace LineShell
namespace Words

def splitFrom : Quotation → Option String → List Char → List String
  | _, word, [] => word.toList
  | q, word, c :: rest =>
      match q.afterMark? c with
      | some q' => splitFrom q' (some (word.getD "")) rest
      | none =>
          if q = .outside ∧ Text.isBlank c then word.toList ++ splitFrom q none rest
          else splitFrom q (some ((word.getD "").push c)) rest

/-- The words of a text, which is first trimmed. -/
def split (text : String) : List String :=
  splitFrom .outside none (Text.trim text).toList

end Words

structure SimpleCommand where
  name : String
  args : List String
deriving DecidableEq, Repr, Inhabited

namespace SimpleCommand

/-- The first word is the command; a blank text has the empty one. -/
def ofWords : List String → SimpleCommand
  | [] => ⟨"", []⟩
  | name :: args => ⟨name, args⟩

/-- The command that a text spells when operators and variables stand for
themselves. -/
def ofText (text : String) : SimpleCommand :=
  ofWords (Words.split text)

end SimpleCommand
end LineShell
