import LineShell.Text.Basic
import LineShell.Error

/-!
# History references

A line that begins with `!` may refer to an earlier line: `!!` to the last one,
`!n` to the one numbered `n` from one, and `!text` to the last one that begins
with the text.  What follows the first word of the line is kept.
-/

namespace LineShell
namespace History

def find? (history : List String) (reference : String) : Option String :=
  if reference = "!" then history.getLast?
  else
    match Text.index? reference with
    | some n => if n = 0 then none else history[n - 1]?
    | none => history.reverse.find? (Text.startsWith · reference)

/-- The reference that a line begins with, and the rest of the line. -/
def reference? (line : String) : Option (String × String) :=
  match line.toList with
  | '!' :: body =>
      let cut := Text.cutAtBlank (String.ofList body)
      if cut.1 = "" then none else some cut
  | _ => none

/-- The line with its reference replaced; none if it has no reference. -/
def expand (history : List String) (line : String) : Except ShellError (Option String) :=
  match reference? line with
  | none => .ok none
  | some (reference, rest) =>
      match find? history reference with
      | some entry => .ok (some (entry ++ rest))
      | none => .error .eventNotFound

end History
end LineShell
