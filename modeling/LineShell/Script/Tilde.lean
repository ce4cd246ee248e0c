import LineShell.Script.Shell

/-!
# Home directories in words

A tilde at the start of a word, up to the next slash, stands for a home directory.  In an
assignment it does so after every colon as well.  The directory is taken as it is.
-/

namespace LineShell
namespace Script

def Shell.homeOf (s : Shell) (user : String) : Option String :=
  match user with
  | "" => s.get? "HOME"
  | "root" => some (Text.raw s.machine.world.accountHome)
  | _ => none

/-- A home directory as a piece of a word; an empty one leaves nothing. -/
def homePart (directory : String) : Word :=
  if directory = "" then [] else [.text directory true]

def cutAfterColon (cs : List Char) : List Char × List Char :=
  let before := cs.takeWhile (· != ':')
  match cs.drop before.length with
  | colon :: rest => (before ++ [colon], rest)
  | [] => (before, [])

/-- An unquoted text with the tildes replaced that may be, within a number of steps.  A
name must end inside the text, unless the text ends the word. -/
def tildesOfText (homeOf : String → Option String) (assigning endsWord : Bool) :
    Nat → Bool → List Char → Word
  | 0, _, cs => [.text (String.ofList cs) false]
  | _ + 1, _, [] => []
  | n + 1, true, '~' :: rest =>
      let isName := fun (c : Char) => c != '/' && !(assigning && c == ':')
      let after := rest.dropWhile isName
      let home? :=
        if after.isEmpty && !endsWord then none
        else homeOf (String.ofList (rest.takeWhile isName))
      match home? with
      | some home => homePart home ++ tildesOfText homeOf assigning endsWord n false after
      | none => tildesOfText homeOf assigning endsWord n false ('~' :: rest)
  | n + 1, _, cs =>
      if assigning then
        let (before, after) := cutAfterColon cs
        .text (String.ofList before) false :: tildesOfText homeOf assigning endsWord n true after
      else [.text (String.ofList cs) false]

def tildesOfParts (homeOf : String → Option String) (assigning : Bool) : Bool → Word → Word
  | _, [] => []
  | starts, .text chars false :: rest =>
      (if Text.hasChar chars '~' then
        tildesOfText homeOf assigning rest.isEmpty (2 * chars.length + 1) starts chars.toList
      else [.text chars false]) ++ tildesOfParts homeOf assigning false rest
  | _, part :: rest => part :: tildesOfParts homeOf assigning false rest

def Shell.withHomes (s : Shell) (assigning : Bool) (w : Word) : Word :=
  tildesOfParts s.homeOf assigning true w

end Script
end LineShell
