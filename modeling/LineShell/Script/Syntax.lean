/-!
# Syntax of scripts

The commands of a portable shell script: simple commands with assignments and
redirects, pipelines joined by connectors, and the compound commands around
them.  Words keep the pieces that are still to be expanded.
-/

namespace LineShell
namespace Script

/-- What is asked of a parameter between braces.  With a colon, an empty value counts
as none. -/
inductive ParamOp where
  | value
  | length
  | default (colon : Bool)
  | assign (colon : Bool)
  | demand (colon : Bool)
  | alternative (colon : Bool)
  | cutStart (longest : Bool)
  | cutEnd (longest : Bool)
  | malformed
deriving DecidableEq, Repr, Inhabited

inductive RedirOp where
  | input
  | output
  /-- Output to a file that may be there already. -/
  | overwrite
  | append
  | readWrite
  | duplicate
  | document
deriving DecidableEq, Repr, Inhabited

structure Redir (ω : Type) where
  fd : Nat
  op : RedirOp
  target : ω

/-- When a pipeline runs, given the status of the one before. -/
inductive Connector where
  | always
  | onSuccess
  | onFailure
deriving DecidableEq, Repr, Inhabited

/-- A pipeline with its connector; a negated one turns its status around. -/
structure Link (α : Type) where
  connector : Connector
  negated : Bool
  stages : List α

structure Item (α : Type) where
  links : List (Link α)
  background : Bool

mutual

/-- A piece of a word.  Quoted pieces are neither split nor matched against file
names. -/
inductive Part where
  | text (chars : String) (quoted : Bool)
  | param (name : String) (op : ParamOp) (word : List Part) (quoted : Bool)
  | command (body : List (Item Cmd)) (quoted : Bool)
  | arithmetic (word : List Part) (quoted : Bool)
  | document (number : Nat)

/-- A command of a script with the line on which it begins, where that can be shown. -/
inductive Cmd where
  | simple (line : Nat) (assigns : List (String × List Part)) (words : List (List Part))
      (redirs : List (Redir (List Part)))
  | group (body : List (Item Cmd))
  | subshell (body : List (Item Cmd))
  | branch (test body otherwise : List (Item Cmd))
  | loop (negated : Bool) (test body : List (Item Cmd))
  | each (line : Nat) (name : String) (words : Option (List (List Part)))
      (body : List (Item Cmd))
  | select (line : Nat) (subject : List Part)
      (clauses : List (List (List Part) × List (Item Cmd)))
  | define (name : String) (body : Cmd)
  | redirected (line : Nat) (body : Cmd) (redirs : List (Redir (List Part)))

end

abbrev Word := List Part

abbrev Body := List (Item Cmd)

/-- The text of a word that is nothing but unquoted text. -/
def plain? : Word → Option String
  | [.text chars false] => some chars
  | _ => none

end Script
end LineShell
