import LineShell.Command.Run
import LineShell.Session.EditBuffer
import LineShell.Sequence
import LineShell.History

/-!
# Running lines

A line is expanded, recorded, parsed and run pipeline by pipeline.  Each stage
runs to its end before the next one starts, and its output is the input of the
next stage unless that stage has arguments.  Only the first stage reads an
input file, and only the last one writes an output file.
-/

namespace LineShell
namespace Session

abbrev Outcome (α : Type) := Except ShellError α × Session

inductive Dispatch where
  | handler (h : Handler)
  | program (path : String)
  | unknown
deriving DecidableEq, Repr, Inhabited

/-- Handlers go before programs. -/
def dispatch (s : Session) (name : String) : Dispatch :=
  match s.handler? name with
  | some h => .handler h
  | none =>
      match s.findProgram name with
      | some path => .program path
      | none => .unknown

def runProgram (s : Session) (r : Runner) (path : String) (args : List String)
    (input : Option String) : Outcome String :=
  let line := CommandLine.ofPath s.external.interpreters path args
  let s' := s.note r (line.2 ++ [.programStarted line.1.render])
  let launch := r.start s'.world line.1 s.current (input.map Text.encode)
  (launch.result path, s'.setWorld (launch.world s'.world))

def runStage (s : Session) (r : Runner) (stage : Stage) (input : Option String) :
    Outcome String :=
  match s.dispatch stage.name with
  | .handler h =>
      let result := s.runHandler h ⟨stage.name, stage.args, input⟩
      (.ok result.1, result.2)
  | .program path => s.runProgram r path stage.args input
  | .unknown => (.ok ("Unknown command: " ++ stage.name), s)

/-- What an input redirect gives: a text or none, or a message that stands for
the whole pipeline. -/
inductive Input where
  | text (input : Option String)
  | message (text : String)
deriving DecidableEq, Repr, Inhabited

def readInput (s : Session) (stage : Stage) : Except ShellError Input :=
  if stage.redirect.kind = .input then
    match stage.redirect.path with
    | none => .ok (.message "")
    | some target =>
        match s.world.readText (s.resolvePath target) with
        | .ok text => .ok (.text (some text))
        | .error .notFound => .ok (.message (stage.name ++ ": no such file: " ++ target))
        | .error cause => .error (.io (s.resolvePath target) cause)
  else .ok (.text none)

/-- The bytes that an appending redirect adds to: a last line without its end is
ended first. -/
def appendLine (old : List UInt8) (output : String) : List UInt8 :=
  let ended := if old = [] ∨ old.getLast? = some 10 then old else old ++ [10]
  ended ++ Text.encode output ++ [10]

def writeOutput (w : World) (path : String) (kind : RedirectKind) (output : String) :
    Except SystemError World :=
  match kind with
  | .truncate => w.write path (Text.encode output)
  | .append => w.modifyFile path fun old => appendLine (old.getD []) output
  | .input | .none => .ok w

/-- Writes the output of a pipeline to the file of its last stage, if that asks
for one. -/
def deliver (s : Session) (r : Runner) (redirect : Redirect) (output : String) :
    String × Session :=
  match redirect.path with
  | none => (output, s)
  | some target =>
      if redirect.kind.isOutput then
        let path := s.resolvePath target
        match writeOutput s.world path redirect.kind output with
        | .ok w => ("", s.setWorld w)
        | .error cause =>
            ("redirect: error: " ++ (ShellError.io path cause).message,
              s.note r [.redirectFailed path cause])
      else (output, s)

def runStages (s : Session) (r : Runner) (piped : String) : List Stage → Outcome String
  | [] => (.ok piped, s)
  | stage :: rest =>
      match s.runStage r stage (if stage.args = [] then some piped else none) with
      | (.ok output, s') => runStages s' r output rest
      | (.error e, s') => (.error e, s')

def lastStage (first : Stage) (rest : List Stage) : Stage :=
  rest.getLast?.getD first

def runPipeline (s : Session) (r : Runner) : Pipeline → Outcome String
  | [] => (.ok "", s)
  | first :: rest =>
      match s.readInput first with
      | .error e => (.error e, s)
      | .ok (.message text) => (.ok text, s)
      | .ok (.text input) =>
          match s.runStage r first input with
          | (.error e, s') => (.error e, s')
          | (.ok output, s') =>
              match runStages s' r output rest with
              | (.error e, s'') => (.error e, s'')
              | (.ok result, s'') =>
                  let delivered := s''.deliver r (lastStage first rest).redirect result
                  (.ok delivered.1, delivered.2)

/-- Runs pipelines one after the other; an error ends the line. -/
def runPipelines (s : Session) (r : Runner) : List Pipeline → Outcome (List String)
  | [] => (.ok [], s)
  | pipeline :: rest =>
      match s.runPipeline r pipeline with
      | (.error e, s') => (.error e, s')
      | (.ok output, s') =>
          match runPipelines s' r rest with
          | (.error e, s'') => (.error e, s'')
          | (.ok outputs, s'') => (.ok (output :: outputs), s'')

/-- Runs a sequence; empty outputs leave no line. -/
def runSequence (s : Session) (r : Runner) (sequence : Sequence) : Outcome String :=
  match s.runPipelines r sequence with
  | (.error e, s') => (.error e, s')
  | (.ok outputs, s') => (.ok (Text.joinWith "\n" (outputs.filter (· ≠ ""))), s')

/-- Parses and runs a line with the variables of the environment; the records of the
parser stand before all others of the line. -/
def interpret (s : Session) (r : Runner) (line : String) : Outcome String :=
  let parsed := Sequence.parse s.world.lookup line
  (s.note r parsed.2).runSequence r parsed.1

/-- The line that is run for a trimmed line, after its history reference. -/
def expandLine (s : Session) (line : String) : Except ShellError String :=
  if s.historyExpansion then (History.expand s.history line).map (·.getD line)
  else .ok line

def runRecorded (s : Session) (r : Runner) (line : String) : String × Session :=
  match ({ s with history := s.history ++ [line] } : Session).interpret r line with
  | (.ok output, s') => (output, s')
  | (.error e, s') => (e.render, s')

/-- Takes one line: everything that it prints, and the session afterwards. -/
def run (s : Session) (r : Runner) (line : String) : String × Session :=
  match s.mode with
  | .edit => s.editLine line
  | .normal =>
      let trimmed := Text.trim line
      if trimmed = "" then ("", s)
      else
        match s.expandLine trimmed with
        | .error e => (e.render, s)
        | .ok expanded => s.runRecorded r expanded

end Session
end LineShell
