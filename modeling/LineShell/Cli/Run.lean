import LineShell.Cli.Options
import LineShell.Cli.LogFile
import LineShell.Config.Load
import LineShell.Config.Render
import LineShell.Session.Start
import LineShell.Text.Grapheme.Cluster

/-!
# The program

One run of the program: it shows its settings, runs one line, or runs the lines
of its input up to the end or to a line that leaves.
-/

namespace LineShell
namespace Cli

structure Report where
  output : String
  errors : String
  code : Nat
  world : World

structure Sinks where
  fileLevel : LogLevel
  verbose : Bool

structure Progress where
  session : Session
  output : String := ""
  errors : String := ""

namespace Sinks

/-- The level for the terminal shows at least what is worth knowing. -/
def terminalLevel (k : Sinks) : LogLevel :=
  k.fileLevel.max .info

def runner (k : Sinks) : Runner :=
  LogFile.runner k.fileLevel

def flush (k : Sinks) (p : Progress) : Progress :=
  let shown := recordLines p.session.world.clock k.terminalLevel p.session.log
  { session := { p.session with log := [] }
    output := p.output
    errors := if k.verbose then p.errors ++ shown else p.errors }

end Sinks

/-- An output as it is printed: nothing, or the text on lines of its own. -/
def printed (output : String) : String :=
  if output = "" then "" else output ++ "\n"

def runLine (k : Sinks) (p : Progress) (line : String) : Progress :=
  let r := p.session.run k.runner line
  k.flush { p with session := r.2, output := p.output ++ printed r.1 }

/-- The lines of an input; a last line without its end counts if it is not
empty. -/
def inputLines (input : String) : List String :=
  let parts := Text.parts '\n' input
  let ended := parts.dropLast.map fun line =>
    match line.toList.getLast? with
    | some '\r' => String.ofList line.toList.dropLast
    | _ => line
  ended ++ (parts.getLast?.toList.filter (· ≠ ""))

/-- The characters, given in reverse order, without a number of bytes at their end. -/
def dropBytes : Nat → List Char → List Char
  | _, [] => []
  | n, c :: rest => if n < c.utf8Size then c :: rest else dropBytes (n - c.utf8Size) rest

/-- A line as it is kept while it is read: its characters in reverse order, and the
sizes of its clusters in bytes, the last one first.  A size is known by its low eight
bits only. -/
structure Draft where
  chars : List Char := []
  sizes : List UInt8 := []

/-- Takes a cluster; a backspace erases the last one. -/
def Draft.add (d : Draft) (cluster : List Char) : Draft :=
  if cluster = ['\x08'] then
    match d.sizes with
    | [] => d
    | size :: sizes => ⟨dropBytes size.toNat d.chars, sizes⟩
  else
    let size := cluster.foldl (fun n c => n + c.utf8Size) 0
    ⟨cluster.reverse ++ d.chars, size.toUInt8 :: d.sizes⟩

/-- A line in which every backspace has erased the cluster before it. -/
def applyBackspaces (line : String) : String :=
  String.ofList ((Text.Grapheme.clusters line.toList).foldl Draft.add {}).chars.reverse

def isExit (s : Session) (line : String) : Bool :=
  s.mode == .normal && (Text.trim line == "exit" || Text.trim line == "quit")

/-- Runs lines up to the end or to one that leaves. -/
def runLines (k : Sinks) : Progress → List String → Progress
  | p, [] => p
  | p, line :: rest =>
      if isExit p.session line then p else runLines k (runLine k p line) rest

def interact (k : Sinks) (p : Progress) (input : String) : Progress :=
  let started := { p with session := p.session.note k.runner [.sessionStarted p.session.current] }
  runLines k (k.flush started) ((inputLines input).map applyBackspaces)

def rejection : String := "tinsh: config parse error: the document cannot be used\n"

def runWith (o : Options) (w : World) (input : String) : Report :=
  let loaded := Config.load w
  let config := loaded.1
  let errors := if loaded.2 then rejection else ""
  if o.dumpConfig then { output := config.render, errors := errors, code := 0, world := w }
  else
    let sinks : Sinks := { fileLevel := .ofName config.logging.level, verbose := o.verbose }
    let start : Progress :=
      { session := Session.start config (LogFile.openLog w config.logging), errors := errors }
    let finished := match o.command with
      | some line => runLine sinks start line
      | none => interact sinks start input
    { output := finished.output
      errors := finished.errors
      code := 0
      world := finished.session.world }

def run (args : List String) (w : World) (input : String) : Report :=
  match Options.parse args with
  | .ok o => runWith o w input
  | .error e => { output := "", errors := "Error: " ++ e.message ++ "\n", code := 1, world := w }

end Cli
end LineShell
