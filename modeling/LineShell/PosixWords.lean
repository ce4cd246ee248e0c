import LineShell.Text.Basic

/-!
# Words in the portable shell quoting

A list of words can be written on one line so that a portable shell reads the
same words back.  A word is cut into chunks; each chunk is the longest stretch
that one of three styles can carry, left bare if it can be, else in single
quotes, else in double quotes.  Reading knows all three styles, escapes and
comments, and refuses a text that breaks off inside one.
-/

namespace LineShell
namespace PosixWords

inductive Style where
  | bare
  | single
  | double
deriving DecidableEq, Repr, Inhabited

structure Styles where
  bare : Bool
  single : Bool
  double : Bool
deriving DecidableEq, Repr, Inhabited

namespace Styles

def inter (a b : Styles) : Styles :=
  ⟨a.bare && b.bare, a.single && b.single, a.double && b.double⟩

def isEmpty (a : Styles) : Bool :=
  !a.bare && !a.single && !a.double

def best (a : Styles) : Style :=
  if a.bare then .bare else if a.single then .single else .double

end Styles

def isBareChar (c : Char) : Bool :=
  c.isAlphanum || ['+', '-', '.', '/', ':', '@', ']', '_'].contains c

def stylesOf (c : Char) : Styles :=
  ⟨isBareChar c, !(['\x27', '\\', '^'].contains c), !(['\x60', '$', '!', '^'].contains c)⟩

/-- The styles that can carry a character at the head of a chunk: a caret there
takes single quotes. -/
def headStylesOf (c : Char) : Styles :=
  if c = '^' then ⟨false, true, false⟩ else stylesOf c

/-- The chunks of the rest of a word, given the chunk at hand. -/
def chunksFrom : Styles → String → List Char → List (Style × String)
  | styles, chunk, [] => [(styles.best, chunk)]
  | styles, chunk, c :: rest =>
      let narrowed := styles.inter (stylesOf c)
      if narrowed.isEmpty then (styles.best, chunk) :: chunksFrom (headStylesOf c) (c.toString) rest
      else chunksFrom narrowed (chunk.push c) rest

/-- The chunks of a word; the empty word is one empty chunk in single quotes. -/
def chunks (word : String) : List (Style × String) :=
  match word.toList with
  | [] => [(.single, "")]
  | c :: rest => chunksFrom (headStylesOf c) (c.toString) rest

/-- Whether a character takes a backslash between double quotes. -/
def isEscaped (c : Char) : Bool :=
  ['$', '\x60', '"', '\\'].contains c

def writeChunk : Style × String → String
  | (.bare, chunk) => chunk
  | (.single, chunk) => "\x27" ++ chunk ++ "\x27"
  | (.double, chunk) =>
      "\"" ++ String.ofList (chunk.toList.flatMap fun c => if isEscaped c then ['\\', c] else [c])
        ++ "\""

def quote (word : String) : String :=
  Text.joinWith "" ((chunks word).map writeChunk)

/-- The words on one line; none if a word holds the character with code zero. -/
def join? (words : List String) : Option String :=
  if words.any Text.hasNul then none else some (Text.joinWith " " (words.map quote))

/-- The words on one line, without quotes if they cannot be quoted. -/
def join (words : List String) : String :=
  (join? words).getD (Text.joinWith " " words)

inductive Place where
  | between
  | comment
  | word (text : String)
  | escape (text : String)
  | single (text : String)
  | double (text : String)
  | doubleEscape (text : String)
deriving DecidableEq, Repr, Inhabited

def wordPlace (text : String) (c : Char) : Place :=
  if c = '"' then .double text
  else if c = '\x27' then .single text
  else if c = '\\' then .escape text
  else .word (text.push c)

def isSeparator (c : Char) : Bool :=
  c == ' ' || c == '\t' || c == '\n'

def splitFrom : Place → List Char → Option (List String)
  | .between, [] | .comment, [] => some []
  | .word text, [] => some [text]
  | .escape _, [] | .single _, [] | .double _, [] | .doubleEscape _, [] => none
  | .between, c :: rest =>
      if isSeparator c then splitFrom .between rest
      else if c = '#' then splitFrom .comment rest
      else splitFrom (wordPlace "" c) rest
  | .comment, c :: rest => splitFrom (if c = '\n' then .between else .comment) rest
  | .word text, c :: rest =>
      if isSeparator c then (splitFrom .between rest).map (text :: ·)
      else splitFrom (wordPlace text c) rest
  | .escape text, c :: rest => splitFrom (.word (if c = '\n' then text else text.push c)) rest
  | .single text, c :: rest =>
      splitFrom (if c = '\x27' then .word text else .single (text.push c)) rest
  | .double text, c :: rest =>
      splitFrom
        (if c = '"' then .word text
         else if c = '\\' then .doubleEscape text
         else .double (text.push c)) rest
  | .doubleEscape text, c :: rest =>
      splitFrom
        (if c = '\n' then .double text
         else if isEscaped c then .double (text.push c)
         else .double ((text.push '\\').push c)) rest

/-- The words of a text; none if it breaks off inside a quotation or an escape. -/
def split? (text : String) : Option (List String) :=
  splitFrom .between text.toList

end PosixWords
end LineShell
