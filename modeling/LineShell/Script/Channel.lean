import LineShell.FileTree.Basic
import LineShell.Text.Basic

/-!
# Channels

A descriptor of a process leads to a channel: a text that is being captured, a text that is
being read, one end of a pipe, a file with a position, or nothing.  Channels are shared, so
that two descriptors may lead to one of them, and each one takes or gives bytes only as it
was opened for.  All channels to a file share an image of it.
-/

namespace LineShell
namespace Script

inductive Access where
  | read
  | truncate
  | append
  | readWrite
deriving DecidableEq, Repr, Inhabited

namespace Access

def reads : Access → Bool
  | .read | .readWrite => true
  | _ => false

def writes (a : Access) : Bool :=
  a != .read

end Access

inductive Target where
  /-- Keeps what is written, the last piece first. -/
  | capture (pieces : List (List UInt8))
  | source (bytes : List UInt8)
  | pipe (number : Nat)
  /-- A file, by the number of its image, with the place of the next byte. -/
  | file (image position : Nat)
  | directory
  | null
deriving DecidableEq, Repr, Inhabited

structure Channel where
  target : Target
  access : Access
deriving DecidableEq, Repr, Inhabited

inductive Portion where
  | line
  | block (size : Nat)
deriving DecidableEq, Repr, Inhabited

namespace Portion

/-- The bytes up to the first end of a line, in reverse order after some others, and those
after it. -/
def cutLine : List UInt8 → List UInt8 → List UInt8 × List UInt8
  | taken, [] => (taken.reverse, [])
  | taken, b :: rest => if b == 10 then ((b :: taken).reverse, rest) else cutLine (b :: taken) rest

/-- The portion at the head of some bytes, and what is left of them. -/
def cut : Portion → List UInt8 → List UInt8 × List UInt8
  | .line, bytes => cutLine [] bytes
  | .block size, bytes => (bytes.take size, bytes.drop size)

/-- The place after the first end of a line, given the number of bytes that are left. -/
def lineEnd (bytes : ByteArray) : Nat → Nat → Nat
  | 0, position => position
  | n + 1, position =>
      if bytes[position]?.any (· == 10) then position + 1 else lineEnd bytes n (position + 1)

def extract (p : Portion) (bytes : ByteArray) (position : Nat) : List UInt8 :=
  let stop := match p with
    | .line => lineEnd bytes (bytes.size - position) position
    | .block size => min bytes.size (position + size)
  (bytes.extract position stop).toList

end Portion

structure Image where
  loc : Location
  bytes : ByteArray
  /-- Whether the tree does not have them yet. -/
  isAhead : Bool := false

def Image.write (i : Image) (start : Nat) (bytes : List UInt8) : Image :=
  let changed :=
    if start = i.bytes.size then bytes.foldl ByteArray.push i.bytes
    else
      let gap := (List.replicate (start - i.bytes.size) (0 : UInt8)).toByteArray
      i.bytes.extract 0 start ++ gap ++ bytes.toByteArray ++
        i.bytes.extract (start + bytes.length) i.bytes.size
  { i with bytes := changed, isAhead := true }

structure Pipe where
  ahead : List UInt8 := []
  /-- What was written after it, the last piece first. -/
  behind : List (List UInt8) := []
  size : Nat := 0
  /-- Whether nobody was left to read when someone wrote last. -/
  broken : Bool := false
deriving DecidableEq, Repr, Inhabited

namespace Pipe

def capacity : Nat := 65536

/-- The number of bytes that are written all at once or not at all. -/
def unit : Nat := 4096

/-- How many bytes can be written at once out of so many. -/
def room (p : Pipe) (count : Nat) : Nat :=
  let free := capacity - p.size
  if count ≤ free then count else if count ≤ unit then 0 else free

def push (p : Pipe) (bytes : List UInt8) : Pipe :=
  { p with behind := bytes :: p.behind, size := p.size + bytes.length }

def pull (p : Pipe) (portion : Portion) : List UInt8 × Pipe :=
  let ahead := if p.behind.isEmpty then p.ahead else p.ahead ++ p.behind.reverse.flatten
  let (taken, rest) := portion.cut ahead
  (taken, { p with ahead := rest, behind := [], size := p.size - taken.length })

end Pipe

/-- The descriptors of a process and the numbers of their channels. -/
abbrev Descriptors := List (Nat × Nat)

namespace Descriptors

def channel? (ds : Descriptors) (fd : Nat) : Option Nat :=
  ds.lookup fd

def set (ds : Descriptors) (fd channel : Nat) : Descriptors :=
  (fd, channel) :: ds.filter (·.1 != fd)

def close (ds : Descriptors) (fd : Nat) : Descriptors :=
  ds.filter (·.1 != fd)

end Descriptors

def descriptorNumber? (digits : List Char) : Option Nat :=
  if !digits.isEmpty && digits.all Char.isDigit then some (Text.digitsValue digits) else none

def descriptorOfPath? (path : String) : Option Nat :=
  match path with
  | "/dev/stdin" => some 0
  | "/dev/stdout" => some 1
  | "/dev/stderr" => some 2
  | _ =>
      ["/dev/fd/", "/proc/self/fd/"].findSome? fun lead =>
        if Text.startsWith path lead then descriptorNumber? (path.toList.drop lead.length) else none

end Script
end LineShell
