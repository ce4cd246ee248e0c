/-!
# Texts and bytes

Files hold bytes; commands hold texts.  A text has one encoding.  Decoding cuts
the bytes into units, each a character or the longest stretch that begins one
and breaks off; a reader either refuses such a stretch or shows one replacement
character for it.  A raw text has a character for every byte, so that what works on
characters works on bytes.
-/

namespace LineShell
namespace Text

def encode (s : String) : List UInt8 :=
  s.toList.flatMap String.utf8EncodeChar

/-- What a first byte announces: the bits of the character it carries, the
number of bytes that follow, and the range of the next one. -/
structure Lead where
  bits : Nat
  more : Nat
  low : Nat := 0x80
  high : Nat := 0xbf

/-- The announcement of a first byte; none if no character begins with it. -/
def Lead.ofByte? (b : UInt8) : Option Lead :=
  let n := b.toNat
  if n < 0x80 then some ⟨n, 0, 0x80, 0xbf⟩
  else if n < 0xc2 then none
  else if n < 0xe0 then some ⟨n - 0xc0, 1, 0x80, 0xbf⟩
  else if n = 0xe0 then some ⟨0, 2, 0xa0, 0xbf⟩
  else if n = 0xed then some ⟨0xd, 2, 0x80, 0x9f⟩
  else if n < 0xf0 then some ⟨n - 0xe0, 2, 0x80, 0xbf⟩
  else if n = 0xf0 then some ⟨0, 3, 0x90, 0xbf⟩
  else if n < 0xf4 then some ⟨n - 0xf0, 3, 0x80, 0xbf⟩
  else if n = 0xf4 then some ⟨4, 3, 0x80, 0x8f⟩
  else none

/-- Reads the bytes that must follow; the rest begins after those that fit. -/
def readMore (low high : Nat) : Nat → Nat → List UInt8 → Option Nat × List UInt8
  | 0, bits, bytes => (some bits, bytes)
  | _ + 1, _, [] => (none, [])
  | more + 1, bits, b :: bytes =>
      if low ≤ b.toNat ∧ b.toNat ≤ high then
        readMore 0x80 0xbf more (64 * bits + b.toNat % 64) bytes
      else (none, b :: bytes)

theorem readMore_length_le (low high more bits : Nat) (bytes : List UInt8) :
    (readMore low high more bits bytes).2.length ≤ bytes.length := by
  induction more generalizing low high bits bytes with
  | zero => simp [readMore]
  | succ more ih =>
      cases bytes with
      | nil => simp [readMore]
      | cons b bytes =>
          simp only [readMore]
          split
          · exact Nat.le_succ_of_le (ih _ _ _ _)
          · exact Nat.le_refl _

/-- The units of a byte sequence: characters, and `none` for each broken one. -/
def units : List UInt8 → List (Option Char)
  | [] => []
  | b :: bytes =>
      match Lead.ofByte? b with
      | none => none :: units bytes
      | some lead =>
          let result := readMore lead.low lead.high lead.more lead.bits bytes
          result.1.map Char.ofNat :: units result.2
termination_by bytes => bytes.length
decreasing_by
  · exact Nat.lt_succ_self _
  · exact Nat.lt_succ_of_le (readMore_length_le ..)

def decode? (bytes : List UInt8) : Option String :=
  ((units bytes).mapM id).map String.ofList

/-- The text of the bytes, with a replacement character for each broken unit. -/
def decodeLossy (bytes : List UInt8) : String :=
  String.ofList ((units bytes).map (·.getD '\ufffd'))

/-- The text whose characters are the bytes, each the character with its number. -/
def rawOfBytes (bytes : List UInt8) : String :=
  String.ofList (bytes.map fun b => Char.ofNat b.toNat)

def bytesOfRaw (s : String) : List UInt8 :=
  s.toList.map fun c => c.toNat.toUInt8

/-- The bytes of a text as a raw text; one of ASCII stays as it is. -/
def raw (s : String) : String :=
  if s.utf8ByteSize = s.length then s else rawOfBytes (encode s)

def ofRaw (s : String) : String :=
  if s.utf8ByteSize = s.length then s else decodeLossy (bytesOfRaw s)

end Text
end LineShell
