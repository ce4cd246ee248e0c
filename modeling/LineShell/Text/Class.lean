import LineShell.Text.Alphanumeric

/-!
# Character classes

The classes that the line grammar uses: blanks separate words, name characters
spell variable names.  Both are properties of a single character, defined for
every code point.
-/

namespace LineShell
namespace Text

/-- White space, in any script: the five ASCII controls from tab to carriage
return, the space, and the blanks of the other blocks. -/
def isBlank (c : Char) : Bool :=
  let n := c.toNat
  n == 0x20 || (decide (0x09 ≤ n) && decide (n ≤ 0x0d)) || n == 0x85 || n == 0xa0 ||
    n == 0x1680 || (decide (0x2000 ≤ n) && decide (n ≤ 0x200a)) || n == 0x2028 ||
    n == 0x2029 || n == 0x202f || n == 0x205f || n == 0x3000

def isAlphanumeric (c : Char) : Bool :=
  if c.toNat < 0x80 then c.isAlphanum else Alphanumeric.contains c.toNat

def isNameChar (c : Char) : Bool :=
  isAlphanumeric c || c == '_'

def allBlank (s : String) : Bool :=
  s.toList.all isBlank

end Text
end LineShell
