/-!
Blank and control characters.

Several rules of the service look at the edges or at the inside of a text: a
duration and a bind address are read after blanks at both ends are dropped, an
address of a web page may hold neither blanks nor control characters, and an
application name may hold no control character. Both classes are those of
Unicode: `White_Space`, which reaches beyond the blanks of ASCII, and the
general category `Cc`.
-/

set_option autoImplicit false

namespace BuildService.Text

/-- A blank: a character with the Unicode property `White_Space`. -/
def isBlank (c : Char) : Bool :=
  let n := c.toNat
  (9 ≤ n && n ≤ 13) || n == 0x20 || n == 0x85 || n == 0xA0 || n == 0x1680 ||
    (0x2000 ≤ n && n ≤ 0x200A) || n == 0x2028 || n == 0x2029 || n == 0x202F ||
    n == 0x205F || n == 0x3000

/-- A control character: the general category `Cc`, that is C0, DEL and C1. -/
def isControl (c : Char) : Bool :=
  let n := c.toNat
  n ≤ 0x1F || (0x7F ≤ n && n ≤ 0x9F)

/-- The characters without the blanks at both ends. -/
def trimmed (cs : List Char) : List Char :=
  ((cs.dropWhile isBlank).reverse.dropWhile isBlank).reverse

def trim (s : String) : String := String.ofList (trimmed s.toList)

end BuildService.Text
