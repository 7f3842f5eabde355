import FipsAudit.Text.Pieces

/-!
# `FipsAudit.Text.Blank` — white space

The characters of the Unicode property `White_Space`, and texts without the blanks around them.

* `isBlank` — membership in the property; core's `Char.isWhitespace` knows six of its members.
* `trim` — a text without leading and trailing blanks.
-/

namespace FipsAudit.Text

/-- The code points of the property `White_Space`. -/
def isBlank (c : Char) : Bool :=
  let n := c.toNat
  (9 ≤ n && n ≤ 13) || n == 32 || n == 0x85 || n == 0xA0 || n == 0x1680 ||
    (0x2000 ≤ n && n ≤ 0x200A) || n == 0x2028 || n == 0x2029 || n == 0x202F || n == 0x205F || n == 0x3000

/-- `s` without the blanks at its two ends. -/
def trimChars (s : List Char) : List Char := strip isBlank s

/-- `s` without the blanks at its two ends. -/
def trim (s : String) : String := String.ofList (trimChars s.toList)

end FipsAudit.Text
