import FipsAudit.Text.Number
import FipsAudit.Text.Unicode.Category
import FipsAudit.Text.Unicode.Property

/-!
# `FipsAudit.Text.Quoted` — quoting for diagnostics

Messages show foreign text between quotation marks, so that a reader sees where it ends and which characters it
holds. What has no visible form of its own is written as an escape: control characters, unassigned and private
code points, blanks other than the space, and marks that would join the character before them.

* `quoted` — a text between double quotation marks.
* `quotedChar` — one character between single quotation marks.
-/

namespace FipsAudit.Text

/-- Whether `c` is shown as itself: it has a visible form and joins nothing. -/
def isShown (c : Char) : Bool :=
  if c.toNat < 0x7F then 0x20 ≤ c.toNat
  else (Unicode.category c).isGraphic && !Unicode.graphemeExtend.contains c.toNat

/-- The escape of a code point by its hexadecimal number. -/
def numericEscape (c : Char) : List Char :=
  "\\u\x7b".toList ++ hex c.toNat ++ "\x7d".toList

/-- `c` as it stands inside quotation marks of the kind `mark`. -/
def escapeChar (mark c : Char) : List Char :=
  if c = '\x00' then ['\\', '0']
  else if c = '\t' then ['\\', 't']
  else if c = '\r' then ['\\', 'r']
  else if c = '\n' then ['\\', 'n']
  else if c = '\\' then ['\\', '\\']
  else if c = mark then ['\\', mark]
  else if isShown c then [c]
  else numericEscape c

/-- `s` between double quotation marks. -/
def quotedChars (s : List Char) : List Char :=
  '"' :: s.flatMap (escapeChar '"') ++ ['"']

/-- `s` between double quotation marks. -/
def quoted (s : String) : String := String.ofList (quotedChars s.toList)

/-- `c` between single quotation marks. -/
def quotedChar (c : Char) : String := String.ofList ('\'' :: escapeChar '\'' c ++ ['\''])

end FipsAudit.Text
