import FipsAudit.Bytes
import FipsAudit.Text.Utf8

/-!
# `FipsAudit.Elf.StringTable` — names by offset

A string table is a run of bytes in which each name ends with a zero byte. Names are looked up by the offset at
which they start; an offset inside a name gives the rest of that name.

* `StringTable.ofBytes?` — a table whose names are all well-formed text. A zero byte is never part of a longer
  character, so the names are well-formed exactly when the table as a whole is.
* `StringTable.get` — the name at an offset.
-/

namespace FipsAudit.Elf

open Text

/-- The bytes of a string table. -/
structure StringTable where
  /-- The names, each closed by a zero byte. -/
  bytes : ByteArray

namespace StringTable

/-- The table without names. -/
def empty : StringTable := ⟨.empty⟩

/-- The table that the bytes hold, if all its names are well-formed. -/
def ofBytes? (bytes : ByteArray) : Option StringTable :=
  if (Utf8.decodeChars? (Bytes.toList bytes)).isSome then some ⟨bytes⟩ else none

/-- The text from `offset` to the next zero byte; empty past the end and inside a character. -/
def get (t : StringTable) (offset : Nat) : String :=
  (Utf8.decode? (Bytes.upToZero t.bytes offset)).getD ""

end StringTable

end FipsAudit.Elf
