import FipsAudit.FileSystem.Resolve
import FipsAudit.Text.Number

/-!
# `FipsAudit.FileSystem.Archive` — trees from archives

A portable archive holds one record after the other: a header of hexadecimal fields, a name and a content, each
filled up to a multiple of four bytes. A record with a certain name ends it. Directories, regular files and
symbolic links are taken from it; a link's content is its target.

* `Record.read?` — the record at an offset, and where the next one begins.
* `FileSystem.ofArchive` — the tree of an archive.
-/

namespace FipsAudit.Archive

open Text

/-- One entry of an archive. -/
structure Record where
  /-- Its name. -/
  path : Path
  /-- Its type and permission bits. -/
  mode : Nat
  /-- Its content. -/
  content : ByteArray

/-- The length of a header. -/
def headerSize : Nat := 110

/-- The first bytes of a header, without the last one, which says whether there is a check sum. -/
def magic : List UInt8 := [0x30, 0x37, 0x30, 0x37, 0x30]

/-- The least multiple of four that is not below `n`. -/
def roundUp (n : Nat) : Nat := (n + 3) / 4 * 4

/-- The value of the hexadecimal digits among `bytes`. -/
def natOfHex (bytes : List UInt8) : Nat :=
  bytes.foldl (fun n b => 16 * n + (hexValue? (Char.ofNat b.toNat)).getD 0) 0

/-- The bytes of a part of the archive. -/
def slice (data : ByteArray) (start size : Nat) : ByteArray := data.extract start (start + size)

/-- A field of the header at `offset`. Fields have eight digits and follow the six of the format's mark. -/
def field (data : ByteArray) (offset index : Nat) : Nat :=
  natOfHex (slice data (offset + 6 + 8 * index) 8).data.toList

/-- The record at `offset`, and where the next one begins. -/
def Record.read? (data : ByteArray) (offset : Nat) : Option (Record × Nat) :=
  if offset + headerSize > data.size || (slice data offset 5).data.toList ≠ magic then none
  else
    let nameSize := field data offset 11
    let size := field data offset 6
    let start := roundUp (offset + headerSize + nameSize)
    if start + size > data.size then none
    else
      let name := (slice data (offset + headerSize) (nameSize - 1)).data.toList
      some (⟨⟨name⟩, field data offset 1, slice data start size⟩, roundUp (start + size))

/-- The name of the last record. -/
def endName : Path := .ofString "TRAILER!!!"

/-- The records from `offset` on, up to the last one. -/
def records (data : ByteArray) : (fuel : Nat) → (offset : Nat) → List Record
  | 0, _ => []
  | fuel + 1, offset =>
    match Record.read? data offset with
    | none => []
    | some (r, next) => if r.path = endName then [] else r :: records data fuel next

/-- The node that a record stands for, if it is one of the three kinds. -/
def Record.node? (r : Record) : Option Node :=
  match r.mode / 0o10000 with
  | 0o04 => some .directory
  | 0o10 => some (.file (r.mode % 0o10000) r.content)
  | 0o12 => some (.link ⟨r.content.data.toList⟩)
  | _ => none

/-- The tree with the entry of a record. -/
def Record.addTo (fs : FileSystem) (r : Record) : FileSystem :=
  match r.node? with
  | none => fs
  | some n => fs.create r.path n

end FipsAudit.Archive

namespace FipsAudit

/-- The tree of an archive. Every record takes a header, so there are not more of them than bytes. -/
def FileSystem.ofArchive (data : ByteArray) : FileSystem :=
  (Archive.records data data.size 0).foldl Archive.Record.addTo {}

end FipsAudit
