import FipsAudit.Bytes

/-!
# `FipsAudit.Elf.Header` — the records of an ELF file

Two word sizes and two byte orders give four layouts of the same records. Each record is a list of numbers with
fixed widths; the layouts differ in the widths and, in two records, in the order.

* `Layout` — word size and byte order, from the identification bytes.
* `FileHeader`, `Segment`, `Section`, `SymbolEntry`, `DynamicEntry` — the records, as far as they are used.
* `widths` and `ofFields?` of each — how a record is laid out, and what its numbers mean.
-/

namespace FipsAudit.Elf

/-- The size of a file's addresses and offsets. -/
inductive WordSize where
  | four
  | eight
deriving DecidableEq, Repr

/-- The number of bytes. -/
def WordSize.bytes : WordSize → Nat
  | .four => 4
  | .eight => 8

/-- How the numbers of a file are written. -/
structure Layout where
  /-- The size of addresses and offsets. -/
  word : WordSize
  /-- The order of bytes. -/
  order : ByteOrder
deriving DecidableEq, Repr

/-- The first bytes of every ELF file. -/
def magic : List UInt8 := [0x7f, 0x45, 0x4c, 0x46]

/-- The number of identification bytes. -/
def identSize : Nat := 16

/-- The layout that the identification bytes announce. -/
def Layout.ofIdent? (ident : List UInt8) : Option Layout :=
  if ident.take 4 ≠ magic then none
  else
    match ident.drop 4 with
    | 1 :: 1 :: _ => some ⟨.four, .little⟩
    | 1 :: 2 :: _ => some ⟨.four, .big⟩
    | 2 :: 1 :: _ => some ⟨.eight, .little⟩
    | 2 :: 2 :: _ => some ⟨.eight, .big⟩
    | _ => none

/-! ## The file header -/

/-- The numbers of the file header that lead to the other records. -/
structure FileHeader where
  /-- The type of object. -/
  type : Nat
  /-- The machine it is for. -/
  machine : Nat
  /-- Where the segment table starts. -/
  segmentOffset : Nat
  /-- Where the section table starts; zero when there is none. -/
  sectionOffset : Nat
  /-- The number of segments. -/
  segmentCount : Nat
  /-- The number of sections; zero when the first section holds it. -/
  sectionCount : Nat
  /-- The section that holds the section names. -/
  nameTable : Nat
deriving DecidableEq, Repr

/-- The widths of the header's numbers after the identification. -/
def FileHeader.widths (w : WordSize) : List Nat :=
  [2, 2, 4, w.bytes, w.bytes, w.bytes, 4, 2, 2, 2, 2, 2, 2]

/-- The meaning of the header's numbers. -/
def FileHeader.ofFields? : List Nat → Option FileHeader
  | [type, machine, _, _, segmentOffset, sectionOffset, _, _, _, segmentCount, _, sectionCount, nameTable] =>
    some { type, machine, segmentOffset, sectionOffset, segmentCount, sectionCount, nameTable }
  | _ => none

/-! ## Segments -/

/-- A part of the file that is mapped into memory, or describes something there. -/
structure Segment where
  /-- What the segment is for. -/
  type : Nat
  /-- Execute, write and read bits. -/
  flags : Nat
  /-- Where it starts in the file. -/
  offset : Nat
  /-- Where it starts in memory. -/
  address : Nat
  /-- How many bytes it has in the file. -/
  fileSize : Nat
  /-- How many bytes it has in memory. -/
  memorySize : Nat
deriving DecidableEq, Repr

namespace Segment

/-- Loaded into memory. -/
def load : Nat := 1

/-- Holds the dynamic entries. -/
def dynamic : Nat := 2

/-- Names the loader. -/
def interpreter : Nat := 3

/-- The widths of a segment's numbers. -/
def widths : WordSize → List Nat
  | .four => [4, 4, 4, 4, 4, 4, 4, 4]
  | .eight => [4, 4, 8, 8, 8, 8, 8, 8]

/-- The meaning of a segment's numbers: the flags stand second or seventh. -/
def ofFields? : WordSize → List Nat → Option Segment
  | .four, [type, offset, address, _, fileSize, memorySize, flags, _] =>
    some { type, flags, offset, address, fileSize, memorySize }
  | .eight, [type, flags, offset, address, _, fileSize, memorySize, _] =>
    some { type, flags, offset, address, fileSize, memorySize }
  | _, _ => none

/-- The size of a segment's record. -/
def size (w : WordSize) : Nat := Bytes.recordLength (widths w)

end Segment

/-! ## Sections -/

/-- A named part of the file. -/
structure Section where
  /-- Where its name starts in the table of section names. -/
  name : Nat
  /-- What the section holds. -/
  type : Nat
  /-- Where it is in memory. -/
  address : Nat
  /-- Where it starts in the file. -/
  offset : Nat
  /-- How many bytes it has. -/
  size : Nat
  /-- A section that belongs to it. -/
  link : Nat
  /-- The size of its entries. -/
  entrySize : Nat
deriving DecidableEq, Repr

namespace Section

/-- The symbol table. -/
def symbolTable : Nat := 2

/-- Relocations with an addend. -/
def relocationsWithAddend : Nat := 4

/-- Takes no room in the file. -/
def noBits : Nat := 8

/-- Relocations without an addend. -/
def relocations : Nat := 9

/-- Tables of symbol versions. -/
def versionTables : List Nat := [0x6fffffff, 0x6ffffffd, 0x6ffffffe]

/-- The widths of a section header's numbers. -/
def widths (w : WordSize) : List Nat :=
  [4, 4, w.bytes, w.bytes, w.bytes, w.bytes, 4, 4, w.bytes, w.bytes]

/-- The meaning of a section header's numbers. -/
def ofFields? : List Nat → Option Section
  | [name, type, _, address, offset, size, link, _, _, entrySize] =>
    some { name, type, address, offset, size, link, entrySize }
  | _ => none

/-- The size of a section header. -/
def headerSize (w : WordSize) : Nat := Bytes.recordLength (widths w)

end Section

/-! ## Symbols and dynamic entries -/

/-- An entry of a symbol table. -/
structure SymbolEntry where
  /-- Where its name starts in the string table. -/
  name : Nat
  /-- The index of its section. -/
  sectionIndex : Nat
deriving DecidableEq, Repr

namespace SymbolEntry

/-- The widths of a symbol's numbers. -/
def widths : WordSize → List Nat
  | .four => [4, 4, 4, 1, 1, 2]
  | .eight => [4, 1, 1, 2, 8, 8]

/-- The meaning of a symbol's numbers: the section index stands last or fourth. -/
def ofFields? : WordSize → List Nat → Option SymbolEntry
  | .four, [name, _, _, _, _, sectionIndex] => some { name, sectionIndex }
  | .eight, [name, _, _, sectionIndex, _, _] => some { name, sectionIndex }
  | _, _ => none

/-- The size of a symbol. -/
def size (w : WordSize) : Nat := Bytes.recordLength (widths w)

end SymbolEntry

/-- A fact for the loader: a tag and its value. -/
structure DynamicEntry where
  /-- What the value means. -/
  tag : Nat
  /-- The value. -/
  value : Nat
deriving DecidableEq, Repr

namespace DynamicEntry

/-- The widths of an entry's numbers. -/
def widths (w : WordSize) : List Nat := [w.bytes, w.bytes]

/-- The meaning of an entry's numbers. -/
def ofFields? : List Nat → Option DynamicEntry
  | [tag, value] => some { tag, value }
  | _ => none

end DynamicEntry

/-! ## Tables of records -/

/-- The least number that does not fit a word of the format. -/
def wordLimit : Nat := 0x10000000000000000

/-- Records of one kind: `count` of them from `offset`, each with a meaning. -/
def readAll? {α : Type} (l : Layout) (widths : List Nat) (meaning? : List Nat → Option α) (data : ByteArray)
    (offset count : Nat) : Option (List α) := do
  (← Bytes.records? l.order widths data offset count).mapM meaning?

end FipsAudit.Elf
