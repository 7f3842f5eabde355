import FipsAudit.Elf.Dynamic

/-!
# `FipsAudit.Elf.Object` — a whole ELF file

Reading follows the offsets of the header to the segments, the sections, the names and symbols, and the dynamic
entries. A file is read as a whole or not at all: tables that no one asks for have to lie inside the file too,
so that a damaged file is never half believed.

* `Object.parse?` — the parsed file; `none` when any table is damaged.
* `relocationSectionsFit`, `versionTablesFit` — the tables that are checked and not kept.
-/

namespace FipsAudit.Elf

/-- A parsed ELF file. -/
structure Object where
  /-- How its numbers are written. -/
  layout : Layout
  /-- The file header. -/
  header : FileHeader
  /-- The segments. -/
  segments : List Segment
  /-- The sections, in the order of the section table. -/
  sections : List Section
  /-- The names of sections. -/
  sectionNames : StringTable
  /-- The symbols, the null symbol first. -/
  symbols : List SymbolEntry
  /-- The names of symbols. -/
  symbolNames : StringTable
  /-- The dynamic entries, up to the closing one. -/
  dynamic : List DynamicEntry

/-! ## Headers -/

/-- The file header after the identification. -/
def readHeader? (data : ByteArray) : Option (Layout × FileHeader) := do
  let ident ← Bytes.slice? data 0 identSize
  let layout ← Layout.ofIdent? ident
  let fields ← Bytes.record? layout.order (FileHeader.widths layout.word) data identSize
  return (layout, ← FileHeader.ofFields? fields)

/-- The segment table; it cannot hold more segments than would fill the file. -/
def readSegments? (data : ByteArray) (l : Layout) (h : FileHeader) : Option (List Segment) :=
  if h.segmentCount > data.size / Segment.size l.word then none
  else readAll? l (Segment.widths l.word) (Segment.ofFields? l.word) data h.segmentOffset h.segmentCount

/-- The section table. A count of zero means that the first header holds the count, and the first header is
    there in any case. -/
def readSections? (data : ByteArray) (l : Layout) (h : FileHeader) : Option (List Section) :=
  if h.sectionOffset = 0 then some []
  else do
    let read := readAll? l (Section.widths l.word) Section.ofFields? data
    let first ← read h.sectionOffset 1
    -- More sections than the header can count are counted in the first section header.
    let count := if h.sectionCount = 0 then (first.head?.map (·.size)).getD 0 else h.sectionCount
    if count > data.size / Section.headerSize l.word then none
    else read h.sectionOffset (max count 1)

/-! ## Names and symbols -/

/-- Whether a section lies inside the file and inside memory; empty sections and those without content may lie
    anywhere. -/
def Section.fits (s : Section) (data : ByteArray) : Bool :=
  s.type == noBits || s.size == 0 ||
    (Bytes.holds data s.offset s.size && s.address + s.size < wordLimit)

/-- The section index that stands for the link of the first section. -/
def extendedIndex : Nat := 0xffff

/-- The string table at a section index; an index past the sections gives the empty table. -/
def stringTable? (data : ByteArray) (sections : List Section) (index : Nat) : Option StringTable :=
  let index := if index = extendedIndex then (sections.head?.map (·.link)).getD 0 else index
  match sections[index]? with
  | none => some .empty
  | some s => if s.fits data then do StringTable.ofBytes? (← Bytes.part? data s.offset s.size) else none

/-- The symbols of the last symbol table and their names. -/
def readSymbols? (data : ByteArray) (l : Layout) (sections : List Section) :
    Option (List SymbolEntry × StringTable) :=
  match sections.reverse.find? (·.type == Section.symbolTable) with
  | none => some ([], .empty)
  | some s => do
    let count := s.size / s.entrySize
    guard (Bytes.holds data s.offset (count * SymbolEntry.size l.word))
    let symbols ← readAll? l (SymbolEntry.widths l.word) (SymbolEntry.ofFields? l.word) data s.offset count
    return (symbols, ← stringTable? data sections s.link)

/-! ## Tables checked and not kept -/

/-- Whether all relocation sections lie in the file. -/
def relocationSectionsFit (data : ByteArray) (sections : List Section) : Bool :=
  sections.all fun s =>
    if s.type = Section.relocationsWithAddend ∨ s.type = Section.relocations then
      s.fits data && (s.size == 0 || Bytes.holds data s.offset s.size)
    else true

/-- Whether the first table of each kind of symbol versions lies in the file. -/
def versionTablesFit (data : ByteArray) (sections : List Section) : Bool :=
  Section.versionTables.all fun type =>
    match sections.find? (·.type == type) with
    | none => true
    | some s => Bytes.holds data s.offset s.size

/-! ## The file -/

/-- Reads a file as an ELF object; `none` when any of its tables is damaged. -/
def Object.parse? (data : ByteArray) : Option Object := do
  let (layout, header) ← readHeader? data
  let segments ← readSegments? data layout header
  let sections ← readSections? data layout header
  let sectionNames ← stringTable? data sections header.nameTable
  let (symbols, symbolNames) ← readSymbols? data layout sections
  let dynamic ← readDynamic? data layout segments
  guard (dynamic.all (dynamicTablesFit data layout header.machine segments))
  guard (relocationSectionsFit data sections)
  guard (versionTablesFit data sections)
  return { layout, header, segments, sections, sectionNames, symbols, symbolNames, dynamic := dynamic.getD [] }

/-- The name of a section, empty when the name table has none at its offset. -/
def Object.sectionName (o : Object) (s : Section) : String := o.sectionNames.get s.name

/-- The name of a symbol, empty when the name table has none at its offset. -/
def Object.symbolName (o : Object) (s : SymbolEntry) : String := o.symbolNames.get s.name

end FipsAudit.Elf
