import FipsAudit.Inspection
import FipsAudit.Proofs.Elf.Header
import FipsAudit.Proofs.Elf.StringTable

/-!
# `FipsAudit.Proofs.Elf.Program` — writing a whole program

A program is laid out from what it consists of: the file header, the segment table, the name of the loader, the
dynamic entries, the contents of the sections, the symbols, both tables of names and the section table, each at a
multiple of the word size. The parts that lead to others hold their places, and the places follow from the lengths of
the parts before. So the file can be written without going round in circles.

* `Plan` — what a program consists of.
* `Plan.segments`, `sections`, `symbolEntries`, `dynamicEntries` — the records of its tables.
* `Program` — a plan whose numbers have room in the file, and `Program.bytes`, the file.
* `Stored` — what stands where, for `stored_bytes`: the file of a program has it so.
-/

namespace FipsAudit.Elf

open Text

/-! ## Parts -/

/-- What a section holds. -/
inductive Contents where
  /-- Bytes of the file. -/
  | bytes (stored : List UInt8)
  /-- Zeros, for which the file needs no room. -/
  | zeros (count : Nat)

namespace Contents

def stored : Contents → List UInt8
  | .bytes stored => stored
  | .zeros _ => []

def size : Contents → Nat
  | .bytes stored => stored.length
  | .zeros count => count

def type : Contents → Nat
  | .bytes _ => Section.programBits
  | .zeros _ => Section.noBits

theorem type_eq (c : Contents) : c.type = Section.programBits ∨ c.type = Section.noBits := by
  cases c with
  | bytes => exact Or.inl rfl
  | zeros => exact Or.inr rfl

end Contents

/-- A section by its name and contents. -/
structure ProgramSection where
  name : String
  contents : Contents

/-- The two kinds of program, with the further flags among the dynamic entries. -/
inductive ProgramKind where
  /-- At a fixed address. It may do without dynamic entries. -/
  | fixed (flags : Option Nat)
  /-- A shared object that is marked as a program. -/
  | pie (flags : Nat) (marked : flags &&& Object.pieFlag ≠ 0)

namespace ProgramKind

def type : ProgramKind → Nat
  | .fixed _ => 2
  | .pie _ _ => 3

def flags? : ProgramKind → Option Nat
  | .fixed flags => flags
  | .pie flags _ => some flags

def objectKind : ProgramKind → ObjectKind
  | .fixed _ => .executable
  | .pie _ _ => .pieExecutable

theorem isImage_objectKind (k : ProgramKind) : k.objectKind.isImage = true := by cases k <;> rfl

end ProgramKind

/-- What a program consists of. -/
structure Plan where
  layout : Layout
  kind : ProgramKind
  machine : Nat
  /-- Where the program starts. -/
  entry : Nat
  /-- Where the file starts in memory. -/
  base : Nat
  /-- The name of the loader, if one is named. -/
  interpreter : Option (List UInt8)
  sections : List ProgramSection
  symbols : List Symbol

namespace Plan

variable (p : Plan)

/-! ## Places -/

abbrev word : WordSize := p.layout.word

/-- The least place for another part from `n` on. -/
def align (n : Nat) : Nat := Bytes.alignUp p.word.bytes n

/-- The names of the sections that are there in each program, and then those of its own. -/
def sectionNames : List String := ".symtab" :: ".strtab" :: ".shstrtab" :: p.sections.map (·.name)

def symbolNames : List String := p.symbols.map (·.name)

def loaderName : List UInt8 := p.interpreter.getD []

/-- The dynamic entries: the further flags and the closing entry. -/
def dynamicEntries : List DynamicEntry :=
  match p.kind.flags? with
  | none => []
  | some flags => [⟨Tag.flags1, flags⟩, ⟨DynamicEntry.closing, 0⟩]

def dynamicSize : Nat := p.dynamicEntries.length * Bytes.recordLength (DynamicEntry.widths p.word)

/-- One segment for the whole file, one for the name of the loader and one for the dynamic entries. -/
def segmentCount : Nat := p.interpreter.toList.length + 1 + p.kind.flags?.toList.length

def symbolCount : Nat := p.symbols.length + 1

/-- The sections with the null section, the symbols and two tables of names. -/
def sectionCount : Nat := p.sections.length + 4

def segmentOffset : Nat := p.align (FileHeader.size p.word)

def loaderOffset : Nat := p.align (p.segmentOffset + p.segmentCount * Segment.size p.word)

def dynamicOffset : Nat := p.align (p.loaderOffset + p.loaderName.length)

def contentsOffset : Nat := p.align (p.dynamicOffset + p.dynamicSize)

def storedContents : List (List UInt8) := p.sections.map (·.contents.stored)

def contents : List UInt8 := Bytes.layOut p.word.bytes p.contentsOffset p.storedContents

def symbolOffset : Nat := p.align (p.contentsOffset + p.contents.length)

def symbolNameOffset : Nat := p.align (p.symbolOffset + p.symbolCount * SymbolEntry.size p.word)

def sectionNameOffset : Nat := p.align (p.symbolNameOffset + (StringTable.write p.symbolNames).length)

def sectionOffset : Nat := p.align (p.sectionNameOffset + (StringTable.write p.sectionNames).length)

def length : Nat := p.sectionOffset + p.sectionCount * Section.headerSize p.word

/-! ## Records -/

def header : FileHeader where
  type := p.kind.type
  machine := p.machine
  segmentOffset := p.segmentOffset
  sectionOffset := p.sectionOffset
  segmentCount := p.segmentCount
  sectionCount := p.sectionCount
  nameTable := p.sections.length + 3

/-- A part of the file that is in memory where the file is. -/
def segment (type flags offset size : Nat) : Segment := ⟨type, flags, offset, p.base + offset, size, size⟩

def segments : List Segment :=
  (p.interpreter.toList.map fun name => p.segment Segment.interpreter 4 p.loaderOffset name.length) ++
    p.segment Segment.load 7 0 p.length ::
      p.kind.flags?.toList.map fun _ => p.segment Segment.dynamic 6 p.dynamicOffset p.dynamicSize

/-- The sections of the program itself, with the places of their names and contents. -/
def ownSections : List Section :=
  let places := (StringTable.places p.sectionNames).drop 3
  let starts := Bytes.starts p.word.bytes p.contentsOffset (p.storedContents.map List.length)
  (places.zip (p.sections.zip starts)).map fun (place, s, start) =>
    ⟨place, s.contents.type, p.base + start, start, s.contents.size, 0, 0⟩

/-- The names of symbols are the section after the symbols. -/
def symbolSection : Section :=
  ⟨1, Section.symbolTable, 0, p.symbolOffset, p.symbolCount * SymbolEntry.size p.word, p.sections.length + 2,
    SymbolEntry.size p.word⟩

def nameSection (place offset : Nat) (names : List String) : Section :=
  ⟨place, Section.nameTable, 0, offset, (StringTable.write names).length, 0, 0⟩

def sectionRecords : List Section :=
  ⟨0, 0, 0, 0, 0, 0, 0⟩ :: (p.ownSections ++
    [p.symbolSection, nameSection 9 p.symbolNameOffset p.symbolNames,
      nameSection 17 p.sectionNameOffset p.sectionNames])

def symbolEntries : List SymbolEntry :=
  ⟨0, 0⟩ :: ((StringTable.places p.symbolNames).zip p.symbols).map fun (place, s) => ⟨place, s.sectionIndex⟩

/-! ## The file -/

def segmentTable : List UInt8 :=
  p.layout.order.table (Segment.widths p.word) (p.segments.map (Segment.row p.word))

def dynamicTable : List UInt8 :=
  p.layout.order.table (DynamicEntry.widths p.word) (p.dynamicEntries.map DynamicEntry.row)

def symbolTable : List UInt8 :=
  p.layout.order.table (SymbolEntry.widths p.word) (p.symbolEntries.map (SymbolEntry.row p.word))

def sectionTable : List UInt8 :=
  p.layout.order.table (Section.widths p.word) (p.sectionRecords.map Section.row)

/-- The parts after the file header. -/
def parts : List (List UInt8) :=
  [p.segmentTable, p.loaderName, p.dynamicTable, p.contents, p.symbolTable, StringTable.write p.symbolNames,
    StringTable.write p.sectionNames, p.sectionTable]

/-- The file. -/
def bytes : List UInt8 :=
  p.layout.ident ++ (p.layout.order.record (FileHeader.widths p.word) (p.header.row p.word p.entry) ++
    Bytes.layOut p.word.bytes (FileHeader.size p.word) p.parts)

end Plan

/-- A program whose numbers have room in the file, and whose names are closed by the zero byte behind them. -/
structure Program extends Plan where
  machine_fits : machine < 256 ^ 2
  entry_fits : entry < 256 ^ layout.word.bytes
  flags_fit : ∀ flags ∈ kind.flags?, flags < 256 ^ layout.word.bytes
  sections_named : ∀ s ∈ sections, '\x00' ∉ s.name.toList
  contents_fit : ∀ s ∈ sections, s.contents.size < 256 ^ layout.word.bytes
  /-- There are fewer sections than indices that are not reserved. -/
  sections_counted : sections.length + 4 < reservedSection
  symbols_named : ∀ s ∈ symbols, '\x00' ∉ s.name.toList
  indices_fit : ∀ s ∈ symbols, s.sectionIndex < 256 ^ 2
  names_fit : (StringTable.write toPlan.sectionNames).length < 256 ^ 4 ∧
    (StringTable.write toPlan.symbolNames).length < 256 ^ 4
  /-- The whole file has room in memory. -/
  fits : base + toPlan.length < 256 ^ layout.word.bytes

namespace Program

variable (p : Program)

/-! ## Numbers that have room -/

theorem le_align (n : Nat) : n ≤ p.align n := Bytes.le_alignUp p.word.bytes_pos n

theorem word_le : 256 ^ 4 ≤ 256 ^ p.word.bytes := p.word.pow_le_pow

/-- The parts come one after the other. -/
theorem places_le :
    FileHeader.size p.word ≤ p.segmentOffset ∧
    p.segmentOffset + p.segmentCount * Segment.size p.word ≤ p.loaderOffset ∧
    p.loaderOffset + p.loaderName.length ≤ p.dynamicOffset ∧
    p.dynamicOffset + p.dynamicSize ≤ p.contentsOffset ∧
    p.contentsOffset + p.contents.length ≤ p.symbolOffset ∧
    p.symbolOffset + p.symbolCount * SymbolEntry.size p.word ≤ p.symbolNameOffset ∧
    p.symbolNameOffset + (StringTable.write p.symbolNames).length ≤ p.sectionNameOffset ∧
    p.sectionNameOffset + (StringTable.write p.sectionNames).length ≤ p.sectionOffset ∧
    p.sectionOffset ≤ p.length :=
  ⟨p.le_align _, p.le_align _, p.le_align _, p.le_align _, p.le_align _, p.le_align _, p.le_align _, p.le_align _,
    Nat.le_add_right _ _⟩

theorem fits_word {n : Nat} (h : n ≤ p.base + p.length) : n < 256 ^ p.word.bytes := Nat.lt_of_le_of_lt h p.fits

theorem segmentCount_le : p.segmentCount ≤ 3 := by
  have hfew {α : Type} (o : Option α) : o.toList.length ≤ 1 := by cases o <;> simp
  have hloader := hfew p.interpreter
  have hdynamic := hfew p.kind.flags?
  unfold Plan.segmentCount
  omega

theorem fits_header : Fits (FileHeader.widths p.word) (p.header.row p.word p.entry) := by
  have hplaces := p.places_le
  have htype : p.kind.type < 256 ^ 2 := by cases p.kind <;> simp [ProgramKind.type]
  have hsegmentCount := p.segmentCount_le
  have hcount : p.sections.length + 4 < 0xff00 := p.sections_counted
  refine FileHeader.fits_row ⟨htype, p.machine_fits, ?_, ?_, ?_⟩ ⟨p.entry_fits, p.fits_word ?_, p.fits_word ?_⟩ <;>
    simp only [Plan.header, Plan.sectionCount] <;> omega

theorem fits_segment {type flags offset size : Nat} (htype : type < 256 ^ 4) (hflags : flags < 256 ^ 4)
    (h : offset + size ≤ p.length) :
    Fits (Segment.widths p.word) ((p.segment type flags offset size).row p.word) := by
  refine Segment.fits_row ⟨htype, hflags⟩ ⟨p.fits_word ?_, p.fits_word ?_, p.fits_word ?_, p.fits_word ?_⟩ <;> omega

theorem fits_segments : ∀ s ∈ p.segments, Fits (Segment.widths p.word) (s.row p.word) := by
  have hplaces := p.places_le
  intro s hs
  rcases List.mem_append.mp hs with hs | hs
  · obtain ⟨name, hname, rfl⟩ := List.mem_map.mp hs
    have hloaderName : p.loaderName = name := by
      rw [Plan.loaderName, Option.mem_toList.mp hname, Option.getD_some]
    rw [hloaderName] at hplaces
    exact p.fits_segment (by decide) (by decide) (by omega)
  · rcases List.mem_cons.mp hs with rfl | hs
    · exact p.fits_segment (by decide) (by decide) (by omega)
    · obtain ⟨-, -, rfl⟩ := List.mem_map.mp hs
      exact p.fits_segment (by decide) (by decide) (by omega)

/-- A dynamic entry is the one with the flags or the closing one. -/
theorem mem_dynamicEntries {e : DynamicEntry} (h : e ∈ p.dynamicEntries) :
    (∃ flags ∈ p.kind.flags?, e = ⟨Tag.flags1, flags⟩) ∨ e = ⟨DynamicEntry.closing, 0⟩ := by
  unfold Plan.dynamicEntries at h
  cases hflags : p.kind.flags? with
  | none => simp [hflags] at h
  | some flags => simpa [hflags] using h

theorem fits_dynamicEntries : ∀ e ∈ p.dynamicEntries, Fits (DynamicEntry.widths p.word) e.row := by
  have hroom := p.word_le
  intro e he
  rcases p.mem_dynamicEntries he with ⟨flags, hflags, rfl⟩ | rfl
  · exact DynamicEntry.fits_row (Nat.lt_of_lt_of_le (by decide) hroom) (p.flags_fit flags hflags)
  · exact DynamicEntry.fits_row (Nat.lt_of_lt_of_le (by decide) hroom) (Nat.lt_of_lt_of_le (by decide) hroom)

theorem fits_symbolEntries : ∀ e ∈ p.symbolEntries, Fits (SymbolEntry.widths p.word) (e.row p.word) := by
  intro e he
  rcases List.mem_cons.mp he with rfl | he
  · exact SymbolEntry.fits_row (by decide) (by decide)
  · obtain ⟨⟨place, s⟩, hmem, rfl⟩ := List.mem_map.mp he
    obtain ⟨hplace, hs⟩ := List.of_mem_zip hmem
    have hle := StringTable.le_of_mem_places _ hplace
    exact SymbolEntry.fits_row (Nat.lt_of_le_of_lt hle p.names_fit.2) (p.indices_fit s hs)

theorem fits_ownSections : ∀ s ∈ p.ownSections, Fits (Section.widths p.word) s.row := by
  have hplaces := p.places_le
  have hroom := p.word_le
  intro s hs
  obtain ⟨⟨place, owner, start⟩, hmem, rfl⟩ := List.mem_map.mp hs
  obtain ⟨hplace, hrest⟩ := List.of_mem_zip hmem
  obtain ⟨howner, hstart⟩ := List.of_mem_zip hrest
  have hname := StringTable.le_of_mem_places _ (List.mem_of_mem_drop hplace)
  have hnames := p.names_fit.1
  -- The contents are stored before the symbols, so their place is below the file's length.
  have hinside : start ≤ p.contentsOffset + p.contents.length := Bytes.le_of_mem_starts p.word.bytes_pos hstart
  have htype : owner.contents.type < 256 ^ 4 := by
    rcases owner.contents.type_eq with h | h <;> rw [h] <;> decide
  exact Section.fits_row ⟨by omega, htype, by omega⟩ ⟨p.fits_word (by omega), p.fits_word (by omega),
    p.contents_fit owner howner, by omega⟩

theorem fits_nameSection {place offset : Nat} {names : List String} (hplace : place < 256 ^ 4)
    (h : offset + (StringTable.write names).length ≤ p.length) :
    Fits (Section.widths p.word) (Plan.nameSection place offset names).row := by
  have hroom := p.word_le
  exact Section.fits_row ⟨hplace, by decide, by omega⟩ ⟨by omega, p.fits_word (by omega), p.fits_word (by omega),
    by omega⟩

theorem fits_sectionRecords : ∀ s ∈ p.sectionRecords, Fits (Section.widths p.word) s.row := by
  have hplaces := p.places_le
  have hroom := p.word_le
  have hcount : p.sections.length + 4 < 0xff00 := p.sections_counted
  have hentry : SymbolEntry.size p.word < 256 ^ 4 := by cases p.word <;> decide
  intro s hs
  rcases List.mem_cons.mp hs with rfl | hs
  · exact Section.fits_row ⟨by omega, by omega, by omega⟩ ⟨by omega, by omega, by omega, by omega⟩
  rcases List.mem_append.mp hs with hs | hs
  · exact p.fits_ownSections s hs
  simp only [List.mem_cons, List.not_mem_nil, or_false] at hs
  rcases hs with rfl | rfl | rfl
  · exact Section.fits_row ⟨by omega, by decide, by omega⟩ ⟨by omega, p.fits_word (by omega), p.fits_word (by omega),
      by omega⟩
  · exact p.fits_nameSection (by decide) (by omega)
  · exact p.fits_nameSection (by decide) (by omega)

/-! ## Lengths of tables -/

theorem length_segments : p.segments.length = p.segmentCount := by
  simp only [Plan.segments, Plan.segmentCount, List.length_append, List.length_map, List.length_cons]
  omega

theorem length_ownSections : p.ownSections.length = p.sections.length := by
  simp [Plan.ownSections, Plan.sectionNames, Plan.storedContents]

theorem length_sectionRecords : p.sectionRecords.length = p.sectionCount := by
  simp [Plan.sectionRecords, Plan.sectionCount, length_ownSections]

theorem length_symbolEntries : p.symbolEntries.length = p.symbolCount := by
  simp [Plan.symbolEntries, Plan.symbolCount, Plan.symbolNames]

/-! ## What stands where -/

/-- The parts start at their places. -/
theorem starts_parts :
    Bytes.starts p.word.bytes (FileHeader.size p.word) (p.parts.map List.length) =
      [p.segmentOffset, p.loaderOffset, p.dynamicOffset, p.contentsOffset, p.symbolOffset, p.symbolNameOffset,
        p.sectionNameOffset, p.sectionOffset] := by
  have hsegments : p.segmentTable.length = p.segmentCount * Segment.size p.word := by
    rw [Plan.segmentTable, length_table_map p.fits_segments, p.length_segments, Segment.size]
  have hdynamic : p.dynamicTable.length = p.dynamicSize := length_table_map p.fits_dynamicEntries
  have hsymbols : p.symbolTable.length = p.symbolCount * SymbolEntry.size p.word := by
    rw [Plan.symbolTable, length_table_map p.fits_symbolEntries, p.length_symbolEntries, SymbolEntry.size]
  simp only [Plan.parts, List.map_cons, List.map_nil, hsegments, hdynamic, hsymbols]
  rfl

end Program

/-- **What stands where** in the file of a program. -/
structure Program.Stored (p : Program) (data : ByteArray) : Prop where
  ident : Bytes.HasAt data 0 p.layout.ident
  header : Bytes.HasAt data identSize
    (p.layout.order.record (FileHeader.widths p.word) (p.header.row p.word p.entry))
  segments : Bytes.HasAt data p.segmentOffset p.segmentTable
  dynamic : Bytes.HasAt data p.dynamicOffset p.dynamicTable
  symbols : Bytes.HasAt data p.symbolOffset p.symbolTable
  symbolNames : Bytes.HasAt data p.symbolNameOffset (StringTable.write p.symbolNames)
  sectionNames : Bytes.HasAt data p.sectionNameOffset (StringTable.write p.sectionNames)
  sections : Bytes.HasAt data p.sectionOffset p.sectionTable

/-- **The file of a program has its parts where they belong**, whatever follows it. -/
theorem Program.stored_bytes (p : Program) (rest : List UInt8) : p.Stored (Bytes.ofList (p.bytes ++ rest)) := by
  have hfile : Bytes.HasAt (Bytes.ofList (p.bytes ++ rest)) 0 p.bytes := ⟨[], rest, rfl, rfl⟩
  -- The file splits into identification, header and parts, and the parts stand where they start.
  obtain ⟨hident, hbody⟩ := hfile.append
  obtain ⟨hheader, hparts⟩ := hbody.append
  rw [Nat.zero_add, Layout.length_ident] at hheader hparts
  rw [p.layout.order.length_record p.fits_header] at hparts
  have hstands := hparts.layOut p.word.bytes_pos
  rw [show identSize + Bytes.recordLength (FileHeader.widths p.word) = FileHeader.size p.word from rfl,
    p.starts_parts] at hstands
  simp only [Plan.parts, List.forall₂_cons] at hstands
  obtain ⟨hsegments, -, hdynamic, -, hsymbols, hsymbolNames, hsectionNames, hsections, -⟩ := hstands
  exact ⟨hident, hheader, hsegments, hdynamic, hsymbols, hsymbolNames, hsectionNames, hsections⟩

end FipsAudit.Elf
