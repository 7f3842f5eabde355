import FipsAudit.Elf.Header
import FipsAudit.Proofs.Bytes

/-!
# `FipsAudit.Proofs.Elf.Header` — writing the records of an ELF file

Each record is written as the row of its numbers, in the order of its layout. The numbers that no reader keeps get
the values that they have in a plain program. Reading the row gives the record again, so a table of rows is read as
the records that it was written from.

* `Layout.ident` and `row` of each record — what is written.
* `ofIdent?_ident`, `ofFields?_row` — the meaning of what is written.
* `fits_row` of each record — the rows whose numbers have room.
* `readAll?_of_hasAt` — whole tables.
-/

namespace FipsAudit.Elf

/-! ## Identification -/

/-- The byte that announces a word size. -/
def WordSize.code : WordSize → UInt8
  | .four => 1
  | .eight => 2

/-- The byte that announces the order of bytes. -/
def Layout.orderCode (l : Layout) : UInt8 :=
  match l.order with
  | .little => 1
  | .big => 2

/-- The identification of a file with a layout: the version is 1, the rest is zero. -/
def Layout.ident (l : Layout) : List UInt8 := magic ++ l.word.code :: l.orderCode :: 1 :: List.replicate 9 0

@[simp] theorem Layout.length_ident (l : Layout) : l.ident.length = identSize := rfl

theorem Layout.ofIdent?_ident (l : Layout) : ofIdent? l.ident = some l := by
  obtain ⟨word, order⟩ := l
  cases word <;> cases order <;> rfl

/-! ## Words -/

theorem WordSize.bytes_pos (w : WordSize) : 0 < w.bytes := by cases w <;> decide

/-- Four bytes fit a word. -/
theorem WordSize.pow_le_pow (w : WordSize) : 256 ^ 4 ≤ 256 ^ w.bytes := by cases w <;> decide

/-! ## Rows -/

/-- The size of the file header with its identification. -/
def FileHeader.size (w : WordSize) : Nat := identSize + Bytes.recordLength (widths w)

/-- The numbers of a file header. The program starts at `entry`; the sizes of headers are the format's. -/
def FileHeader.row (w : WordSize) (entry : Nat) (h : FileHeader) : List Nat :=
  [h.type, h.machine, 1, entry, h.segmentOffset, h.sectionOffset, 0, size w, Segment.size w, h.segmentCount,
    Section.headerSize w, h.sectionCount, h.nameTable]

theorem FileHeader.ofFields?_row (w : WordSize) (entry : Nat) (h : FileHeader) :
    ofFields? (h.row w entry) = some h := rfl

/-- The numbers of a segment, whose physical address is its address. -/
def Segment.row (w : WordSize) (s : Segment) : List Nat :=
  match w with
  | .four => [s.type, s.offset, s.address, s.address, s.fileSize, s.memorySize, s.flags, 0]
  | .eight => [s.type, s.flags, s.offset, s.address, s.address, s.fileSize, s.memorySize, 0]

theorem Segment.ofFields?_row (w : WordSize) (s : Segment) : ofFields? w (s.row w) = some s := by cases w <;> rfl

/-- The type of a section that holds bytes of the program. -/
def Section.programBits : Nat := 1

/-- The type of a section that holds names. -/
def Section.nameTable : Nat := 3

/-- The numbers of a section header. A section with an address is marked as part of memory, and only the first symbol
    is local. -/
def Section.row (s : Section) : List Nat :=
  [s.name, s.type, if s.address = 0 then 0 else 2, s.address, s.offset, s.size, s.link,
    if s.type = symbolTable then 1 else 0, 0, s.entrySize]

theorem Section.ofFields?_row (s : Section) : ofFields? s.row = some s := rfl

/-- The numbers of a symbol. Every symbol with a name is a global function. -/
def SymbolEntry.row (w : WordSize) (s : SymbolEntry) : List Nat :=
  let info := if s.name = 0 then 0 else 0x12
  match w with
  | .four => [s.name, 0, 0, info, 0, s.sectionIndex]
  | .eight => [s.name, info, 0, s.sectionIndex, 0, 0]

theorem SymbolEntry.ofFields?_row (w : WordSize) (s : SymbolEntry) : ofFields? w (s.row w) = some s := by
  cases w <;> rfl

/-- The numbers of a dynamic entry. -/
def DynamicEntry.row (e : DynamicEntry) : List Nat := [e.tag, e.value]

theorem DynamicEntry.ofFields?_row (e : DynamicEntry) : ofFields? e.row = some e := rfl

/-! ## Rows that have room -/

theorem FileHeader.fits_row {w : WordSize} {entry : Nat} {h : FileHeader}
    (hshort : h.type < 256 ^ 2 ∧ h.machine < 256 ^ 2 ∧ h.segmentCount < 256 ^ 2 ∧ h.sectionCount < 256 ^ 2 ∧
      h.nameTable < 256 ^ 2)
    (hword : entry < 256 ^ w.bytes ∧ h.segmentOffset < 256 ^ w.bytes ∧ h.sectionOffset < 256 ^ w.bytes) :
    Fits (widths w) (h.row w entry) := by
  obtain ⟨htype, hmachine, hsegments, hsections, hnames⟩ := hshort
  obtain ⟨hentry, hsegmentOffset, hsectionOffset⟩ := hword
  have hsize : size w < 256 ^ 2 ∧ Segment.size w < 256 ^ 2 ∧ Section.headerSize w < 256 ^ 2 := by cases w <;> decide
  obtain ⟨hheader, hsegment, hsection⟩ := hsize
  exact ⟨htype, hmachine, by decide, hentry, hsegmentOffset, hsectionOffset, by decide, hheader, hsegment, hsegments,
    hsection, hsections, hnames, trivial⟩

theorem Segment.fits_row {w : WordSize} {type flags offset address fileSize memorySize : Nat}
    (hshort : type < 256 ^ 4 ∧ flags < 256 ^ 4)
    (hword : offset < 256 ^ w.bytes ∧ address < 256 ^ w.bytes ∧ fileSize < 256 ^ w.bytes ∧
      memorySize < 256 ^ w.bytes) : Fits (widths w) (row w ⟨type, flags, offset, address, fileSize, memorySize⟩) := by
  obtain ⟨htype, hflags⟩ := hshort
  obtain ⟨hoffset, haddress, hfileSize, hmemorySize⟩ := hword
  cases w with
  | four => exact ⟨htype, hoffset, haddress, haddress, hfileSize, hmemorySize, hflags, by decide, trivial⟩
  | eight => exact ⟨htype, hflags, hoffset, haddress, haddress, hfileSize, hmemorySize, by decide, trivial⟩

theorem Section.fits_row {w : WordSize} {name type address offset size link entrySize : Nat}
    (hshort : name < 256 ^ 4 ∧ type < 256 ^ 4 ∧ link < 256 ^ 4)
    (hword : address < 256 ^ w.bytes ∧ offset < 256 ^ w.bytes ∧ size < 256 ^ w.bytes ∧ entrySize < 256 ^ w.bytes) :
    Fits (widths w) (row ⟨name, type, address, offset, size, link, entrySize⟩) := by
  obtain ⟨hname, htype, hlink⟩ := hshort
  obtain ⟨haddress, hoffset, hsize, hentrySize⟩ := hword
  have hroom := w.pow_le_pow
  have hflags : (if address = 0 then 0 else 2) < 256 ^ w.bytes := by split <;> omega
  have hinfo : (if type = symbolTable then 1 else 0) < 256 ^ 4 := by split <;> decide
  exact ⟨hname, htype, hflags, haddress, hoffset, hsize, hlink, hinfo, by omega, hentrySize, trivial⟩

theorem SymbolEntry.fits_row {w : WordSize} {s : SymbolEntry} (hname : s.name < 256 ^ 4)
    (hindex : s.sectionIndex < 256 ^ 2) : Fits (widths w) (s.row w) := by
  have hinfo : (if s.name = 0 then 0 else 0x12) < 256 ^ 1 := by split <;> decide
  cases w with
  | four => exact ⟨hname, by decide, by decide, hinfo, by decide, hindex, trivial⟩
  | eight => exact ⟨hname, hinfo, by decide, hindex, by decide, by decide, trivial⟩

theorem DynamicEntry.fits_row {w : WordSize} {tag value : Nat} (htag : tag < 256 ^ w.bytes)
    (hvalue : value < 256 ^ w.bytes) : Fits (widths w) (row ⟨tag, value⟩) :=
  ⟨htag, hvalue, trivial⟩

/-! ## Tables -/

/-- **A table is read as the records that it was written from.** -/
theorem readAll?_of_hasAt {α : Type} {l : Layout} {widths : List Nat} {meaning? : List Nat → Option α}
    {row : α → List Nat} {data : ByteArray} {offset : Nat} {records : List α}
    (h : Bytes.HasAt data offset (l.order.table widths (records.map row)))
    (hfits : ∀ r ∈ records, Fits widths (row r)) (hmeaning : ∀ r, meaning? (row r) = some r) :
    readAll? l widths meaning? data offset records.length = some records := by
  have hrows : Bytes.records? l.order widths data offset records.length = some (records.map row) := by
    have hread := h.records? (List.forall_mem_map.mpr hfits)
    rwa [List.length_map] at hread
  have hrecords : (records.map row).mapM meaning? = some records := by
    have hpure := List.mapM_pure (m := Option) (l := records) (f := id)
    rw [List.map_id] at hpure
    rw [List.mapM_map, show meaning? ∘ row = some from funext hmeaning]
    exact hpure
  rw [readAll?, hrows, Option.bind_eq_bind, Option.bind_some, hrecords]

/-- The first record of a table can be read on its own. -/
theorem readAll?_one {α : Type} {l : Layout} {widths : List Nat} {meaning? : List Nat → Option α}
    {row : α → List Nat} {data : ByteArray} {offset : Nat} {first : α} {records : List α}
    (h : Bytes.HasAt data offset (l.order.table widths ((first :: records).map row)))
    (hfits : Fits widths (row first)) (hmeaning : ∀ r, meaning? (row r) = some r) :
    readAll? l widths meaning? data offset 1 = some [first] := by
  have hfirst : l.order.table widths ([first].map row) = l.order.record widths (row first) := List.flatMap_singleton _ _
  have hstands : Bytes.HasAt data offset (l.order.table widths ([first].map row)) := by
    rw [hfirst]
    exact h.append.1
  exact readAll?_of_hasAt hstands (List.forall_mem_singleton.mpr hfits) hmeaning

theorem length_table_map {α : Type} {l : Layout} {widths : List Nat} {row : α → List Nat} {records : List α}
    (hfits : ∀ r ∈ records, Fits widths (row r)) :
    (l.order.table widths (records.map row)).length = records.length * Bytes.recordLength widths := by
  rw [Bytes.length_table (List.forall_mem_map.mpr hfits), List.length_map]

/-- A table in a file has no more records than would fill the file. -/
theorem not_length_gt {α : Type} {l : Layout} {widths : List Nat} {row : α → List Nat} {data : ByteArray} {offset : Nat}
    {records : List α} (h : Bytes.HasAt data offset (l.order.table widths (records.map row)))
    (hfits : ∀ r ∈ records, Fits widths (row r)) (hwidths : 0 < Bytes.recordLength widths) :
    ¬records.length > data.size / Bytes.recordLength widths := by
  have hle := h.le_size
  rw [length_table_map hfits] at hle
  exact Nat.not_lt.mpr ((Nat.le_div_iff_mul_le hwidths).mpr (by omega))

end FipsAudit.Elf
