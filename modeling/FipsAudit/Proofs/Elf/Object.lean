import FipsAudit.Proofs.Elf.Program
import Mathlib.Data.Option.Basic

/-!
# `FipsAudit.Proofs.Elf.Object` — the file of a program is read back

Reading follows the numbers of the header from table to table. Each table stands where the numbers lead, so each step
finds the records that were written, and the file as a whole is read as the records of the program.

* `Program.readHeader?`, `readSegments?`, `readSections?`, `readSymbols?`, `readDynamic?` — one step each.
* `dynamicTablesFit_dynamicEntries` — entries that place no table leave nothing to be checked.
* `Program.parse?_of_stored` — the whole file.
-/

namespace FipsAudit.Elf

namespace Program

variable {p : Program} {data : ByteArray}

/-- The file of a program as it is read back. -/
def object (p : Program) : Object where
  layout := p.layout
  header := p.header
  segments := p.segments
  sections := p.sectionRecords
  sectionNames := .ofNames p.sectionNames
  symbols := p.symbolEntries
  symbolNames := .ofNames p.symbolNames
  dynamic := p.dynamicEntries

/-! ## Headers -/

theorem readHeader? (h : p.Stored data) : Elf.readHeader? data = some (p.layout, p.header) := by
  have hident : Bytes.slice? data 0 identSize = some p.layout.ident := h.ident.slice?
  have hfields := h.header.record? p.fits_header
  simp only [Elf.readHeader?, hident, Layout.ofIdent?_ident, hfields, FileHeader.ofFields?_row, Option.bind_eq_bind,
    Option.bind_some, Option.pure_def]

theorem readSegments? (h : p.Stored data) : Elf.readSegments? data p.layout p.header = some p.segments := by
  have hcount : ¬p.header.segmentCount > data.size / Segment.size p.word := by
    have hlength := not_length_gt h.segments p.fits_segments (by cases p.word <;> decide)
    rwa [p.length_segments] at hlength
  have hread := readAll?_of_hasAt h.segments p.fits_segments (Segment.ofFields?_row p.word)
  rw [p.length_segments] at hread
  rw [Elf.readSegments?, if_neg hcount]
  exact hread

/-- The first section is read on its own before the others, for the case that it counts them. -/
theorem readSections? (h : p.Stored data) : Elf.readSections? data p.layout p.header = some p.sectionRecords := by
  have hoffset : p.sectionOffset ≠ 0 := by
    have hplaces := p.places_le
    have hheader : 0 < FileHeader.size p.word := by cases p.word <;> decide
    omega
  have hcount : ¬p.header.sectionCount > data.size / Section.headerSize p.word := by
    have hlength := not_length_gt h.sections p.fits_sectionRecords (by cases p.word <;> decide)
    rwa [p.length_sectionRecords] at hlength
  have hfirst := readAll?_one h.sections (p.fits_sectionRecords _ List.mem_cons_self) Section.ofFields?_row
  have hread := readAll?_of_hasAt h.sections p.fits_sectionRecords Section.ofFields?_row
  rw [p.length_sectionRecords] at hread
  have hsome : p.header.sectionCount ≠ 0 := Nat.succ_ne_zero _
  have hmax : max p.header.sectionCount 1 = p.sectionCount := Nat.max_eq_left (Nat.succ_le_succ (Nat.zero_le _))
  have hsame : p.header.sectionOffset = p.sectionOffset := rfl
  simp only [Elf.readSections?, hsame, if_neg hoffset, hfirst, Option.bind_eq_bind, Option.bind_some, if_neg hsome,
    if_neg hcount, hmax, hread]

/-! ## Names -/

/-- No section is so far down that its index would stand for another place. -/
theorem ne_extendedIndex {index : Nat} (h : index < p.sectionCount) : index ≠ extendedIndex := by
  have hcount : p.sections.length + 4 < 0xff00 := p.sections_counted
  simp only [Plan.sectionCount] at h
  unfold extendedIndex
  omega

/-- A table of names is found by the index of its section. -/
theorem stringTable?_of_hasAt {index place offset : Nat} {names : List String}
    (hsection : p.sectionRecords[index]? = some (Plan.nameSection place offset names))
    (hat : Bytes.HasAt data offset (StringTable.write names)) (hshort : (StringTable.write names).length < 256 ^ 4) :
    stringTable? data p.sectionRecords index = some (.ofNames names) := by
  have hindex : index < p.sectionCount := by
    rw [← p.length_sectionRecords]
    exact (List.getElem?_eq_some_iff.mp hsection).1
  have hfits : (Plan.nameSection place offset names).fits data = true := by
    have hlow : (StringTable.write names).length < wordLimit := Nat.lt_of_lt_of_le hshort (by decide)
    simp [Section.fits, Plan.nameSection, hat.holds, hlow]
  have hpart : Bytes.part? data (Plan.nameSection place offset names).offset
      (Plan.nameSection place offset names).size = some (StringTable.ofNames names).bytes := hat.part?
  simp only [stringTable?, if_neg (ne_extendedIndex hindex), hsection, hfits, if_true, hpart, Option.bind_eq_bind,
    Option.bind_some, StringTable.ofBytes?_ofNames]

/-- The last sections are the symbols and both tables of names. -/
theorem getElem?_sectionRecords (p : Program) (i : Nat) :
    p.sectionRecords[p.sections.length + i + 1]? =
      [p.symbolSection, Plan.nameSection 9 p.symbolNameOffset p.symbolNames,
        Plan.nameSection 17 p.sectionNameOffset p.sectionNames][i]? := by
  rw [Plan.sectionRecords, List.getElem?_cons_succ, List.getElem?_append_right (by rw [p.length_ownSections]; omega),
    p.length_ownSections, Nat.add_sub_cancel_left]

theorem readSymbols? (h : p.Stored data) :
    Elf.readSymbols? data p.layout p.sectionRecords = some (p.symbolEntries, .ofNames p.symbolNames) := by
  have hlast : p.sectionRecords.reverse.find? (·.type == Section.symbolTable) = some p.symbolSection := by
    simp only [Plan.sectionRecords, List.reverse_cons, List.reverse_append]
    rfl
  have hsize : 0 < SymbolEntry.size p.word := by cases p.word <;> decide
  have hcount : p.symbolSection.size / p.symbolSection.entrySize = p.symbolCount := Nat.mul_div_cancel _ hsize
  have hholds := h.symbols.holds
  rw [Plan.symbolTable, length_table_map p.fits_symbolEntries, p.length_symbolEntries] at hholds
  have hread := readAll?_of_hasAt h.symbols p.fits_symbolEntries (SymbolEntry.ofFields?_row p.word)
  rw [p.length_symbolEntries] at hread
  have hnames := stringTable?_of_hasAt (p.getElem?_sectionRecords 1) h.symbolNames p.names_fit.2
  have hplace : p.symbolSection.offset = p.symbolOffset := rfl
  have hlink : p.symbolSection.link = p.sections.length + 2 := rfl
  simp only [Elf.readSymbols?, hlast, hcount, hplace, hlink, SymbolEntry.size, hholds, guard_true, hread, hnames,
    Option.bind_eq_bind, Option.bind_some, Option.pure_def]

/-! ## Dynamic entries -/

theorem readDynamic? (h : p.Stored data) :
    Elf.readDynamic? data p.layout p.segments = some (p.kind.flags?.map fun _ => p.dynamicEntries) := by
  -- The segments before it are the loader's name and the file itself.
  have hfind : p.segments.find? (·.type == Segment.dynamic) =
      p.kind.flags?.map fun _ => p.segment Segment.dynamic 6 p.dynamicOffset p.dynamicSize := by
    unfold Plan.segments
    cases p.interpreter <;> cases p.kind.flags? <;> rfl
  rw [Elf.readDynamic?, hfind]
  cases hflags : p.kind.flags? with
  | none => rfl
  | some flags =>
      have hentries : p.dynamicEntries = [⟨Tag.flags1, flags⟩, ⟨DynamicEntry.closing, 0⟩] := by
        rw [Plan.dynamicEntries, hflags]
      have hwidth : 0 < Bytes.recordLength (DynamicEntry.widths p.word) := by cases p.word <;> decide
      have hcount : p.dynamicSize / Bytes.recordLength (DynamicEntry.widths p.word) = p.dynamicEntries.length :=
        Nat.mul_div_cancel _ hwidth
      have hsome : p.dynamicSize ≠ 0 := by
        rw [Plan.dynamicSize, hentries]
        exact Nat.mul_ne_zero (Nat.succ_ne_zero 1) (Nat.ne_of_gt hwidth)
      have hholds := h.dynamic.holds
      rw [Plan.dynamicTable, length_table_map p.fits_dynamicEntries, ← Plan.dynamicSize] at hholds
      have hread := readAll?_of_hasAt h.dynamic p.fits_dynamicEntries DynamicEntry.ofFields?_row
      have hclosing : upToClosing p.dynamicEntries = p.dynamicEntries := by
        rw [hentries]
        rfl
      simp only [Option.map_some, Plan.segment, if_neg hsome, hholds, Bool.not_true, Bool.false_eq_true, if_false,
        hcount, hread, hclosing, Option.bind_eq_bind, Option.bind_some, Option.pure_def]

/-- Entries that place no table leave nothing to be checked. -/
theorem dynamicTablesFit_of_absent {l : Layout} {machine : Nat} {segments : List Segment} {entries : List DynamicEntry}
    (h : ∀ e ∈ entries, e.tag = Tag.flags1 ∨ e.tag = DynamicEntry.closing) :
    dynamicTablesFit data l machine segments entries = true := by
  have habsent {tag : Nat} (hflags : tag ≠ Tag.flags1) (hclosing : tag ≠ DynamicEntry.closing) :
      lastValue? entries tag = none := by
    rw [lastValue?, Option.map_eq_none_iff, List.find?_eq_none]
    intro e he heq
    rw [List.mem_reverse] at he
    rw [beq_iff_eq] at heq
    rcases h e he with h | h
    · exact hflags (heq ▸ h)
    · exact hclosing (heq ▸ h)
  -- So every table is an empty one at the start of the file.
  have hstart : Bytes.HasAt data 0 [] := ⟨[], Bytes.toList data, rfl, rfl⟩
  have hpart : Bytes.part? data 0 0 = some (Bytes.ofList []) := hstart.part?
  have hempty : (StringTable.ofBytes? (Bytes.ofList [])).isSome = true := rfl
  obtain ⟨names, hnames⟩ := Option.isSome_iff_exists.mp hempty
  have hrelocations (withAddend : Bool) : Relocations.maxSymbol? data l ⟨0, 0, withAddend⟩ = some 0 := rfl
  simp (disch := decide) only [dynamicTablesFit, habsent, Option.bind_none, Option.getD_none, hpart, hnames,
    Option.bind_eq_bind, Option.bind_some, List.mapM_cons, List.mapM_nil, hrelocations, Option.pure_def]
  have hgreatest : [0, 0, 0].foldl max 0 = 0 := rfl
  have hholds : Bytes.holds data 0 0 = true := hstart.holds
  rw [if_pos hgreatest, Nat.zero_mul, hholds]
  rfl

theorem dynamicTablesFit_dynamicEntries (p : Program) (data : ByteArray) :
    dynamicTablesFit data p.layout p.machine p.segments p.dynamicEntries = true := by
  refine dynamicTablesFit_of_absent fun e he => ?_
  rcases p.mem_dynamicEntries he with ⟨flags, -, rfl⟩ | rfl
  · exact Or.inl rfl
  · exact Or.inr rfl

/-! ## Tables checked and not kept -/

/-- Sections of a program hold nothing, bytes, symbols, names or zeros. -/
def sectionTypes : List Nat :=
  [0, Section.programBits, Section.symbolTable, Section.nameTable, Section.noBits]

theorem type_sectionRecords (p : Program) : ∀ s ∈ p.sectionRecords, s.type ∈ sectionTypes := by
  intro s hs
  rcases List.mem_cons.mp hs with rfl | hs
  · decide
  rcases List.mem_append.mp hs with hs | hs
  · obtain ⟨⟨place, owner, start⟩, -, rfl⟩ := List.mem_map.mp hs
    show owner.contents.type ∈ _
    rcases owner.contents.type_eq with h | h <;> rw [h] <;> decide
  · simp only [List.mem_cons, List.not_mem_nil, or_false] at hs
    rcases hs with rfl | rfl | rfl
    · show Section.symbolTable ∈ _
      decide
    · show Section.nameTable ∈ _
      decide
    · show Section.nameTable ∈ _
      decide

theorem relocationSectionsFit_sectionRecords (p : Program) (data : ByteArray) :
    relocationSectionsFit data p.sectionRecords = true := by
  have hother : ∀ type ∈ sectionTypes, ¬(type = Section.relocationsWithAddend ∨ type = Section.relocations) := by
    decide
  rw [relocationSectionsFit, List.all_eq_true]
  intro s hs
  rw [if_neg (hother s.type (p.type_sectionRecords s hs))]

theorem versionTablesFit_sectionRecords (p : Program) (data : ByteArray) :
    versionTablesFit data p.sectionRecords = true := by
  have hother : ∀ type ∈ sectionTypes, type ∉ Section.versionTables := by decide
  rw [versionTablesFit, List.all_eq_true]
  intro type hmem
  have hnone : p.sectionRecords.find? (·.type == type) = none := by
    rw [List.find?_eq_none]
    intro s hs heq
    rw [beq_iff_eq] at heq
    exact hother s.type (p.type_sectionRecords s hs) (heq ▸ hmem)
  rw [hnone]

/-! ## The file -/

/-- **The file of a program is read as the program's records.** -/
theorem parse?_of_stored (h : p.Stored data) : Object.parse? data = some p.object := by
  have hnames : stringTable? data p.sectionRecords p.header.nameTable = some (.ofNames p.sectionNames) :=
    stringTable?_of_hasAt (p.getElem?_sectionRecords 2) h.sectionNames p.names_fit.1
  have hdynamic : (p.kind.flags?.map fun _ => p.dynamicEntries).getD [] = p.dynamicEntries := by
    unfold Plan.dynamicEntries
    cases p.kind.flags? <;> rfl
  have htables : (p.kind.flags?.map fun _ => p.dynamicEntries).all
      (dynamicTablesFit data p.layout p.header.machine p.segments) = true := by
    cases p.kind.flags? with
    | none => rfl
    | some flags => exact p.dynamicTablesFit_dynamicEntries data
  simp only [Object.parse?, readHeader? h, readSegments? h, readSections? h, hnames, readSymbols? h, readDynamic? h,
    htables, p.relocationSectionsFit_sectionRecords data, p.versionTablesFit_sectionRecords data, guard_true, hdynamic,
    Option.bind_eq_bind, Option.bind_some, Option.pure_def, object]

end Program

end FipsAudit.Elf
