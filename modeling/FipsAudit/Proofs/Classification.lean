import FipsAudit.BuildInfo
import FipsAudit.Proofs.Inspection
import Mathlib.Data.List.Forall2

/-!
# `FipsAudit.Proofs.Classification` — the classification of any file

A file is classified by its first bytes and by the reader of object files. The reader of build records starts from the
same reader, so the two agree on every file, damaged ones included. What the classification says of a program's tables
is what the file's own tables say, record by record, and the symbols that count are a part of them.

* `Object.parse?_eq_none_of_no_magic` — the reader looks at the first bytes too.
* `Table`, `Object.Tabled` — where the records of a parsed file stand, for `Object.tabled_of_parse?`.
* `inspect_eq_notObject_iff`, `inspect_eq_malformed_iff` — what a file is that cannot be read.
* `Image.ownedSymbols_eq` — the symbols that count, by their numbers.
* `inspect_consistent` — all of it, for every file.
-/

namespace FipsAudit

open Elf BuildInfo

namespace Elf

/-! ## Tables of records -/

/-- The records are those of a table: as many as it counts, each with the meaning of the numbers at its place. -/
def Table {α : Type} (l : Layout) (widths : List Nat) (meaning? : List Nat → Option α) (data : ByteArray)
    (offset count : Nat) (records : List α) : Prop :=
  List.Forall₂
    (fun i record => ∃ fields,
      Bytes.record? l.order widths data (offset + i * Bytes.recordLength widths) = some fields ∧
        meaning? fields = some record)
    (List.range count) records

/-- Two passes that both go through give each result with what it was made from. -/
theorem forall₂_of_mapM_mapM {α β γ : Type} {f : α → Option β} {g : β → Option γ} {l : List α} {m : List β}
    {n : List γ} (hf : l.mapM f = some m) (hg : m.mapM g = some n) :
    List.Forall₂ (fun a c => ∃ b, f a = some b ∧ g b = some c) l n := by
  induction l generalizing m n with
  | nil =>
      rw [List.mapM_nil] at hf
      obtain rfl := Option.some.inj hf
      rw [List.mapM_nil] at hg
      obtain rfl := Option.some.inj hg
      exact .nil
  | cons a l ih =>
      simp only [List.mapM_cons, Option.bind_eq_bind, Option.bind_eq_some_iff] at hf
      obtain ⟨b, hb, m, hm, hmb⟩ := hf
      obtain rfl := Option.some.inj hmb
      simp only [List.mapM_cons, Option.bind_eq_bind, Option.bind_eq_some_iff] at hg
      obtain ⟨c, hc, n, hn, hnc⟩ := hg
      obtain rfl := Option.some.inj hnc
      exact .cons ⟨b, hb, hc⟩ (ih hm hn)

/-- **What is read is the table.** -/
theorem table_of_readAll? {α : Type} {l : Layout} {widths : List Nat} {meaning? : List Nat → Option α}
    {data : ByteArray} {offset count : Nat} {records : List α}
    (h : readAll? l widths meaning? data offset count = some records) :
    Table l widths meaning? data offset count records := by
  rw [readAll?, Option.bind_eq_bind, Option.bind_eq_some_iff] at h
  obtain ⟨rows, hrows, hrecords⟩ := h
  unfold Bytes.records? at hrows
  split at hrows
  next => exact forall₂_of_mapM_mapM hrows hrecords
  next => cases hrows

theorem Table.length_eq {α : Type} {l : Layout} {widths : List Nat} {meaning? : List Nat → Option α}
    {data : ByteArray} {offset count : Nat} {records : List α}
    (h : Table l widths meaning? data offset count records) : records.length = count := by
  have hlength := List.Forall₂.length_eq h
  rw [List.length_range] at hlength
  exact hlength.symm

/-- The first record of a table is the same, however many it has. -/
theorem Table.head?_eq {α : Type} {l : Layout} {widths : List Nat} {meaning? : List Nat → Option α}
    {data : ByteArray} {offset count count' : Nat} {records records' : List α}
    (h : Table l widths meaning? data offset (count + 1) records)
    (h' : Table l widths meaning? data offset (count' + 1) records') : records.head? = records'.head? := by
  unfold Table at h h'
  rw [List.range_succ_eq_map] at h h'
  cases h with
  | cons hfirst _ =>
      cases h' with
      | cons hfirst' _ =>
          obtain ⟨fields, hfields, hrecord⟩ := hfirst
          obtain ⟨fields', hfields', hrecord'⟩ := hfirst'
          rw [hfields] at hfields'
          obtain rfl := Option.some.inj hfields'
          rw [hrecord] at hrecord'
          exact hrecord'

/-! ## The tables of a file -/

/-- The number of sections that a file says it has: none without a table of them. The file header says how many there
    are, or the first section does in its place, and the first one is there in any case. -/
def Object.sectionCount (o : Object) : Nat :=
  if o.header.sectionOffset = 0 then 0
  else if o.header.sectionCount = 0 then max ((o.sections.head?.map (·.size)).getD 0) 1
  else o.header.sectionCount

/-- The parsed file holds the tables of the file: the sections, the names of sections, the entries of the last symbol
    table and the names of symbols. -/
structure Object.Tabled (data : ByteArray) (o : Object) : Prop where
  header : readHeader? data = some (o.layout, o.header)
  sections :
    Table o.layout (Section.widths o.layout.word) Section.ofFields? data o.header.sectionOffset o.sectionCount
      o.sections
  sectionNames : stringTable? data o.sections o.header.nameTable = some o.sectionNames
  /-- Without a symbol table there are no symbols. -/
  noSymbols : (∀ s ∈ o.sections, s.type ≠ Section.symbolTable) → o.symbols = []
  symbols : ∀ s, o.sections.reverse.find? (·.type == Section.symbolTable) = some s →
    Table o.layout (SymbolEntry.widths o.layout.word) (SymbolEntry.ofFields? o.layout.word) data s.offset
        (s.size / s.entrySize) o.symbols ∧
      stringTable? data o.sections s.link = some o.symbolNames

variable {data : ByteArray} {o : Object}

theorem Object.table_of_readSections? (h : readSections? data o.layout o.header = some o.sections) :
    Table o.layout (Section.widths o.layout.word) Section.ofFields? data o.header.sectionOffset o.sectionCount
      o.sections := by
  unfold readSections? at h
  by_cases hoffset : o.header.sectionOffset = 0
  · rw [if_pos hoffset] at h
    rw [← Option.some.inj h, sectionCount, if_pos hoffset]
    exact .nil
  · rw [if_neg hoffset, Option.bind_eq_bind, Option.bind_eq_some_iff] at h
    obtain ⟨first, hfirst, hall⟩ := h
    dsimp only at hall
    generalize hcounted : (if o.header.sectionCount = 0 then (first.head?.map (·.size)).getD 0
      else o.header.sectionCount) = count at hall
    split at hall
    next => cases hall
    next =>
      have hsections := table_of_readAll? hall
      -- The count may stand in the first section, which was read before the others.
      have hpos : max count 1 = max count 1 - 1 + 1 := by omega
      rw [hpos] at hsections
      have hhead := (table_of_readAll? hfirst).head?_eq hsections
      rw [hhead] at hcounted
      have hcount : o.sectionCount = max count 1 := by
        rw [sectionCount, if_neg hoffset, ← hcounted]
        by_cases hzero : o.header.sectionCount = 0
        · rw [if_pos hzero, if_pos hzero]
        · rw [if_neg hzero, if_neg hzero, Nat.max_eq_left (Nat.pos_of_ne_zero hzero)]
      rwa [← hpos, ← hcount] at hsections

theorem Object.symbols_of_readSymbols?
    (h : readSymbols? data o.layout o.sections = some (o.symbols, o.symbolNames)) :
    ((∀ s ∈ o.sections, s.type ≠ Section.symbolTable) → o.symbols = []) ∧
      ∀ s, o.sections.reverse.find? (·.type == Section.symbolTable) = some s →
        Table o.layout (SymbolEntry.widths o.layout.word) (SymbolEntry.ofFields? o.layout.word) data s.offset
            (s.size / s.entrySize) o.symbols ∧
          stringTable? data o.sections s.link = some o.symbolNames := by
  unfold readSymbols? at h
  cases hlast : o.sections.reverse.find? (·.type == Section.symbolTable) with
  | none =>
      rw [hlast] at h
      obtain ⟨hsymbols, -⟩ := Prod.mk.inj (Option.some.inj h)
      refine ⟨fun _ => hsymbols.symm, fun s hs => ?_⟩
      cases hs
  | some s =>
      rw [hlast] at h
      simp only [Option.bind_eq_bind, Option.bind_eq_some_iff] at h
      obtain ⟨-, -, symbols, hread, names, hnames, hpair⟩ := h
      obtain ⟨rfl, rfl⟩ := Prod.mk.inj (Option.some.inj hpair)
      refine ⟨fun hnone => ?_, fun s' hs' => ?_⟩
      · have htype := List.find?_some hlast
        exact absurd (beq_iff_eq.mp htype) (hnone s (List.mem_reverse.mp (List.mem_of_find?_eq_some hlast)))
      · obtain rfl := Option.some.inj hs'
        exact ⟨table_of_readAll? hread, hnames⟩

/-- **A file that is read has its tables where they were read**, and as many records in them. -/
theorem Object.tabled_of_parse? (h : Object.parse? data = some o) : o.Tabled data := by
  unfold Object.parse? at h
  simp only [Option.bind_eq_bind, Option.bind_eq_some_iff] at h
  obtain ⟨⟨layout, header⟩, hheader, segments, -, sections, hsections, sectionNames, hnames, ⟨symbols, symbolNames⟩,
    hsymbols, dynamic, -, -, -, -, -, -, -, hobject⟩ := h
  obtain rfl := Option.some.inj hobject
  obtain ⟨hnone, hsome⟩ := Object.symbols_of_readSymbols? (o := ⟨_, _, _, _, _, _, _, _⟩) hsymbols
  exact ⟨hheader, Object.table_of_readSections? (o := ⟨_, _, _, _, _, _, _, _⟩) hsections, hnames, hnone, hsome⟩

/-! ## The first bytes -/

/-- The first bytes are the magic text, by either way to look at them. -/
theorem toList_extract_eq_magic_iff : (data.extract 0 4).data.toList = magic ↔ magic <+: Bytes.toList data := by
  have hfront : (data.extract 0 4).data.toList = (Bytes.toList data).take 4 := by
    rw [ByteArray.data_extract, Array.toList_extract]
    rfl
  rw [hfront, List.prefix_iff_eq_take]
  exact eq_comm

/-- **A file without the magic text is not read.** -/
theorem Object.parse?_eq_none_of_no_magic (h : ¬magic <+: Bytes.toList data) : Object.parse? data = none := by
  refine Option.eq_none_iff_forall_ne_some.mpr fun o ho => h ?_
  have hheader := (Object.tabled_of_parse? ho).header
  simp only [readHeader?, Option.bind_eq_bind, Option.bind_eq_some_iff] at hheader
  obtain ⟨ident, hident, layout, hlayout, -⟩ := hheader
  obtain ⟨-, rfl⟩ := Bytes.slice?_eq_some_iff.mp hident
  unfold Layout.ofIdent? at hlayout
  split at hlayout
  next => cases hlayout
  next hmagic =>
    rw [List.drop_zero, List.take_take, not_not] at hmagic
    rw [← hmagic]
    exact List.take_prefix _ _

/-! ## Kinds -/

theorem Object.kind_image (o : Object) : o.image.kind = o.kind := by
  unfold Object.image
  split
  next => rfl
  next => rfl

/-- An object that is read is not malformed, whatever its type number. -/
theorem Object.kind_ne_malformed (o : Object) : o.kind ≠ .malformed := by
  unfold Object.kind
  intro h
  split at h
  · cases h
  · cases h
  · split at h
    · cases h
    · cases h
  · cases h
  · cases h

end Elf

theorem ObjectKind.isImage_iff {kind : ObjectKind} :
    kind.isImage = true ↔ kind = .executable ∨ kind = .pieExecutable := by
  cases kind <;> simp [isImage]

/-! ## The classification -/

variable {data : ByteArray}

theorem inspect_of_no_magic (h : ¬magic <+: Bytes.toList data) : ∃ kind, inspect data = .notObject kind := by
  unfold inspect
  dsimp only
  rw [if_pos (mt toList_extract_eq_magic_iff.mp h)]
  exact ⟨_, rfl⟩

theorem inspect_of_magic (h : magic <+: Bytes.toList data) :
    inspect data = match Object.parse? data with
      | none => .object (.bare .malformed)
      | some o => .object o.image := by
  unfold inspect
  dsimp only
  exact if_neg (not_not.mpr (toList_extract_eq_magic_iff.mpr h))

/-- **A file that is read is classified by what was read**: it has the magic text. -/
theorem inspect_of_parse? {o : Object} (h : Object.parse? data = some o) : inspect data = .object o.image := by
  have hmagic : magic <+: Bytes.toList data := by
    by_contra hno
    rw [Object.parse?_eq_none_of_no_magic hno] at h
    cases h
  rw [inspect_of_magic hmagic, h]

/-- Without the magic text a file is no object file, and with it, it is one. -/
theorem inspect_eq_notObject_iff : (∃ kind, inspect data = .notObject kind) ↔ ¬magic <+: Bytes.toList data := by
  refine ⟨?_, inspect_of_no_magic⟩
  rintro ⟨kind, hkind⟩ hmagic
  rw [inspect_of_magic hmagic] at hkind
  split at hkind
  · cases hkind
  · cases hkind

/-- A classified object was read from the file, or nothing was. -/
theorem inspect_eq_object {image : Image} (h : inspect data = .object image) :
    (magic <+: Bytes.toList data ∧ Object.parse? data = none ∧ image = .bare .malformed) ∨
      ∃ o, Object.parse? data = some o ∧ image = o.image := by
  by_cases hmagic : magic <+: Bytes.toList data
  · rw [inspect_of_magic hmagic] at h
    split at h
    next hnone => exact Or.inl ⟨hmagic, hnone, (Inspection.object.inj h).symm⟩
    next o ho => exact Or.inr ⟨o, ho, (Inspection.object.inj h).symm⟩
  · obtain ⟨kind, hkind⟩ := inspect_of_no_magic hmagic
    rw [hkind] at h
    cases h

/-- A file is malformed if it has the magic text and cannot be read. -/
theorem inspect_eq_malformed_iff :
    (∃ image, inspect data = .object image ∧ image.kind = .malformed) ↔
      magic <+: Bytes.toList data ∧ Object.parse? data = none := by
  constructor
  · rintro ⟨image, himage, hkind⟩
    rcases inspect_eq_object himage with ⟨hmagic, hnone, -⟩ | ⟨o, -, rfl⟩
    · exact ⟨hmagic, hnone⟩
    · rw [o.kind_image] at hkind
      exact absurd hkind o.kind_ne_malformed
  · rintro ⟨hmagic, hnone⟩
    rw [inspect_of_magic hmagic, hnone]
    exact ⟨_, rfl, rfl⟩

/-- The extractor starts from the same reader: what that does not read holds no record, and that is no fault. -/
theorem extract_of_parse?_eq_none (h : Object.parse? data = none) : (extract data).result = .ok none := by
  rw [extract, h]
  rfl

/-- Of other objects than programs nothing is read. -/
theorem image_of_not_isImage {image : Image} (h : inspect data = .object image) (hkind : image.kind.isImage = false) :
    image = .bare image.kind := by
  rcases inspect_eq_object h with ⟨-, -, rfl⟩ | ⟨o, -, rfl⟩
  · rfl
  · rw [o.kind_image] at hkind ⊢
    rw [Object.image, hkind]
    rfl

/-- Of a program the names of its sections are read, and its symbols but the first. -/
theorem image_of_isImage {image : Image} (h : inspect data = .object image) (hkind : image.kind.isImage = true) :
    ∃ o, Object.parse? data = some o ∧ image.sections = (o.sections.map o.sectionName).toArray ∧
      image.symbols = o.symbols.tail.map fun s => ⟨o.symbolName s, s.sectionIndex⟩ := by
  rcases inspect_eq_object h with ⟨-, -, rfl⟩ | ⟨o, ho, rfl⟩
  · cases hkind
  · rw [o.kind_image] at hkind
    refine ⟨o, ho, ?_, ?_⟩
    · rw [Object.image, if_pos hkind]
    · rw [Object.image, if_pos hkind]

/-! ## The symbols that count -/

/-- Whether a symbol's index names a section of a table with so many. -/
def Symbol.isOwned (sectionCount : Nat) (s : Symbol) : Bool :=
  0 < s.sectionIndex ∧ s.sectionIndex < min sectionCount reservedSection

/-- A symbol has an owner if its index is that of a section and has no meaning of its own. -/
theorem Image.owner?_eq (image : Image) (s : Symbol) :
    image.owner? s =
      if s.isOwned image.sections.size then some (image.sections.getD s.sectionIndex "") else none := by
  unfold owner? Symbol.isOwned undefinedSection
  by_cases hinside : s.sectionIndex < image.sections.size
  · by_cases hspecial : s.sectionIndex = 0 ∨ s.sectionIndex ≥ reservedSection
    · have hnot : ¬(0 < s.sectionIndex ∧ s.sectionIndex < min image.sections.size reservedSection) := by omega
      rw [if_pos hspecial, decide_eq_false hnot]
      rfl
    · have hyes : 0 < s.sectionIndex ∧ s.sectionIndex < min image.sections.size reservedSection := by omega
      rw [if_neg hspecial, decide_eq_true hyes, Array.getD_eq_getD_getElem?, Array.getElem?_eq_getElem hinside]
      rfl
  · have hnot : ¬(0 < s.sectionIndex ∧ s.sectionIndex < min image.sections.size reservedSection) := by omega
    rw [decide_eq_false hnot, Array.getElem?_eq_none (Nat.le_of_not_lt hinside)]
    split
    · rfl
    · rfl

/-- **The symbols that count** are those in order whose index names a section, each with that section's name. -/
theorem Image.ownedSymbols_eq (image : Image) :
    image.ownedSymbols =
      (image.symbols.filter (Symbol.isOwned image.sections.size)).map fun s =>
        (s, image.sections.getD s.sectionIndex "") := by
  unfold ownedSymbols
  induction image.symbols with
  | nil => rfl
  | cons s symbols ih =>
      rw [List.filterMap_cons, image.owner?_eq, ih]
      cases howned : s.isOwned image.sections.size with
      | false => rw [List.filter_cons_of_neg (by rw [howned]; exact Bool.false_ne_true)]; rfl
      | true => rw [List.filter_cons_of_pos howned]; rfl

/-! ## Every file -/

/-- **The classification of any file.** It is no object file exactly if the magic text is absent, and malformed exactly
if the text is there and the file is not read; these are the files that are not read, and for them the extractor finds
no record and no fault. Of an object that is no program image nothing is read. Of an image the sections' names are
those of the file's sections, in order, and the symbols are those of the last symbol table but the first of them;
without such a table there are none. And of any image those symbols count whose index is that of a section other than
the first and is not reserved, in order, each with the name at that index. -/
theorem inspect_consistent (data : ByteArray) :
    ((∃ kind, inspect data = .notObject kind) ↔ ¬magic <+: Bytes.toList data) ∧
    ((∃ image, inspect data = .object image ∧ image.kind = .malformed) ↔
      magic <+: Bytes.toList data ∧ Object.parse? data = none) ∧
    ((∃ kind, inspect data = .notObject kind) ∨ (∃ image, inspect data = .object image ∧ image.kind = .malformed) →
      (extract data).result = .ok none) ∧
    (∀ image, inspect data = .object image →
      (image.kind ≠ .executable ∧ image.kind ≠ .pieExecutable →
        image.sections = #[] ∧ image.symbols = [] ∧ image.staticallyLinked = false) ∧
      (image.kind = .executable ∨ image.kind = .pieExecutable →
        ∃ o, Object.parse? data = some o ∧ o.Tabled data ∧
          image.sections = (o.sections.map o.sectionName).toArray ∧
          image.symbols = o.symbols.tail.map fun s => ⟨o.symbolName s, s.sectionIndex⟩)) ∧
    ∀ image : Image, image.ownedSymbols =
      (image.symbols.filter fun s => 0 < s.sectionIndex ∧ s.sectionIndex < min image.sections.size 0xff00).map fun s =>
        (s, image.sections.getD s.sectionIndex "") := by
  refine ⟨inspect_eq_notObject_iff, inspect_eq_malformed_iff, ?_, ?_, Image.ownedSymbols_eq⟩
  · intro h
    apply extract_of_parse?_eq_none
    rcases h with hnot | hmalformed
    · exact Object.parse?_eq_none_of_no_magic (inspect_eq_notObject_iff.mp hnot)
    · exact (inspect_eq_malformed_iff.mp hmalformed).2
  · intro image himage
    constructor
    · intro hkind
      have hno : image.kind.isImage = false := by
        rw [← Bool.not_eq_true, ObjectKind.isImage_iff, not_or]
        exact hkind
      rw [image_of_not_isImage himage hno]
      exact ⟨rfl, rfl, rfl⟩
    · intro hkind
      obtain ⟨o, ho, htables⟩ := image_of_isImage himage (ObjectKind.isImage_iff.mpr hkind)
      exact ⟨o, ho, Object.tabled_of_parse? ho, htables⟩

/-- A script and a file cut off behind the magic text hold no record. The latter is malformed and has no tables. A
program has the tables that were written, and two of its symbols count: the index of the third is reserved. -/
theorem inspect_consistent_bigEndian :
    (extract (Bytes.ofList [0x23, 0x21, 0x2f])).result = .ok none ∧
    (extract (Bytes.ofList magic)).result = .ok none ∧
    inspect (Bytes.ofList magic) = .object ⟨.malformed, false, #[], []⟩ ∧
    ∃ image, inspect (Bytes.ofList (bigEndianProgram.bytes ++ [0x7f])) = .object image ∧
      image.sections = #["", ".text", ".bss", ".symtab", ".strtab", ".shstrtab"] ∧
      image.symbols = [⟨"main", 1⟩, ⟨"größe", 2⟩, ⟨"", 0xfff1⟩] ∧
      image.ownedSymbols = [(⟨"main", 1⟩, ".text"), (⟨"größe", 2⟩, ".bss")] := by
  obtain ⟨hscript, -, hscriptRecord, -⟩ := inspect_consistent (Bytes.ofList [0x23, 0x21, 0x2f])
  obtain ⟨-, hcut, hcutRecord, hcutImage, -⟩ := inspect_consistent (Bytes.ofList magic)
  obtain ⟨-, -, -, hprogram, howned⟩ := inspect_consistent (Bytes.ofList (bigEndianProgram.bytes ++ [0x7f]))
  -- The file is cut off in its identification.
  have hshort : Object.parse? (Bytes.ofList magic) = none := by
    have hident : Bytes.slice? (Bytes.ofList magic) 0 identSize = none := rfl
    rw [Object.parse?, readHeader?, hident]
    rfl
  obtain ⟨image, himage, hkind⟩ := hcut.mpr ⟨List.prefix_rfl, hshort⟩
  have hother : image.kind ≠ .executable ∧ image.kind ≠ .pieExecutable := by
    rw [hkind]
    constructor
    · intro h
      cases h
    · intro h
      cases h
  obtain ⟨hsections, hsymbols, hstatic⟩ := (hcutImage image himage).1 hother
  obtain ⟨kind, static, sections, symbols⟩ := image
  subst hkind hsections hsymbols hstatic
  -- The program is read as it was laid out.
  have hparse := Program.parse?_of_stored (bigEndianProgram.stored_bytes [0x7f])
  have hpie : bigEndianProgram.object.image.kind = .pieExecutable := by
    rw [Object.kind_image, Program.kind_object]
    rfl
  obtain ⟨o, ho, -, hnames, hnamed⟩ := (hprogram _ (inspect_of_parse? hparse)).2 (Or.inr hpie)
  rw [hparse] at ho
  obtain rfl := Option.some.inj ho
  rw [Program.map_sectionName] at hnames
  rw [Program.map_symbolName] at hnamed
  refine ⟨hscriptRecord (Or.inl (hscript.mpr (by decide))), hcutRecord (Or.inr ⟨_, himage, rfl⟩), himage,
    _, inspect_of_parse? hparse, hnames, hnamed, ?_⟩
  rw [howned, hnames, hnamed]
  rfl

end FipsAudit
