import FipsAudit.BuildInfo
import FipsAudit.Proofs.BuildInfo.Header
import FipsAudit.Proofs.BuildInfo.Uvarint
import FipsAudit.Proofs.Elf.Header
import Mathlib

/-!
# `FipsAudit.Proofs.BuildInfo.RegionLimit` — records that reach past the limit of the region

Only so much of a data region is looked at. A header that has room before the limit is found as in the whole region.
Its strings are taken from the same bytes, however, so they too have to end before the limit: a record that goes on
behind it is refused, though the file holds all of it. Strings behind pointers are read from the file and know no such
limit.

* `wholeRegion?`, `dataRegion?_eq_take` — the data region as it lies in the file, of which the reader has the front.
* `HeldRecord` — a region that holds a record with inline strings.
* `extract_held` — what becomes of the record, by where its strings end.
* `strings_not_only_searched` — a record that is found and lies in the file is refused.
-/

namespace FipsAudit.BuildInfo

open Elf Text

/-! ## Regions -/

/-- Where the data region is, and how many bytes it has: the section of that name, else the first data segment. -/
def regionExtent? (o : Object) : Option (Nat × Nat) :=
  match o.sections.find? fun s => s.type != Section.noBits && o.sectionName s == recordSection with
  | some s => some (s.offset, s.size)
  | none => (o.segments.find? isDataSegment).map fun s => (s.offset, s.fileSize)

/-- The bytes of a region as far as they lie in the file. -/
def bytesFrom? (data : ByteArray) (offset size : Nat) : Option (List UInt8) :=
  if offset ≤ data.size then some (((Bytes.toList data).drop offset).take size) else none

/-- **The data region** as far as it lies in the file. -/
def wholeRegion? (o : Object) (data : ByteArray) : Option (List UInt8) :=
  (regionExtent? o).bind fun (offset, size) => bytesFrom? data offset size

theorem window?_eq_take (data : ByteArray) (offset size : Nat) :
    window? data offset size = (bytesFrom? data offset size).map (·.take regionLimit) := by
  unfold window? bytesFrom?
  dsimp only
  by_cases hoffset : offset ≤ data.size
  · rw [if_pos (by omega), if_pos hoffset, Option.map_some, List.take_take, Bytes.slice?_eq_some_iff]
    refine ⟨by omega, ?_⟩
    -- Both lists end at the limit, at the end of the region or at the end of the file, whichever comes first.
    refine List.take_eq_take_iff.mpr ?_
    rw [List.length_drop, Bytes.length_toList]
    omega
  · rw [if_neg (by omega), if_neg hoffset, Option.map_none]

/-- **The reader has the front of the data region.** -/
theorem dataRegion?_eq_take (o : Object) (data : ByteArray) :
    dataRegion? o data = (wholeRegion? o data).map (·.take regionLimit) := by
  unfold dataRegion? wholeRegion? regionExtent?
  cases o.sections.find? fun s => s.type != Section.noBits && o.sectionName s == recordSection with
  | some s => exact window?_eq_take data _ _
  | none =>
      cases o.segments.find? isDataSegment with
      | none => rfl
      | some s => exact window?_eq_take data _ _

/-! ## Records -/

/-- A region that holds a record whose strings follow its header. -/
structure HeldRecord where
  /-- What stands before the header. -/
  before : List UInt8
  header : List UInt8
  /-- The toolchain's name and the module text, which are to be read. -/
  strings : Record
  /-- The same strings after their lengths. -/
  versionBytes : List UInt8
  textBytes : List UInt8
  /-- What follows the record. -/
  after : List UInt8
  aligned : headerAlign ∣ before.length
  magic : headerMagic <+: header
  length_header : header.length = headerSize
  /-- The flags say that the strings follow. -/
  isInline_flags : isInline (header.getD 15 0).toNat = true
  prefixed_version : Uvarint.Prefixed strings.version versionBytes
  prefixed_text : Uvarint.Prefixed strings.moduleText textBytes
  /-- No magic text stands at a multiple of the alignment before this header. -/
  first : ∀ p < before.length, headerAlign ∣ p →
    ¬headerMagic <+: (before ++ (header ++ (versionBytes ++ (textBytes ++ after)))).drop p

namespace HeldRecord

variable (r : HeldRecord)

/-- The strings and what follows them. -/
def body : List UInt8 := r.versionBytes ++ (r.textBytes ++ r.after)

def region : List UInt8 := r.before ++ (r.header ++ r.body)

/-- Where the header begins. -/
def start : Nat := r.before.length

/-- Where the toolchain's name ends. -/
def versionEnd : Nat := r.start + headerSize + r.versionBytes.length

/-- Where the record ends. -/
def textEnd : Nat := r.versionEnd + r.textBytes.length

theorem length_region : r.region.length = r.textEnd + r.after.length := by
  simp only [region, body, textEnd, versionEnd, start, List.length_append, r.length_header]
  omega

theorem findHeader_region : findHeader r.region = some r.start := by
  refine findHeader_eq_some_iff.mpr ⟨⟨r.aligned, ?_, ?_⟩, fun p hp hat => r.first p hp hat.aligned hat.magic⟩
  · rw [region, start, List.drop_left]
    exact r.magic.trans (List.prefix_append _ _)
  · rw [region, start, List.length_append, List.length_append, r.length_header]
    omega

/-- What the reader has of the strings when it has the front of the region. -/
theorem drop_take_region (limit : Nat) :
    ((r.region.take limit).drop r.start).drop headerSize = r.body.take (limit - r.start - headerSize) := by
  rw [List.drop_take, List.drop_take, region, start, List.drop_left, List.drop_left' r.length_header]

theorem flags_take_region {limit : Nat} (hlimit : r.start + headerSize ≤ limit) :
    (((r.region.take limit).drop r.start).getD 15 0) = r.header.getD 15 0 := by
  have hindex : 15 < r.header.length := by
    rw [r.length_header]
    decide
  have hinside : 15 < limit - r.before.length := by
    unfold start headerSize at hlimit
    omega
  rw [List.drop_take, region, start, List.drop_left, List.getD_eq_getElem?_getD, List.getElem?_take_of_lt hinside,
    List.getElem?_append_left hindex, ← List.getD_eq_getElem?_getD]

/-- Each string is taken if it ends before the limit, and the first one that does not is what is missed. -/
theorem ofBlob_take_region (segments : List Segment) (data : ByteArray) {limit : Nat}
    (hlimit : r.start + headerSize ≤ limit) :
    Record.ofBlob segments data ((r.region.take limit).drop r.start) =
      if r.textEnd ≤ limit then .ok r.strings
      else .error (if r.versionEnd ≤ limit then .truncatedModuleText else .truncatedVersion) := by
  rw [Record.ofBlob, r.flags_take_region hlimit, if_pos r.isInline_flags, Record.ofInline, r.drop_take_region, body,
    Uvarint.takeString_take r.prefixed_version]
  by_cases hversion : r.versionEnd ≤ limit
  · have hfits : r.versionBytes.length ≤ limit - r.start - headerSize := by
      unfold versionEnd at hversion
      omega
    simp only [if_pos hfits, if_pos hversion, Uvarint.takeString_take r.prefixed_text]
    by_cases htext : r.textEnd ≤ limit
    · rw [if_pos htext, if_pos (by unfold textEnd versionEnd at htext; omega)]
    · rw [if_neg htext, if_neg (by unfold textEnd versionEnd at htext; omega)]
  · have hcut : ¬r.versionBytes.length ≤ limit - r.start - headerSize := by
      unfold versionEnd at hversion
      omega
    have htext : ¬r.textEnd ≤ limit := by
      unfold textEnd
      omega
    simp only [if_neg hcut, if_neg hversion, if_neg htext]

end HeldRecord

/-! ## Files -/

section Files

variable {data : ByteArray} {o : Object}

/-- What is found in the file is what the record in the front of its data region says. -/
theorem HeldRecord.extract_eq (r : HeldRecord) (hobject : Object.parse? data = some o)
    (hregion : wholeRegion? o data = some r.region) (hroom : r.start + headerSize ≤ regionLimit) :
    extract data =
      match Record.ofBlob o.segments data ((r.region.take regionLimit).drop r.start) with
      | .error e => .malformed e
      | .ok strings => strings.read := by
  have hfront : dataRegion? o data = some (r.region.take regionLimit) := by
    rw [dataRegion?_eq_take, hregion, Option.map_some]
  have hfound : findHeader (r.region.take regionLimit) = some r.start := findHeader_take r.findHeader_region hroom
  cases hblob : Record.ofBlob o.segments data ((r.region.take regionLimit).drop r.start) with
  | error e => simp only [extract, hobject, hfront, extractFromRegion, hfound, hblob]
  | ok strings => simp only [extract, hobject, hfront, extractFromRegion, hfound, hblob]

/-- **What becomes of a record with inline strings**, wherever it ends in the data region of the file. If its header
    has room before the limit, it is found. Its strings are read if the record ends before the limit too; if not, the
    record is refused for the first string that does not, though the region holds both. -/
theorem extract_held (r : HeldRecord) (hobject : Object.parse? data = some o)
    (hregion : wholeRegion? o data = some r.region) (hroom : r.start + headerSize ≤ regionLimit) :
    extract data =
      if r.textEnd ≤ regionLimit then r.strings.read
      else .malformed (if r.versionEnd ≤ regionLimit then .truncatedModuleText else .truncatedVersion) := by
  rw [r.extract_eq hobject hregion hroom, r.ofBlob_take_region o.segments data hroom]
  by_cases hend : r.textEnd ≤ regionLimit
  · simp only [if_pos hend]
  · simp only [if_neg hend]

end Files

/-! ## Records of any length -/

def eightByteWords : Layout := ⟨.eight, .little⟩

def contentHeader : FileHeader := ⟨2, 62, 64, 0, 1, 0, 0⟩

/-- The one segment of the program: it can be written, and its bytes follow the segment table. -/
def contentSegment (size : Nat) : Segment := ⟨Segment.load, 6, 120, 0x400078, size, size⟩

/-- A program that consists of one data segment. -/
def contentProgram (content : List UInt8) : ByteArray :=
  Bytes.ofList (eightByteWords.ident ++
    (eightByteWords.order.record (FileHeader.widths .eight) (contentHeader.row .eight 0x400078) ++
      (eightByteWords.order.table (Segment.widths .eight)
        ([contentSegment content.length].map (Segment.row .eight)) ++ content)))

section Content

variable {content : List UInt8}

def contentObject (size : Nat) : Object where
  layout := eightByteWords
  header := contentHeader
  segments := [contentSegment size]
  sections := []
  sectionNames := .empty
  symbols := []
  symbolNames := .empty
  dynamic := []

theorem fits_contentHeader : Fits (FileHeader.widths .eight) (contentHeader.row .eight 0x400078) :=
  FileHeader.fits_row (by decide) (by decide)

theorem fits_contentSegment {size : Nat} (h : size < 256 ^ 8) :
    Fits (Segment.widths .eight) ((contentSegment size).row .eight) :=
  Segment.fits_row (by decide) ⟨by decide, by decide, h, h⟩

/-- What stands where in the program. -/
theorem hasAt_contentProgram (h : content.length < 256 ^ 8) :
    Bytes.HasAt (contentProgram content) 0 eightByteWords.ident ∧
      Bytes.HasAt (contentProgram content) identSize
        (eightByteWords.order.record (FileHeader.widths .eight) (contentHeader.row .eight 0x400078)) ∧
      Bytes.HasAt (contentProgram content) 64 (eightByteWords.order.table (Segment.widths .eight)
        ([contentSegment content.length].map (Segment.row .eight))) ∧
      Bytes.HasAt (contentProgram content) 120 content := by
  have hfile : Bytes.HasAt (contentProgram content) 0 (Bytes.toList (contentProgram content)) :=
    ⟨[], [], by simp, rfl⟩
  rw [contentProgram, Bytes.toList_ofList, ← contentProgram] at hfile
  obtain ⟨hident, hrest⟩ := hfile.append
  obtain ⟨hheader, hrest⟩ := hrest.append
  obtain ⟨hsegments, hcontent⟩ := hrest.append
  have hsegment : ∀ s ∈ [contentSegment content.length], Fits (Segment.widths .eight) (s.row .eight) :=
    List.forall_mem_singleton.mpr (fits_contentSegment h)
  rw [ByteOrder.length_record _ fits_contentHeader] at hsegments hcontent
  rw [length_table_map hsegment] at hcontent
  exact ⟨hident, hheader, hsegments, hcontent⟩

/-- The program is read as its one segment. -/
theorem parse?_contentProgram (h : content.length < 256 ^ 8) :
    Object.parse? (contentProgram content) = some (contentObject content.length) := by
  obtain ⟨hident, hheader, hsegments, -⟩ := hasAt_contentProgram h
  have hsegment : ∀ s ∈ [contentSegment content.length], Fits (Segment.widths .eight) (s.row .eight) :=
    List.forall_mem_singleton.mpr (fits_contentSegment h)
  have hslice : Bytes.slice? (contentProgram content) 0 identSize = some eightByteWords.ident := hident.slice?
  have hread : readHeader? (contentProgram content) = some (eightByteWords, contentHeader) := by
    simp only [readHeader?, hslice, Layout.ofIdent?_ident, show eightByteWords.word = .eight from rfl,
      hheader.record? fits_contentHeader, FileHeader.ofFields?_row, Option.bind_eq_bind, Option.bind_some,
      Option.pure_def]
  have hcount : ¬contentHeader.segmentCount > (contentProgram content).size / Segment.size eightByteWords.word :=
    not_length_gt hsegments hsegment (by decide)
  have htable : readSegments? (contentProgram content) eightByteWords contentHeader =
      some [contentSegment content.length] := by
    rw [readSegments?, if_neg hcount]
    exact readAll?_of_hasAt hsegments hsegment (Segment.ofFields?_row .eight)
  simp only [Object.parse?, hread, htable, Option.bind_eq_bind, Option.bind_some]
  rfl

/-- Its data region is all that it holds. -/
theorem wholeRegion?_contentProgram (h : content.length < 256 ^ 8) :
    wholeRegion? (contentObject content.length) (contentProgram content) = some content := by
  obtain ⟨-, -, -, hcontent⟩ := hasAt_contentProgram h
  have hle := hcontent.le_size
  obtain ⟨-, htake⟩ := Bytes.slice?_eq_some_iff.mp hcontent.slice?
  have hdata : isDataSegment (contentSegment content.length) = true := by simp [isDataSegment, contentSegment]
  have hextent : regionExtent? (contentObject content.length) = some (120, content.length) := by
    simp only [regionExtent?, contentObject, List.find?_nil, List.find?_cons_of_pos hdata, Option.map_some]
    rfl
  rw [wholeRegion?, hextent, Option.bind_some]
  show bytesFrom? (contentProgram content) 120 content.length = _
  rw [bytesFrom?, if_pos (by omega), ← htake]

end Content

/-- A module text of so many empty lines behind two that say something. -/
def spacedText (lines : Nat) : List UInt8 :=
  List.replicate 16 0x30 ++ Utf8.encode "path\tcmd/app\nbuild\tCGO_ENABLED=1\n" ++ List.replicate lines 10 ++
    List.replicate 16 0xF9

theorem length_spacedText (lines : Nat) : (spacedText lines).length = lines + 65 := by
  have hsaid : (Utf8.encode "path\tcmd/app\nbuild\tCGO_ENABLED=1\n").length = 33 := by decide
  simp only [spacedText, List.length_append, List.length_replicate, hsaid]
  omega

/-- A record at the start of the region, with that text. -/
def spacedRecord (lines : Fin (2 ^ 32)) : HeldRecord where
  before := []
  header := headerMagic ++ [8, 2] ++ List.replicate 16 0
  strings := ⟨Utf8.encode "go1.23.4", spacedText lines⟩
  versionBytes := 8 :: Utf8.encode "go1.23.4"
  textBytes := Uvarint.writeString (spacedText lines)
  after := []
  aligned := by decide
  magic := ⟨[8, 2] ++ List.replicate 16 0, rfl⟩
  length_header := by decide
  isInline_flags := by decide
  prefixed_version := ⟨[8], rfl, .last (by decide), by decide, Nat.le_of_ble_eq_true rfl⟩
  prefixed_text := Uvarint.prefixed_writeString (by
    have hlines := lines.isLt
    rw [length_spacedText]
    omega)
  first := fun p hp => absurd hp (Nat.not_lt_zero p)

/-- The file of a program with that record. -/
def spacedProgram (lines : Fin (2 ^ 32)) : ByteArray := contentProgram (spacedRecord lines).region

def spacedObject (lines : Fin (2 ^ 32)) : Object := contentObject (spacedRecord lines).region.length

section Spaced

variable (lines : Fin (2 ^ 32))

theorem versionEnd_spacedRecord : (spacedRecord lines).versionEnd = 41 := rfl

/-- The record ends behind its empty lines, and not far behind. -/
theorem textEnd_spacedRecord : lines < (spacedRecord lines).textEnd ∧ (spacedRecord lines).textEnd ≤ lines + 116 := by
  have hlines := lines.isLt
  have hnumber : (Uvarint.write (lines + 65)).length ≤ 10 := Uvarint.length_write_le (k := 9) (by omega)
  have htext : (spacedRecord lines).textBytes.length = (Uvarint.write (lines + 65)).length + (lines + 65) := by
    show (Uvarint.writeString (spacedText lines)).length = _
    rw [Uvarint.writeString, List.length_append, length_spacedText]
  rw [HeldRecord.textEnd, versionEnd_spacedRecord, htext]
  omega

theorem length_region_spacedRecord : (spacedRecord lines).region.length < 256 ^ 8 := by
  have hlines := lines.isLt
  obtain ⟨-, hend⟩ := textEnd_spacedRecord lines
  have hlength : (spacedRecord lines).region.length = (spacedRecord lines).textEnd := HeldRecord.length_region _
  omega

theorem parse?_spacedProgram : Object.parse? (spacedProgram lines) = some (spacedObject lines) :=
  parse?_contentProgram (length_region_spacedRecord lines)

theorem wholeRegion?_spacedProgram :
    wholeRegion? (spacedObject lines) (spacedProgram lines) = some (spacedRecord lines).region :=
  wholeRegion?_contentProgram (length_region_spacedRecord lines)

theorem start_spacedRecord_le : (spacedRecord lines).start + headerSize ≤ regionLimit := Nat.le_of_ble_eq_true rfl

end Spaced

/-- Without empty lines the record ends before the limit, and the program is what its module text says. -/
theorem extract_held_short :
    Object.parse? (spacedProgram 0) = some (spacedObject 0) ∧
      wholeRegion? (spacedObject 0) (spacedProgram 0) = some (spacedRecord 0).region ∧
      (spacedRecord 0).start + headerSize ≤ regionLimit ∧
      ∃ m, extract (spacedProgram 0) = .found m ∧ m.runtimeVersion = "go1.23.4" ∧ m.path = some "cmd/app" ∧
        m.setting? "CGO_ENABLED" = some "1" := by
  have hobject := parse?_spacedProgram 0
  have hregion := wholeRegion?_spacedProgram 0
  have hroom := start_spacedRecord_le 0
  have hend : (spacedRecord 0).textEnd ≤ regionLimit := Nat.le_trans (textEnd_spacedRecord 0).2 (by decide)
  let m : BuildMetadata :=
    { runtimeVersion := "go1.23.4", path := some "cmd/app", settings := ({} : Settings).insert "CGO_ENABLED" "1" }
  have hread : (spacedRecord 0).strings.read = .found m := by cbv
  have hsetting : m.setting? "CGO_ENABLED" = some "1" := Std.ExtTreeMap.getElem?_insert_self
  refine ⟨hobject, hregion, hroom, m, ?_, rfl, rfl, hsetting⟩
  rw [extract_held (spacedRecord 0) hobject hregion hroom, if_pos hend, hread]

/-- What two strings say is never that one of them was cut off. -/
theorem Record.read_ne_truncated (r : Record) : r.read ≠ .malformed .truncatedModuleText := by
  unfold Record.read
  split
  · nofun
  · split <;> nofun

/-- **The limit does not only end the search**: with enough empty lines the same record is refused, though its header
    is at the very start of the data region and the region holds both strings. -/
theorem strings_not_only_searched :
    ¬∀ (data : ByteArray) (o : Object) (r : HeldRecord), Object.parse? data = some o →
      wholeRegion? o data = some r.region → r.start + headerSize ≤ regionLimit → extract data = r.strings.read := by
  intro heach
  have hobject := parse?_spacedProgram 65536
  have hregion := wholeRegion?_spacedProgram 65536
  have hroom := start_spacedRecord_le 65536
  have htext : ¬(spacedRecord 65536).textEnd ≤ regionLimit := Nat.not_le_of_lt (textEnd_spacedRecord 65536).1
  have hversion : (spacedRecord 65536).versionEnd ≤ regionLimit := by
    rw [versionEnd_spacedRecord]
    decide
  have hread := heach _ _ _ hobject hregion hroom
  rw [HeldRecord.extract_eq _ hobject hregion hroom, HeldRecord.ofBlob_take_region _ _ _ hroom, if_neg htext,
    if_pos hversion] at hread
  exact Record.read_ne_truncated _ hread.symm

end FipsAudit.BuildInfo
