import FipsAudit.Proofs.BuildInfo.Checked.ModuleText
import FipsAudit.Proofs.BuildInfo.Checked.Record
import Mathlib

/-!
# `FipsAudit.Proofs.BuildInfo.Checked.Extraction` — no file stops the extraction

The parts come together here: with operations that have a range, the extraction of a build record comes to the same as
without. So none of its operations is ever outside its range. Of the parsed object nothing is taken for granted but that
its numbers are words; they may be any, whether or not a file with such headers would be parsed. Of the file and of a
module text, only that they are in memory.

* `extractFrom` — the extraction, for whatever the file was parsed to.
* `Checked.extract` — the same with operations that have a range.
* `extract_inRange` — it is never stopped, and neither is the reading of a module text.
-/

namespace FipsAudit.BuildInfo

open Text Elf

/-- The build record of a file that was parsed to an object, or not at all. -/
def extractFrom (parsed : Option Object) (data : ByteArray) : Extraction :=
  match parsed with
  | none => .unreadable
  | some o =>
    match dataRegion? o data with
    | none => .absent .noRegion
    | some region => extractFromRegion o.segments data region

namespace Checked

variable {segments : List Segment} {data : ByteArray}

/-! ## The strings -/

/-- The module text without its marks; a text without a closing line break before the second mark is none. -/
def stripSentinels (text : List UInt8) : Guarded (List UInt8) := do
  if text.length > (← mul 64 2 sentinelLength) then
    let closing ← byteAt text (← sub (← sub text.length sentinelLength) 1)
    if closing = 10 then sliceBetween text sentinelLength (← sub text.length sentinelLength) else return []
  else return []

theorem stripSentinels_eq (text : List UInt8) : stripSentinels text = .ok (BuildInfo.stripSentinels text) := by
  rw [stripSentinels, BuildInfo.stripSentinels, mul_of_lt (by decide), ok_bind]
  unfold sentinelLength
  by_cases hlong : text.length > 2 * 16
  · have hindex : text.length - 16 - 1 < text.length := by omega
    have hclosing : text[text.length - 16 - 1]? = some (text.getD (text.length - 16 - 1) 0) := by
      rw [List.getD_eq_getElem?_getD, List.getElem?_eq_getElem hindex]
      rfl
    have hinner : text.length - 16 - 16 = text.length - 2 * 16 := by omega
    rw [if_pos hlong, sub_of_le (by omega), ok_bind, sub_of_le (by omega), ok_bind, byteAt_of_lt hindex, ok_bind,
      hclosing]
    by_cases hbreak : text.getD (text.length - 16 - 1) 0 = 10
    · rw [if_pos hbreak, if_pos ⟨hlong, congrArg some hbreak⟩, ok_bind, sliceBetween_of_le (by omega) (by omega),
        hinner]
    · rw [if_neg hbreak, if_neg fun h => hbreak (Option.some.inj h.2)]
      rfl
  · rw [if_neg hlong, if_neg fun h => hlong h.1]
    rfl

/-- The module text without its marks is not longer. -/
theorem length_stripSentinels_le (text : List UInt8) : (BuildInfo.stripSentinels text).length ≤ text.length := by
  unfold BuildInfo.stripSentinels
  split
  · rw [List.length_take, List.length_drop]
    omega
  · exact Nat.zero_le _

/-- What a record's strings say. -/
def read (r : Record) : Guarded Extraction := do
  if r.version.isEmpty then return .absent .emptyVersion
  else
    let text := Utf8.decodeLossy (← stripSentinels r.moduleText)
    match ← parseModuleText (Utf8.decodeLossy r.version) text with
    | .error e => return .malformed (.setting e)
    | .ok m => return .found m

/-- **A record that keeps to the limits is read in range.** -/
theorem read_eq {r : Record} (h : r.moduleText.length ≤ maxPointedLength) : read r = .ok r.read := by
  have hsize : Utf8.size (Utf8.decodeLossy (BuildInfo.stripSentinels r.moduleText)).toList < memoryLimit := by
    have hdecoded := Utf8.size_decodeLossyChars_le (BuildInfo.stripSentinels r.moduleText)
    have hstripped := length_stripSentinels_le r.moduleText
    rw [Utf8.decodeLossy, String.toList_ofList]
    unfold maxPointedLength at h
    unfold memoryLimit
    omega
  rw [read, Record.read]
  split
  · rfl
  · rw [stripSentinels_eq, ok_bind]
    dsimp only
    rw [parseModuleText_eq _ hsize, ok_bind]
    generalize BuildInfo.parseModuleText _ _ = parsed
    cases parsed <;> rfl

/-! ## The file -/

/-- What a region says; pointers lead back into the file. -/
def extractFromRegion (segments : List Segment) (data : ByteArray) (region : List UInt8) : Guarded Extraction := do
  match ← searchHeader region 0 with
  | none => return .absent .noHeader
  | some start =>
    match ← ofBlob segments data (← sliceFrom region start) with
    | .error e => return .malformed e
    | .ok r => read r

/-- **A region is read in range**: a header that is found is whole. -/
theorem extractFromRegion_eq {region : List UInt8} (hsegments : ∀ s ∈ segments, FitsWords s)
    (hdata : data.size < memoryLimit) (hregion : region.length ≤ regionLimit) :
    extractFromRegion segments data region = .ok (BuildInfo.extractFromRegion segments data region) := by
  have hshort : region.length < memoryLimit := Nat.lt_of_le_of_lt hregion (by decide)
  rw [extractFromRegion, BuildInfo.extractFromRegion, searchHeader_eq hshort, ok_bind]
  cases hfound : findHeader region with
  | none => rfl
  | some start =>
      have hroom := (findHeader_eq_some_iff.mp hfound).1.room
      have hblob : headerSize ≤ (region.drop start).length := by
        rw [List.length_drop]
        omega
      dsimp only
      rw [sliceFrom_of_le (by omega), ok_bind, ofBlob_eq hsegments hdata hblob, ok_bind]
      cases hrecord : Record.ofBlob segments data (region.drop start) with
      | error e => rfl
      | ok r =>
          refine read_eq (length_moduleText_le ?_ hrecord)
          rw [List.length_drop]
          omega

/-- The region that may hold the record: the section of that name, else the first data segment. -/
def dataRegion? (o : Object) (data : ByteArray) : Option (List UInt8) :=
  match o.sections.find? fun s => s.type != Section.noBits && o.sectionName s == recordSection with
  | some s => window? data s.offset s.size
  | none =>
    match o.segments.find? isDataSegment with
    | some s => window? data s.offset s.fileSize
    | none => none

theorem dataRegion?_eq (hdata : data.size < memoryLimit) (o : Object) :
    dataRegion? o data = BuildInfo.dataRegion? o data := by
  simp only [dataRegion?, window?_eq hdata]
  rfl

/-- A region is no longer than the limit. -/
theorem length_dataRegion?_le {o : Object} {region : List UInt8} (h : BuildInfo.dataRegion? o data = some region) :
    region.length ≤ regionLimit := by
  unfold BuildInfo.dataRegion? at h
  split at h
  · exact length_window?_le h
  · split at h
    · exact length_window?_le h
    · cases h

/-- The build record of a file that was parsed to an object, or not at all. -/
def extract (parsed : Option Object) (data : ByteArray) : Guarded Extraction :=
  match parsed with
  | none => return .unreadable
  | some o =>
    match dataRegion? o data with
    | none => return .absent .noRegion
    | some region => extractFromRegion o.segments data region

/-- **The extraction is in range, whatever the file was parsed to.** -/
theorem extract_eq {parsed : Option Object} (hsegments : ∀ o ∈ parsed, ∀ s ∈ o.segments, FitsWords s)
    (hdata : data.size < memoryLimit) : extract parsed data = .ok (extractFrom parsed data) := by
  cases parsed with
  | none => rfl
  | some o =>
      rw [extract, extractFrom, dataRegion?_eq hdata]
      cases hregion : BuildInfo.dataRegion? o data with
      | none => rfl
      | some region => exact extractFromRegion_eq (hsegments o rfl) hdata (length_dataRegion?_le hregion)

end Checked

/-! ## All files and all texts -/

/-- **No file and no module text stops the extraction.** Every index, slice, sum, difference, product and shift is in
    range, whatever the numbers in the headers of the file; the result is that of the extraction without limits, a
    record, the reason why there is none, or a fault. -/
theorem extract_inRange :
    (∀ (parsed : Option Object) (data : ByteArray), (∀ o ∈ parsed, ∀ s ∈ o.segments, FitsWords s) →
      data.size < Checked.memoryLimit → Checked.extract parsed data = .ok (extractFrom parsed data)) ∧
    (∀ data : ByteArray, data.size < Checked.memoryLimit →
      Checked.extract (Object.parse? data) data = .ok (extract data)) ∧
    ∀ runtimeVersion text : String, Utf8.size text.toList < Checked.memoryLimit →
      Checked.parseModuleText runtimeVersion text = .ok (parseModuleText runtimeVersion text) := by
  refine ⟨fun parsed data hsegments hdata => Checked.extract_eq hsegments hdata, fun data hdata => ?_,
    fun runtimeVersion text hsize => Checked.parseModuleText_eq runtimeVersion hsize⟩
  have hextract : extract data = extractFrom (Object.parse? data) data := rfl
  rw [hextract]
  exact Checked.extract_eq (fun o ho => fitsWords_of_parse? ho) hdata

/-- A header with pointers of eight bytes, the first of which is the last word. -/
def lastWordHeader : List UInt8 := headerMagic ++ [8, 0] ++ List.replicate 8 0xff ++ List.replicate 8 1

/-- An object that no file is parsed to: its segment holds all of memory but for the first byte. -/
def boundlessObject : Object where
  layout := ⟨.eight, .little⟩
  header := ⟨2, 62, 64, 0, 1, 0, 0⟩
  segments := [⟨Segment.load, 6, 0, 1, 2 ^ 64 - 1, 2 ^ 64 - 1⟩]
  sections := []
  sectionNames := .empty
  symbols := []
  symbolNames := .empty
  dynamic := []

/-- A build line whose key is closed after an escape of eight digits, which is no character. -/
def boundlessLine : String := "build\t\"\\Uffffffff\"="

/-- The pointer leads to the last byte of the segment, and the string header there would go on past its end. The number
    of the escape is the last word of thirty-two bits. -/
theorem extract_inRange_boundless :
    (∀ o ∈ some boundlessObject, ∀ s ∈ o.segments, FitsWords s) ∧
      (Bytes.ofList lastWordHeader).size < Checked.memoryLimit ∧
      Checked.extract (some boundlessObject) (Bytes.ofList lastWordHeader) =
        .ok (.malformed (.unreadableVersion (2 ^ 64 - 1))) ∧
      Checked.extract (Object.parse? (Bytes.ofList lastWordHeader)) (Bytes.ofList lastWordHeader) = .ok .unreadable ∧
      Utf8.size boundlessLine.toList < Checked.memoryLimit ∧
      Checked.parseModuleText "go1.22" boundlessLine = .ok (.error .badQuotedKey) := by
  have hfits : ∀ o ∈ some boundlessObject, ∀ s ∈ o.segments, FitsWords s := by
    intro o ho s hs
    obtain rfl := Option.mem_some.mp ho
    obtain rfl := List.mem_singleton.mp hs
    exact ⟨by decide, by decide, by decide⟩
  have hsize : (Bytes.ofList lastWordHeader).size < Checked.memoryLimit := by decide
  have hline : Utf8.size boundlessLine.toList < Checked.memoryLimit := by decide
  obtain ⟨hparsed, hfile, htext⟩ := extract_inRange
  refine ⟨hfits, hsize, (hparsed _ _ hfits hsize).trans (congrArg _ ?_), (hfile _ hsize).trans (congrArg _ ?_), hline,
    (htext _ _ hline).trans (congrArg _ ?_)⟩
  · cbv
  · cbv
  · cbv

end FipsAudit.BuildInfo
