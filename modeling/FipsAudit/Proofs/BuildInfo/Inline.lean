import FipsAudit.BuildInfo
import FipsAudit.Proofs.BuildInfo.Header
import FipsAudit.Proofs.BuildInfo.Uvarint
import FipsAudit.Proofs.Text.Utf8

/-!
# `FipsAudit.Proofs.BuildInfo.Inline` — records with inline strings are read back

A linker writes a record as a header, the toolchain's name and the module text between two marks, each string after
its length. The record stands somewhere in a region, behind bytes that may hold copies of the magic text and before
bytes of any kind. Reading finds the record, takes both strings out of it and says about them what the parser of
module texts says.

* `InlineRecord`, `InlineRecord.bytes` — what a linker writes, and how.
* `stripSentinels_framed` — the marks come off, around empty texts too.
* `ofBlob_bytes` — both strings come out of the record, whatever follows it.
* `extractFromRegion_inline` — the whole way, from the region to the metadata.
-/

namespace FipsAudit.BuildInfo

open Text Elf

/-! ## What is written -/

/-- A record whose strings follow its header. -/
structure InlineRecord where
  /-- The size of pointers, which nothing points with. -/
  pointerSize : UInt8
  flags : UInt8
  /-- They say that the strings follow. -/
  isInline_flags : isInline flags.toNat = true
  padding : Vector UInt8 16
  version : String
  version_ne_empty : version ≠ ""
  /-- Its length is a number of the format. -/
  version_fits : (Utf8.encode version).length < 2 ^ 64
  /-- The mark before the module text. -/
  opening : Vector UInt8 16
  text : String
  text_closed : text = "" ∨ ∃ lines, text = lines ++ "\n"
  text_fits : (Utf8.encode text).length + 2 * sentinelLength < 2 ^ 64
  /-- The mark after the module text. -/
  closing : Vector UInt8 16

namespace InlineRecord

def header (r : InlineRecord) : List UInt8 := headerMagic ++ r.pointerSize :: r.flags :: r.padding.toList

/-- The module text between its marks. -/
def framedText (r : InlineRecord) : List UInt8 := r.opening.toList ++ Utf8.encode r.text ++ r.closing.toList

/-- The record as it is written. -/
def bytes (r : InlineRecord) : List UInt8 :=
  r.header ++ Uvarint.writeString (Utf8.encode r.version) ++ Uvarint.writeString r.framedText

theorem length_header (r : InlineRecord) : r.header.length = headerSize := by
  simp [header, headerMagic, headerSize]

theorem length_framedText (r : InlineRecord) :
    r.framedText.length = (Utf8.encode r.text).length + 2 * sentinelLength := by
  simp only [framedText, List.length_append, Vector.length_toList, sentinelLength]
  omega

end InlineRecord

/-! ## The marks -/

/-- A text that ends with a line break has the line break as its last byte. -/
theorem encode_append_newline (lines : String) : Utf8.encode (lines ++ "\n") = Utf8.encode lines ++ [10] := by
  simp [Utf8.encode, Utf8.encodeChars, String.toList_append]
  rfl

/-- **The marks come off a closed text.** Around an empty text there is no room for a line break, and nothing is
    what comes out then too. -/
theorem stripSentinels_framed {opening closing text : List UInt8} (hopening : opening.length = sentinelLength)
    (hclosing : closing.length = sentinelLength) (htext : text = [] ∨ ∃ lines, text = lines ++ [10]) :
    stripSentinels (opening ++ text ++ closing) = text := by
  have hlength : (opening ++ text ++ closing).length = text.length + 2 * sentinelLength := by
    simp only [List.length_append, hopening, hclosing]
    omega
  unfold stripSentinels
  rcases htext with rfl | ⟨lines, rfl⟩
  · rw [if_neg (by rw [hlength, List.length_nil]; omega)]
  · have hlast : (opening ++ (lines ++ [10]) ++ closing)[(opening ++ (lines ++ [10]) ++ closing).length -
        sentinelLength - 1]? = some 10 := by
      have hindex : (opening ++ (lines ++ [10]) ++ closing).length - sentinelLength - 1 = (opening ++ lines).length := by
        rw [hlength, List.length_append, List.length_append, hopening, List.length_singleton]
        unfold sentinelLength
        omega
      rw [hindex, ← List.append_assoc, List.append_assoc (opening ++ lines), List.getElem?_append_right (Nat.le_refl _),
        Nat.sub_self]
      rfl
    rw [if_pos ⟨by rw [hlength, List.length_append, List.length_singleton]; omega, hlast⟩, hlength,
      Nat.add_sub_cancel, List.append_assoc, List.drop_left' hopening, List.take_left]

/-! ## The strings -/

variable (segments : List Segment) (data : ByteArray) (r : InlineRecord)

/-- **Both strings come out of the record**, whatever follows it. -/
theorem ofBlob_bytes (after : List UInt8) :
    Record.ofBlob segments data (r.bytes ++ after) = .ok ⟨Utf8.encode r.version, r.framedText⟩ := by
  have hflags : (r.bytes ++ after).getD 15 0 = r.flags := by
    simp [InlineRecord.bytes, InlineRecord.header, headerMagic]
  have hstrings : (r.bytes ++ after).drop headerSize =
      Uvarint.writeString (Utf8.encode r.version) ++ (Uvarint.writeString r.framedText ++ after) := by
    rw [InlineRecord.bytes, List.append_assoc, List.append_assoc, List.drop_left' r.length_header]
  have htext : r.framedText.length < 2 ^ 64 := r.length_framedText ▸ r.text_fits
  rw [Record.ofBlob, hflags, if_pos r.isInline_flags, Record.ofInline, hstrings,
    Uvarint.takeString_writeString r.version_fits]
  simp only [Uvarint.takeString_writeString htext]

/-- What the strings of a record say is what the parser of module texts says. -/
theorem read_strings :
    (Record.read ⟨Utf8.encode r.version, r.framedText⟩).result =
      ((parseModuleText r.version r.text).mapError .setting).map some := by
  have hversion : (Utf8.encode r.version).isEmpty = false := by
    rw [List.isEmpty_eq_false_iff]
    intro hempty
    refine r.version_ne_empty ?_
    rw [← Utf8.decodeLossy_encode r.version, hempty]
    rfl
  have hclosed : Utf8.encode r.text = [] ∨ ∃ lines, Utf8.encode r.text = lines ++ [10] := by
    rcases r.text_closed with h | ⟨lines, h⟩
    · exact Or.inl (by rw [h]; rfl)
    · exact Or.inr ⟨_, by rw [h, encode_append_newline]⟩
  have hstrip : stripSentinels r.framedText = Utf8.encode r.text :=
    stripSentinels_framed r.opening.length_toList r.closing.length_toList hclosed
  simp only [Record.read, hversion, Bool.false_eq_true, if_false, hstrip, Utf8.decodeLossy_encode]
  cases parseModuleText r.version r.text <;> rfl

/-- **A record with inline strings is read back.** The bytes before it may hold the magic text anywhere but at a
    multiple of the alignment; the bytes after it, the rest of the file and its segments make no difference. What
    comes out is what the parser says about the toolchain's name and the module text, be it metadata or a fault. -/
theorem extractFromRegion_inline {before : List UInt8} (haligned : headerAlign ∣ before.length)
    (hclear : ∀ p < before.length, headerAlign ∣ p → ¬headerMagic <+: before.drop p) (after : List UInt8) :
    (extractFromRegion segments data (before ++ r.bytes ++ after)).result =
      ((parseModuleText r.version r.text).mapError .setting).map some := by
  have hmagic : headerMagic <+: r.bytes ++ after := by
    rw [InlineRecord.bytes, InlineRecord.header, List.append_assoc, List.append_assoc, List.append_assoc]
    exact List.prefix_append _ _
  have hroom : headerSize ≤ (r.bytes ++ after).length := by
    rw [InlineRecord.bytes, List.append_assoc, List.append_assoc, List.length_append, r.length_header]
    exact Nat.le_add_right _ _
  have hfound := findHeader_append haligned hclear hmagic hroom
  rw [List.append_assoc, extractFromRegion, hfound]
  simp only [List.drop_left, ofBlob_bytes, read_strings]

/-- The record of a small program. -/
def smallRecord : InlineRecord where
  pointerSize := 8
  flags := 2
  isInline_flags := by decide
  padding := .replicate 16 0
  version := "go1.23.4"
  version_ne_empty := by decide
  version_fits := by decide
  opening := .replicate 16 0x30
  text := "path\tcmd/app\nbuild\tCGO_ENABLED=1\n"
  text_closed := Or.inr ⟨"path\tcmd/app\nbuild\tCGO_ENABLED=1", by decide⟩
  text_fits := by decide
  closing := .replicate 16 0xF9

/-- The record of a small program is read back behind a copy of the magic text that is not aligned. -/
theorem extractFromRegion_inline_smallRecord :
    let before : List UInt8 := 0xff :: 0x20 :: headerMagic
    headerAlign ∣ before.length ∧ (∀ p < before.length, headerAlign ∣ p → ¬headerMagic <+: before.drop p) ∧
      ∃ m, (extractFromRegion [] .empty (before ++ smallRecord.bytes ++ headerMagic)).result = .ok (some m) ∧
        m.runtimeVersion = "go1.23.4" ∧ m.path = some "cmd/app" ∧ m.setting? "CGO_ENABLED" = some "1" := by
  intro before
  have haligned : headerAlign ∣ before.length := by decide
  have hclear : ∀ p < before.length, headerAlign ∣ p → ¬headerMagic <+: before.drop p := by decide
  let m : BuildMetadata :=
    { runtimeVersion := "go1.23.4", path := some "cmd/app", settings := ({} : Settings).insert "CGO_ENABLED" "1" }
  have hparse : parseModuleText smallRecord.version smallRecord.text = .ok m := by cbv
  have hsetting : m.setting? "CGO_ENABLED" = some "1" := Std.ExtTreeMap.getElem?_insert_self
  refine ⟨haligned, hclear, m, ?_, rfl, rfl, hsetting⟩
  rw [extractFromRegion_inline [] .empty smallRecord haligned hclear headerMagic, hparse]
  rfl

end FipsAudit.BuildInfo
