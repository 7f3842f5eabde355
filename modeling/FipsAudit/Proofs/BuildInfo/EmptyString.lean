import FipsAudit.Proofs.BuildInfo.Header
import FipsAudit.Proofs.BuildInfo.Pointer
import FipsAudit.Proofs.BuildInfo.Uvarint
import FipsAudit.Proofs.Elf.Header
import Mathlib

/-!
# `FipsAudit.Proofs.BuildInfo.EmptyString` — strings without bytes

An inline string without bytes is a length of zero and nothing else. A string without bytes behind a pointer has a
string header like any other, and the header holds an address, though there is nothing to be found at it. The reader
looks at that address all the same. It takes the string only if the file has a place for the address, and refuses the
record if there is none, as with the null address.

* `Backed` — the addresses that the file has a place for.
* `StringHeaderAt` — what a string header records, whether its string can be read or not.
* `pointedString?_of_backed`, `pointedString?_of_not_backed` — strings of no bytes, with and without a place.
* `extract_emptyString` — what becomes of a file whose record has such strings, and that both layouts agree on all
  strings that can be read.
* `nullString_malformed` — the null address does not stand for the empty string.
-/

namespace FipsAudit.BuildInfo

open Elf Text

variable {segments : List Segment} {data : ByteArray} {blob : List UInt8} {f : PointerFormat}

/-! ## String headers -/

/-- **The file has a place for the address**: the first loaded segment whose file part holds it starts in the file. -/
def Backed (segments : List Segment) (data : ByteArray) (address : Nat) : Prop := InMemory segments data address []

/-- **A string header stands at `address`**: the address of the bytes, and their number. -/
structure StringHeaderAt (f : PointerFormat) (segments : List Segment) (data : ByteArray)
    (address start length : Nat) : Prop where
  /-- Two words stand there. -/
  words : ∃ first second, first.length = f.size ∧ second.length = f.size ∧
    InMemory segments data address (first ++ second) ∧ f.order.decode first = start ∧ f.order.decode second = length

/-- The header tells what is read for the string. -/
theorem pointedString?_of_header {address start length : Nat}
    (h : StringHeaderAt f segments data address start length) :
    pointedString? f segments data address =
      if length > maxPointedLength then none else readMemory? segments data start length := by
  obtain ⟨first, second, hfirst, hsecond, hwords, rfl, rfl⟩ := h
  have hread : readMemory? segments data address (2 * f.size) = some (first ++ second) := by
    refine readMemory?_eq_some_iff.mpr ⟨hwords, ?_⟩
    rw [List.length_append]
    omega
  rw [pointedString?, hread]
  simp only [List.take_left' hfirst, List.drop_left' hfirst]

/-- A header that records no bytes stands for the empty string if the file has a place for its address. -/
theorem pointedString?_of_backed {address start : Nat} (h : StringHeaderAt f segments data address start 0)
    (hbacked : Backed segments data start) : pointedString? f segments data address = some [] := by
  rw [pointedString?_of_header h]
  exact readMemory?_eq_some_iff.mpr ⟨hbacked, rfl⟩

/-- And it stands for nothing if the file has none. -/
theorem pointedString?_of_not_backed {address start : Nat} (h : StringHeaderAt f segments data address start 0)
    (hbacked : ¬Backed segments data start) : pointedString? f segments data address = none := by
  rw [pointedString?_of_header h]
  refine Option.eq_none_iff_forall_ne_some.mpr fun s hs => ?_
  obtain ⟨hstands, hlength⟩ := readMemory?_eq_some_iff.mp hs
  obtain rfl := List.length_eq_zero_iff.mp hlength
  exact hbacked hstands

/-! ## Files -/

/-- **The file has a record with pointers**, which begins `blob`. -/
structure HoldsPointers (data : ByteArray) (segments : List Segment) (blob : List UInt8) : Prop where
  /-- The record is found in the data region of an object with these segments. -/
  found : ∃ o region start, Object.parse? data = some o ∧ o.segments = segments ∧ dataRegion? o data = some region ∧
    findHeader region = some start ∧ region.drop start = blob
  /-- Its strings do not follow it. -/
  pointers : isInline (blob.getD 15 0).toNat = false

/-- What is found in the file is what its record says. -/
theorem HoldsPointers.extract_eq (h : HoldsPointers data segments blob) :
    extract data =
      match Record.ofPointers segments data blob with
      | .error e => .malformed e
      | .ok r => r.read := by
  obtain ⟨⟨o, region, start, hobject, rfl, hregion, hheader, rfl⟩, hpointers⟩ := h
  cases hrecord : Record.ofPointers o.segments data (region.drop start) with
  | error e =>
      simp only [extract, hobject, hregion, extractFromRegion, hheader, Record.ofBlob, hpointers, hrecord,
        Bool.false_eq_true, if_false]
  | ok r =>
      simp only [extract, hobject, hregion, extractFromRegion, hheader, Record.ofBlob, hpointers, hrecord,
        Bool.false_eq_true, if_false]

/-- Both strings can be read: the file has the record that they make up. -/
theorem HoldsPointers.extract_of_pointsTo (h : HoldsPointers data segments blob) {r : Record}
    (hpoints : PointsTo segments data blob r) : extract data = r.read := by
  rw [h.extract_eq, ofPointers_of_pointsTo hpoints]

/-- **Inline strings are taken as they are**, those without bytes too. -/
theorem extractFromRegion_strings {header : List UInt8} (hmagic : headerMagic <+: header)
    (hlength : header.length = headerSize) (hflags : isInline (header.getD 15 0).toNat = true) (r : Record)
    (hversion : r.version.length < 2 ^ 64) (htext : r.moduleText.length < 2 ^ 64) (segments : List Segment)
    (data : ByteArray) (after : List UInt8) :
    extractFromRegion segments data
        (header ++ (Uvarint.writeString r.version ++ (Uvarint.writeString r.moduleText ++ after))) = r.read := by
  have hfound : findHeader ([] ++
      (header ++ (Uvarint.writeString r.version ++ (Uvarint.writeString r.moduleText ++ after)))) = some 0 := by
    refine findHeader_append (Nat.dvd_zero _) (fun p hp => absurd hp (Nat.not_lt_zero p))
      (hmagic.trans (List.prefix_append _ _)) ?_
    rw [List.length_append, hlength]
    exact Nat.le_add_right _ _
  have hflag : (header ++ (Uvarint.writeString r.version ++ (Uvarint.writeString r.moduleText ++ after))).getD 15 0 =
      header.getD 15 0 := by
    rw [List.getD_eq_getElem?_getD, List.getElem?_append_left (by rw [hlength]; decide), ← List.getD_eq_getElem?_getD]
  rw [List.nil_append] at hfound
  simp only [extractFromRegion, hfound, List.drop_zero, Record.ofBlob, hflag, hflags, if_true, Record.ofInline,
    List.drop_left' hlength, Uvarint.takeString_writeString hversion, Uvarint.takeString_writeString htext]

/-! ## Strings without bytes -/

/-- Without module text there is nothing to say but the toolchain's name. -/
theorem read_of_no_moduleText {version : List UInt8} (h : version ≠ []) :
    (Record.read ⟨version, []⟩).result = .ok (some { runtimeVersion := Utf8.decodeLossy version }) := by
  have hversion : version.isEmpty = false := List.isEmpty_eq_false_iff.mpr h
  simp only [Record.read, hversion, Bool.false_eq_true, if_false]
  rfl

/-- **What becomes of strings without bytes.** A string header that records no bytes stands for the empty string
    exactly if the file has a place for the address that it holds. Then a file whose toolchain has no name is no Go
    program, and one without module text has nothing but the name, as with inline strings. Without such a place the
    record is refused. On all strings that can be read, both layouts agree. -/
theorem extract_emptyString {versionHeader versionStart versionLength moduleHeader moduleStart moduleLength : Nat}
    (hfile : HoldsPointers data segments blob) (hleads : Announces blob f versionHeader moduleHeader)
    (hversion : StringHeaderAt f segments data versionHeader versionStart versionLength)
    (hmodule : StringHeaderAt f segments data moduleHeader moduleStart moduleLength) :
    (versionLength = 0 →
      (Backed segments data versionStart → (∃ text, StringAt f segments data moduleHeader text) →
        (extract data).result = .ok none) ∧
      (¬Backed segments data versionStart → (extract data).result = .error (.unreadableVersion versionHeader))) ∧
    (moduleLength = 0 →
      (Backed segments data moduleStart → StringAt f segments data moduleHeader [] ∧
        ∀ version, StringAt f segments data versionHeader version → version ≠ [] →
          (extract data).result = .ok (some { runtimeVersion := Utf8.decodeLossy version })) ∧
      (¬Backed segments data moduleStart → ∀ version, StringAt f segments data versionHeader version →
        (extract data).result = .error (.unreadableModuleText moduleHeader))) ∧
    ∀ version text, StringAt f segments data versionHeader version → StringAt f segments data moduleHeader text →
      ∀ header after segments' data', headerMagic <+: header → header.length = headerSize →
        isInline (header.getD 15 0).toNat = true →
        extract data = extractFromRegion segments' data'
          (header ++ (Uvarint.writeString version ++ (Uvarint.writeString text ++ after))) := by
  have hread := @ofPointers_of_announces segments data _ _ _ _ hleads
  refine ⟨fun hnone => ⟨fun hbacked htext => ?_, fun hbacked => ?_⟩,
    fun hnone => ⟨fun hbacked => ⟨?_, fun version hname hne => ?_⟩, fun hbacked version hname => ?_⟩,
    fun version text hname htext header after segments' data' hmagic hlength hflags => ?_⟩
  · subst hnone
    obtain ⟨text, htext⟩ := htext
    have hname := pointedString?_eq_some_iff.mp (pointedString?_of_backed hversion hbacked)
    rw [hfile.extract_of_pointsTo (r := ⟨[], text⟩) ⟨f, _, _, hleads, hname, htext⟩]
    rfl
  · subst hnone
    rw [hfile.extract_eq, hread, pointedString?_of_not_backed hversion hbacked]
    rfl
  · subst hnone
    exact pointedString?_eq_some_iff.mp (pointedString?_of_backed hmodule hbacked)
  · subst hnone
    have htext := pointedString?_eq_some_iff.mp (pointedString?_of_backed hmodule hbacked)
    rw [hfile.extract_of_pointsTo (r := ⟨version, []⟩) ⟨f, _, _, hleads, hname, htext⟩]
    exact read_of_no_moduleText hne
  · subst hnone
    rw [hfile.extract_eq, hread, pointedString?_eq_some_iff.mpr hname, pointedString?_of_not_backed hmodule hbacked]
    rfl
  -- Strings behind pointers are short, so their lengths are numbers of the inline format.
  · have hshort {s : List UInt8} {address : Nat} (hs : StringAt f segments data address s) : s.length < 2 ^ 64 :=
      Nat.lt_of_le_of_lt hs.short (by decide)
    rw [hfile.extract_of_pointsTo (r := ⟨version, text⟩) ⟨f, _, _, hleads, hname, htext⟩]
    exact (extractFromRegion_strings hmagic hlength hflags ⟨version, text⟩ (hshort hname) (hshort htext)
      segments' data' after).symm

/-! ## The null address -/

/-- A program of four-byte words, whose one segment holds all 144 bytes of the file from address 4096 on. -/
def unnamedProgram : List UInt8 :=
  magic ++ [1, 1, 1, 0, 0, 0, 0, 0, 0, 0, 0, 0] ++
    [2, 0, 3, 0, 1, 0, 0, 0, 0, 0, 0, 0, 52, 0, 0, 0, 0, 0, 0, 0, 0, 0, 0, 0, 52, 0, 32, 0, 1, 0, 40, 0, 0, 0, 0, 0] ++
    [1, 0, 0, 0, 0, 0, 0, 0, 0, 16, 0, 0, 0, 16, 0, 0, 144, 0, 0, 0, 144, 0, 0, 0, 6, 0, 0, 0, 0, 0, 0, 0] ++
    List.replicate 12 0

def unnamedSegment : Segment := ⟨Segment.load, 6, 0, 4096, 144, 144⟩

/-- A record at address 4192. Its string headers follow it and record no bytes at pages `versionPage` and
    `modulePage` of 256 bytes. -/
def unnamedRecord (versionPage modulePage : UInt8) : List UInt8 :=
  headerMagic ++ [4, 0] ++ [128, 16, 0, 0, 136, 16, 0, 0, 0, 0, 0, 0, 0, 0, 0, 0] ++
    [0, versionPage, 0, 0, 0, 0, 0, 0] ++ [0, modulePage, 0, 0, 0, 0, 0, 0]

def unnamedFile (versionPage modulePage : UInt8) : ByteArray :=
  Bytes.ofList (unnamedProgram ++ unnamedRecord versionPage modulePage)

section Unnamed

variable (versionPage modulePage : UInt8)

set_option maxRecDepth 4096 in
theorem parse?_unnamedFile : Object.parse? (unnamedFile versionPage modulePage) =
    some ⟨⟨.four, .little⟩, ⟨2, 3, 52, 0, 1, 0, 0⟩, [unnamedSegment], [], .empty, [], .empty, []⟩ := by
  have hheader : readHeader? (unnamedFile versionPage modulePage) =
      some (⟨.four, .little⟩, ⟨2, 3, 52, 0, 1, 0, 0⟩) := by cbv
  have hsegments : readSegments? (unnamedFile versionPage modulePage) ⟨.four, .little⟩ ⟨2, 3, 52, 0, 1, 0, 0⟩ =
      some [unnamedSegment] := by cbv
  rw [Object.parse?, hheader]
  simp only [Option.bind_eq_bind, Option.bind_some, hsegments]
  rfl

theorem holdsPointers_unnamedFile :
    HoldsPointers (unnamedFile versionPage modulePage) [unnamedSegment] (unnamedRecord versionPage modulePage) := by
  have hwindow : window? (unnamedFile versionPage modulePage) 0 144 =
      some (unnamedProgram ++ unnamedRecord versionPage modulePage) := by
    rw [window?]
    exact Bytes.slice?_eq_some_iff.mpr ⟨Nat.le_refl _, rfl⟩
  have hheader : findHeader (unnamedProgram ++ unnamedRecord versionPage modulePage) = some unnamedProgram.length :=
    findHeader_append (by decide) (by decide) ⟨_, rfl⟩ (Nat.le_of_ble_eq_true rfl)
  have hflags : (unnamedRecord versionPage modulePage).getD 15 0 = 0 := rfl
  refine ⟨⟨_, _, _, parse?_unnamedFile versionPage modulePage, rfl, hwindow, hheader, rfl⟩, ?_⟩
  rw [hflags]
  rfl

theorem announces_unnamedRecord : Announces (unnamedRecord versionPage modulePage) ⟨4, .little⟩ 4224 4232 :=
  ⟨⟨rfl, Or.inl rfl⟩, rfl, [128, 16, 0, 0], [136, 16, 0, 0], _, rfl, rfl, rfl, rfl, rfl⟩

theorem stringHeaderAt_unnamedFile :
    StringHeaderAt ⟨4, .little⟩ [unnamedSegment] (unnamedFile versionPage modulePage) 4224
        (256 * versionPage.toNat) 0 ∧
      StringHeaderAt ⟨4, .little⟩ [unnamedSegment] (unnamedFile versionPage modulePage) 4232
        (256 * modulePage.toNat) 0 := by
  have hpage (page : UInt8) : ByteOrder.little.decode [0, page, 0, 0] = 256 * page.toNat := by
    simp [ByteOrder.decode, natOfLittle]
  have hnone : ∀ q ∈ ([] : List Segment), ∀ address, ¬Covers q address := fun q hq => absurd hq List.not_mem_nil
  refine ⟨⟨[0, versionPage, 0, 0], [0, 0, 0, 0], rfl, rfl, ?_, hpage _, rfl⟩,
    ⟨[0, modulePage, 0, 0], [0, 0, 0, 0], rfl, rfl, ?_, hpage _, rfl⟩⟩
  · exact ⟨[], _, [], rfl, fun q hq => hnone q hq _, ⟨rfl, by decide, by decide⟩, Nat.le_of_ble_eq_true rfl,
      unnamedProgram ++ (unnamedRecord versionPage modulePage).take 32, _, rfl, rfl⟩
  · exact ⟨[], _, [], rfl, fun q hq => hnone q hq _, ⟨rfl, by decide, by decide⟩, Nat.le_of_ble_eq_true rfl,
      unnamedProgram ++ (unnamedRecord versionPage modulePage).take 40, [], rfl, rfl⟩

end Unnamed

/-- Two strings without bytes at the start of the segment: the file has a place for them, so there is no Go program. -/
theorem extract_emptyString_unnamed :
    HoldsPointers (unnamedFile 16 16) [unnamedSegment] (unnamedRecord 16 16) ∧
      Announces (unnamedRecord 16 16) ⟨4, .little⟩ 4224 4232 ∧
      StringHeaderAt ⟨4, .little⟩ [unnamedSegment] (unnamedFile 16 16) 4224 4096 0 ∧
      StringHeaderAt ⟨4, .little⟩ [unnamedSegment] (unnamedFile 16 16) 4232 4096 0 ∧
      (extract (unnamedFile 16 16)).result = .ok none := by
  have hfile := holdsPointers_unnamedFile 16 16
  have hleads := announces_unnamedRecord 16 16
  obtain ⟨hversion, hmodule⟩ := stringHeaderAt_unnamedFile 16 16
  have hbacked : Backed [unnamedSegment] (unnamedFile 16 16) 4096 :=
    ⟨[], _, [], rfl, fun q hq => absurd hq List.not_mem_nil, ⟨rfl, by decide, by decide⟩, by decide, [], _, rfl, rfl⟩
  obtain ⟨hnone, htext, -⟩ := extract_emptyString hfile hleads hversion hmodule
  exact ⟨hfile, hleads, hversion, hmodule, (hnone rfl).1 hbacked ⟨[], ((htext rfl).1 hbacked).1⟩⟩

/-- **The null address does not stand for the empty string**: the same program with null addresses is refused. -/
theorem nullString_malformed :
    ¬∀ (data : ByteArray) (segments : List Segment) (blob : List UInt8) (f : PointerFormat)
      (versionHeader versionStart moduleHeader moduleStart : Nat), HoldsPointers data segments blob →
      Announces blob f versionHeader moduleHeader → StringHeaderAt f segments data versionHeader versionStart 0 →
      StringHeaderAt f segments data moduleHeader moduleStart 0 → (extract data).result = .ok none := by
  intro hclaim
  have hfile := holdsPointers_unnamedFile 0 0
  have hleads := announces_unnamedRecord 0 0
  obtain ⟨hversion, hmodule⟩ := stringHeaderAt_unnamedFile 0 0
  -- The segment begins at address 4096.
  have hbacked : ¬Backed [unnamedSegment] (unnamedFile 0 0) 0 := by
    rintro ⟨before, s, after, hsplit, -, ⟨-, hlow, -⟩, -⟩
    have hs : s ∈ [unnamedSegment] := hsplit ▸ List.mem_append_right before List.mem_cons_self
    obtain rfl := List.mem_singleton.mp hs
    exact absurd hlow (by decide)
  have hnone := hclaim _ _ _ _ _ _ _ _ hfile hleads hversion hmodule
  rw [hfile.extract_eq, ofPointers_of_announces hleads, pointedString?_of_not_backed hversion hbacked,
    Option.elim_none] at hnone
  exact absurd hnone (by simp [Extraction.result])

end FipsAudit.BuildInfo
