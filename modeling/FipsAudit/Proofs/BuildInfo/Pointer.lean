import FipsAudit.BuildInfo
import FipsAudit.Proofs.BuildInfo.Words
import FipsAudit.Proofs.Bytes

/-!
# `FipsAudit.Proofs.BuildInfo.Pointer` — records with pointers

The older form of a record leads through memory twice: from the record to two string headers, and from each header to
the bytes of its string. Here memory is described from outside. Bytes stand in memory at an address when the first
loaded segment whose file part holds the address holds all of them, and the file has them where the segment says. A
string stands at an address when such a header stands there and leads to its bytes. Reading finds exactly the strings
that stand where the pointers of the record lead, and is at fault in all other cases.

* `InMemory`, `StringAt`, `Announces` — what stands in memory, and where a record leads.
* `pointedString?_eq_some_iff` — the strings that are read are those that stand there.
* `PointerRecord` — a record as a linker writes it, with its string headers.
* `laidOut_of_mapped` — a record whose parts stand one after the other in a segment is laid out as it says.
* `ofBlob_pointers` — what a record with pointers yields, in all cases.
-/

namespace FipsAudit.BuildInfo

open Elf

variable {segments : List Segment} {data : ByteArray}

/-! ## Memory -/

/-- The file part of a loaded segment holds the address. -/
def Covers (s : Segment) (address : Nat) : Prop :=
  s.type = Segment.load ∧ s.address ≤ address ∧ address < s.address + s.fileSize

/-- **`bytes` stand in memory from `address` on.** -/
structure InMemory (segments : List Segment) (data : ByteArray) (address : Nat) (bytes : List UInt8) : Prop where
  /-- The first loaded segment whose file part holds the address holds all of them, and the file has them there. -/
  mapped : ∃ before s after, segments = before ++ s :: after ∧ (∀ q ∈ before, ¬Covers q address) ∧ Covers s address ∧
    address + bytes.length ≤ s.address + s.fileSize ∧ Bytes.HasAt data (s.offset + (address - s.address)) bytes

theorem covers_iff {s : Segment} {address : Nat} :
    (s.type == Segment.load && s.address ≤ address && address - s.address < s.fileSize) = true ↔ Covers s address := by
  simp only [Covers, Bool.and_eq_true, beq_iff_eq, decide_eq_true_eq]
  constructor
  · rintro ⟨⟨htype, hlow⟩, hhigh⟩
    exact ⟨htype, hlow, by omega⟩
  · rintro ⟨htype, hlow, hhigh⟩
    exact ⟨⟨htype, hlow⟩, by omega⟩

theorem segmentAt?_eq_some_iff {address : Nat} {s : Segment} :
    segmentAt? segments address = some s ↔
      Covers s address ∧ ∃ before after, segments = before ++ s :: after ∧ ∀ q ∈ before, ¬Covers q address := by
  rw [segmentAt?, List.find?_eq_some_iff_append, covers_iff]
  simp only [Bool.not_eq_true', ← covers_iff, Bool.not_eq_true]

/-- **What is read from memory is what stands there.** -/
theorem readMemory?_eq_some_iff {address length : Nat} {bytes : List UInt8} :
    readMemory? segments data address length = some bytes ↔
      InMemory segments data address bytes ∧ bytes.length = length := by
  constructor
  · intro h
    unfold readMemory? at h
    cases hsegment : segmentAt? segments address with
    | none => simp [hsegment] at h
    | some s =>
        obtain ⟨hcovers, before, after, hsplit, hfirst⟩ := segmentAt?_eq_some_iff.mp hsegment
        obtain ⟨-, hlow, hhigh⟩ := id hcovers
        simp only [hsegment] at h
        split at h
        · exact absurd h (by simp)
        · obtain ⟨hat, rfl⟩ := Bytes.slice?_eq_some_iff_hasAt.mp h
          exact ⟨⟨before, s, after, hsplit, hfirst, hcovers, by omega, hat⟩, rfl⟩
  · rintro ⟨⟨before, s, after, hsplit, hfirst, hcovers, hfits, hat⟩, rfl⟩
    have hsegment : segmentAt? segments address = some s :=
      segmentAt?_eq_some_iff.mpr ⟨hcovers, before, after, hsplit, hfirst⟩
    obtain ⟨-, hlow, hhigh⟩ := hcovers
    have hroom : ¬bytes.length > s.fileSize - (address - s.address) := by omega
    simp only [readMemory?, hsegment, hroom, if_false]
    exact hat.slice?

/-! ## Strings -/

/-- **A string stands at `address`**: a header leads to its bytes and tells their number. -/
structure StringAt (f : PointerFormat) (segments : List Segment) (data : ByteArray) (address : Nat)
    (s : List UInt8) : Prop where
  /-- Two words stand there: the address of the bytes and their number. -/
  header : ∃ start length, start.length = f.size ∧ length.length = f.size ∧
    InMemory segments data address (start ++ length) ∧ f.order.decode length = s.length ∧
    InMemory segments data (f.order.decode start) s
  /-- Strings of more bytes are not read. -/
  short : s.length ≤ maxPointedLength

/-- **The strings that are read are those that stand there.** -/
theorem pointedString?_eq_some_iff {f : PointerFormat} {address : Nat} {s : List UInt8} :
    pointedString? f segments data address = some s ↔ StringAt f segments data address s := by
  constructor
  · intro h
    unfold pointedString? at h
    cases hread : readMemory? segments data address (2 * f.size) with
    | none => simp [hread] at h
    | some header =>
        obtain ⟨hheader, hlength⟩ := readMemory?_eq_some_iff.mp hread
        simp only [hread] at h
        split at h
        · exact absurd h (by simp)
        · rename_i hshort
          obtain ⟨hbytes, hnumber⟩ := readMemory?_eq_some_iff.mp h
          refine ⟨⟨header.take f.size, header.drop f.size, ?_, ?_, ?_, hnumber.symm, hbytes⟩, by omega⟩
          · rw [List.length_take]
            omega
          · rw [List.length_drop]
            omega
          · rwa [List.take_append_drop]
  · rintro ⟨⟨start, length, hstart, hlength, hheader, hnumber, hbytes⟩, hshort⟩
    have hread : readMemory? segments data address (2 * f.size) = some (start ++ length) :=
      readMemory?_eq_some_iff.mpr ⟨hheader, by rw [List.length_append]; omega⟩
    have hnotLong : ¬s.length > maxPointedLength := by omega
    simp only [pointedString?, hread, List.take_left' hstart, List.drop_left' hstart, hnumber, hnotLong, if_false]
    exact readMemory?_eq_some_iff.mpr ⟨hbytes, rfl⟩

/-! ## Records -/

/-- **A record announces** how its pointers are written, and holds the addresses of two string headers. -/
structure Announces (blob : List UInt8) (f : PointerFormat) (versionAddress moduleAddress : Nat) : Prop where
  /-- Byte 14 is the size of a pointer, four or eight. -/
  size : (blob.getD 14 0).toNat = f.size ∧ (f.size = 4 ∨ f.size = 8)
  /-- Byte 15 tells the order of bytes. -/
  order : f.order = if blob.getD 15 0 = 0 then .little else .big
  /-- The pointers follow. -/
  pointers : ∃ first second rest, blob.drop 16 = first ++ (second ++ rest) ∧ first.length = f.size ∧
    second.length = f.size ∧ f.order.decode first = versionAddress ∧ f.order.decode second = moduleAddress

variable {blob : List UInt8}

/-- A record of the size of a header announces something, unless the size of its pointers is not known. -/
theorem exists_announces (hlength : headerSize ≤ blob.length)
    (hsize : (blob.getD 14 0).toNat = 4 ∨ (blob.getD 14 0).toNat = 8) : ∃ f a b, Announces blob f a b := by
  let f : PointerFormat := ⟨(blob.getD 14 0).toNat, if blob.getD 15 0 = 0 then .little else .big⟩
  refine ⟨f, _, _, ⟨rfl, hsize⟩, rfl, (blob.drop 16).take f.size, ((blob.drop 16).drop f.size).take f.size,
    ((blob.drop 16).drop f.size).drop f.size, ?_, ?_, ?_, rfl, rfl⟩
  · rw [List.take_append_drop, List.take_append_drop]
  all_goals
    have hknown : f.size = 4 ∨ f.size = 8 := hsize
    unfold headerSize at hlength
    simp only [List.length_take, List.length_drop]
    omega

/-- What a record with pointers yields, as far as it announces where to look. -/
theorem ofPointers_of_announces {f : PointerFormat} {a b : Nat} (h : Announces blob f a b) :
    Record.ofPointers segments data blob =
      (pointedString? f segments data a).elim (.error (.unreadableVersion a)) fun version =>
        (pointedString? f segments data b).elim (.error (.unreadableModuleText b)) fun moduleText =>
          .ok { version, moduleText } := by
  obtain ⟨⟨hsize, hknown⟩, horder, first, second, rest, hpointers, hfirst, hsecond, rfl, rfl⟩ := h
  obtain ⟨size, order⟩ := f
  simp only at hsize hknown horder hfirst hsecond
  have hrest : blob.drop (16 + size) = second ++ rest := by
    rw [← List.drop_drop, hpointers, List.drop_left' hfirst]
  have hnotUnknown : ¬(size ≠ 4 ∧ size ≠ 8) := by omega
  simp only [Record.ofPointers, hsize, hnotUnknown, if_false, ← horder, hpointers, hrest, List.take_left' hfirst,
    List.take_left' hsecond]
  cases pointedString? ⟨size, order⟩ segments data (order.decode first) with
  | none => rfl
  | some version => cases pointedString? ⟨size, order⟩ segments data (order.decode second) <;> rfl

theorem ofPointers_of_unknown_size (h : ¬((blob.getD 14 0).toNat = 4 ∨ (blob.getD 14 0).toNat = 8)) :
    Record.ofPointers segments data blob = .error (.pointerSize (blob.getD 14 0).toNat) := by
  rw [Record.ofPointers]
  exact if_pos (not_or.mp h)

/-- **The strings of a record**: those that stand where it leads. -/
def PointsTo (segments : List Segment) (data : ByteArray) (blob : List UInt8) (r : Record) : Prop :=
  ∃ f a b, Announces blob f a b ∧ StringAt f segments data a r.version ∧ StringAt f segments data b r.moduleText

/-- **The faults of a record with pointers.** -/
inductive PointerFault (segments : List Segment) (data : ByteArray) (blob : List UInt8) : Malformed → Prop where
  /-- The size of its pointers is not known. -/
  | size (unknown : ¬((blob.getD 14 0).toNat = 4 ∨ (blob.getD 14 0).toNat = 8)) :
      PointerFault segments data blob (.pointerSize (blob.getD 14 0).toNat)
  /-- No string stands where the toolchain's name should be. -/
  | version {f : PointerFormat} {a b : Nat} (leads : Announces blob f a b)
      (missing : ∀ s, ¬StringAt f segments data a s) :
      PointerFault segments data blob (.unreadableVersion a)
  /-- No string stands where the module text should be. -/
  | moduleText {f : PointerFormat} {a b : Nat} {s : List UInt8} (leads : Announces blob f a b)
      (present : StringAt f segments data a s) (missing : ∀ t, ¬StringAt f segments data b t) :
      PointerFault segments data blob (.unreadableModuleText b)

/-- **A record with pointers yields its strings, or its fault.** -/
theorem ofPointers_cases (segments : List Segment) (data : ByteArray) (hlength : headerSize ≤ blob.length) :
    (∃ r, Record.ofPointers segments data blob = .ok r ∧ PointsTo segments data blob r) ∨
      ∃ e, Record.ofPointers segments data blob = .error e ∧ PointerFault segments data blob e := by
  by_cases hsize : (blob.getD 14 0).toNat = 4 ∨ (blob.getD 14 0).toNat = 8
  · obtain ⟨f, a, b, hleads⟩ := exists_announces hlength hsize
    have hread := @ofPointers_of_announces segments data _ _ _ _ hleads
    cases hversion : pointedString? f segments data a with
    | none =>
        refine Or.inr ⟨.unreadableVersion a, by rw [hread, hversion, Option.elim_none], .version hleads fun s hs => ?_⟩
        rw [pointedString?_eq_some_iff.mpr hs] at hversion
        exact absurd hversion (by simp)
    | some version =>
        have hpresent := pointedString?_eq_some_iff.mp hversion
        cases htext : pointedString? f segments data b with
        | none =>
            refine Or.inr ⟨.unreadableModuleText b, ?_, .moduleText hleads hpresent fun t ht => ?_⟩
            · rw [hread, hversion, Option.elim_some, htext, Option.elim_none]
            · rw [pointedString?_eq_some_iff.mpr ht] at htext
              exact absurd htext (by simp)
        | some moduleText =>
            refine Or.inl ⟨⟨version, moduleText⟩, ?_, f, a, b, hleads, hpresent, pointedString?_eq_some_iff.mp htext⟩
            rw [hread, hversion, Option.elim_some, htext, Option.elim_some]
  · exact Or.inr ⟨_, ofPointers_of_unknown_size hsize, .size hsize⟩

theorem ofPointers_of_pointsTo {r : Record} (h : PointsTo segments data blob r) :
    Record.ofPointers segments data blob = .ok r := by
  obtain ⟨f, a, b, hleads, hversion, htext⟩ := h
  rw [ofPointers_of_announces hleads, pointedString?_eq_some_iff.mpr hversion, Option.elim_some,
    pointedString?_eq_some_iff.mpr htext, Option.elim_some]

theorem ofPointers_of_pointerFault {e : Malformed} (h : PointerFault segments data blob e) :
    Record.ofPointers segments data blob = .error e := by
  have hnone {f : PointerFormat} {address : Nat} (hmissing : ∀ s, ¬StringAt f segments data address s) :
      pointedString? f segments data address = none :=
    Option.eq_none_iff_forall_ne_some.mpr fun s hs => hmissing s (pointedString?_eq_some_iff.mp hs)
  cases h with
  | size hunknown => exact ofPointers_of_unknown_size hunknown
  | version hleads hmissing => rw [ofPointers_of_announces hleads, hnone hmissing, Option.elim_none]
  | moduleText hleads hpresent hmissing =>
      rw [ofPointers_of_announces hleads, pointedString?_eq_some_iff.mpr hpresent, Option.elim_some, hnone hmissing,
        Option.elim_none]

/-! ## Writing -/

/-- A record as a linker writes it: the addresses of two string headers, what stands there, and two strings. -/
structure PointerRecord where
  format : PointerFormat
  size_known : format.size = 4 ∨ format.size = 8
  /-- Where the header of the toolchain's name stands. -/
  versionAddress : Nat
  /-- Where the toolchain's name stands. -/
  versionStart : Nat
  /-- Where the header of the module text stands. -/
  moduleAddress : Nat
  /-- Where the module text stands. -/
  moduleStart : Nat
  /-- The addresses are words of the format. -/
  addresses_fit : (versionAddress < 256 ^ format.size ∧ versionStart < 256 ^ format.size) ∧
    moduleAddress < 256 ^ format.size ∧ moduleStart < 256 ^ format.size
  version : List UInt8
  version_short : version.length ≤ maxPointedLength
  moduleText : List UInt8
  moduleText_short : moduleText.length ≤ maxPointedLength

namespace PointerRecord

def word (r : PointerRecord) (n : Nat) : List UInt8 := r.format.order.encode r.format.size n

def header (r : PointerRecord) : List UInt8 :=
  headerMagic ++ UInt8.ofNat r.format.size :: (if r.format.order = .little then 0 else 1) ::
    (r.word r.versionAddress ++ (r.word r.moduleAddress ++ List.replicate (16 - 2 * r.format.size) 0))

/-- The file has the string headers and the strings where the record says. -/
structure LaidOut (r : PointerRecord) (segments : List Segment) (data : ByteArray) : Prop where
  versionHeader : InMemory segments data r.versionAddress (r.word r.versionStart ++ r.word r.version.length)
  version : InMemory segments data r.versionStart r.version
  moduleHeader : InMemory segments data r.moduleAddress (r.word r.moduleStart ++ r.word r.moduleText.length)
  moduleText : InMemory segments data r.moduleStart r.moduleText

variable (r : PointerRecord)

theorem length_word (n : Nat) : (r.word n).length = r.format.size := r.format.order.length_encode _ n

theorem decode_word {n : Nat} (h : n < 256 ^ r.format.size) : r.format.order.decode (r.word n) = n :=
  r.format.order.decode_encode h

/-- Lengths that are short enough to be read are words of either size. -/
theorem lt_of_short {n : Nat} (h : n ≤ maxPointedLength) : n < 256 ^ r.format.size := by
  unfold maxPointedLength at h
  rcases r.size_known with hsize | hsize <;> rw [hsize] <;> omega

theorem stringAt {segments : List Segment} {data : ByteArray} {address start : Nat} {s : List UInt8}
    (hstart : start < 256 ^ r.format.size) (hshort : s.length ≤ maxPointedLength)
    (hheader : InMemory segments data address (r.word start ++ r.word s.length))
    (hstring : InMemory segments data start s) : StringAt r.format segments data address s := by
  refine ⟨⟨r.word start, r.word s.length, r.length_word _, r.length_word _, hheader, ?_, ?_⟩, hshort⟩
  · exact r.decode_word (r.lt_of_short hshort)
  · rwa [r.decode_word hstart]

/-- The header announces the addresses that were written. -/
theorem announces_header (rest : List UInt8) :
    Announces (r.header ++ rest) r.format r.versionAddress r.moduleAddress := by
  have hsize : (UInt8.ofNat r.format.size).toNat = r.format.size := by
    refine toNat_ofNat_of_lt ?_
    rcases r.size_known with h | h <;> omega
  refine ⟨⟨?_, r.size_known⟩, ?_, r.word r.versionAddress, r.word r.moduleAddress,
    List.replicate (16 - 2 * r.format.size) 0 ++ rest, ?_, r.length_word _, r.length_word _,
    r.decode_word r.addresses_fit.1.1, r.decode_word r.addresses_fit.2.1⟩
  · simpa [header, headerMagic] using hsize
  · cases horder : r.format.order <;> simp [header, headerMagic, horder]
  · simp [header, headerMagic]

theorem isInline_header (rest : List UInt8) : isInline ((r.header ++ rest).getD 15 0).toNat = false := by
  cases horder : r.format.order <;> simp [header, headerMagic, horder, isInline]

/-- **A record with pointers is read back** from a file that is laid out as it says. -/
theorem ofBlob_header {segments : List Segment} {data : ByteArray} (h : r.LaidOut segments data) (rest : List UInt8) :
    Record.ofBlob segments data (r.header ++ rest) = .ok ⟨r.version, r.moduleText⟩ := by
  rw [Record.ofBlob, r.isInline_header, if_neg Bool.false_ne_true]
  refine ofPointers_of_pointsTo ⟨r.format, _, _, r.announces_header rest, ?_, ?_⟩
  · exact r.stringAt r.addresses_fit.1.2 r.version_short h.versionHeader h.version
  · exact r.stringAt r.addresses_fit.2.2 r.moduleText_short h.moduleHeader h.moduleText

end PointerRecord

/-! ## One part after the other -/

/-- `bytes` stand in memory from `address` on, all of them in the first loaded segment that holds any of them. -/
structure Mapped (segments : List Segment) (data : ByteArray) (address : Nat) (bytes : List UInt8) : Prop where
  /-- No segment before it holds any of the addresses. -/
  mapped : ∃ before s after, segments = before ++ s :: after ∧
    (∀ q ∈ before, ∀ a, address ≤ a → a < address + bytes.length → ¬Covers q a) ∧ s.type = Segment.load ∧
    s.address ≤ address ∧ address + bytes.length ≤ s.address + s.fileSize ∧
    Bytes.HasAt data (s.offset + (address - s.address)) bytes

namespace Mapped

variable {segments : List Segment} {data : ByteArray} {address : Nat}

theorem inMemory {bytes : List UInt8} (h : Mapped segments data address bytes) (hne : bytes ≠ []) :
    InMemory segments data address bytes := by
  obtain ⟨before, s, after, hsplit, hfirst, htype, hlow, hhigh, hat⟩ := h
  have hpos := List.length_pos_iff.mpr hne
  refine ⟨before, s, after, hsplit, fun q hq => hfirst q hq address (Nat.le_refl _) (by omega), ?_, hhigh, hat⟩
  exact ⟨htype, hlow, by omega⟩

/-- What is mapped splits along the parts of the list. -/
theorem append {l r : List UInt8} (h : Mapped segments data address (l ++ r)) :
    Mapped segments data address l ∧ Mapped segments data (address + l.length) r := by
  obtain ⟨before, s, after, hsplit, hfirst, htype, hlow, hhigh, hat⟩ := h
  rw [List.length_append] at hfirst hhigh
  obtain ⟨hl, hr⟩ := hat.append
  have hoffset : s.offset + (address - s.address) + l.length = s.offset + (address + l.length - s.address) := by omega
  rw [hoffset] at hr
  refine ⟨⟨before, s, after, hsplit, fun q hq a ha ha' => ?_, htype, hlow, by omega, hl⟩,
    ⟨before, s, after, hsplit, fun q hq a ha ha' => ?_, htype, by omega, by omega, hr⟩⟩
  · exact hfirst q hq a ha (by omega)
  · exact hfirst q hq a (by omega) (by omega)

end Mapped

namespace PointerRecord

variable (r : PointerRecord)

/-- The two string headers and the two strings, as they follow the record's header. -/
def tail : List UInt8 :=
  (r.word r.versionStart ++ r.word r.version.length) ++
    ((r.word r.moduleStart ++ r.word r.moduleText.length) ++ (r.version ++ r.moduleText))

/-- The record's header at `address` is followed by both string headers and both strings. -/
structure IsContiguous (address : Nat) : Prop where
  versionAddress : r.versionAddress = address + headerSize
  moduleAddress : r.moduleAddress = r.versionAddress + 2 * r.format.size
  versionStart : r.versionStart = r.moduleAddress + 2 * r.format.size
  moduleStart : r.moduleStart = r.versionStart + r.version.length

theorem length_header : r.header.length = headerSize := by
  have hsize := r.size_known
  simp only [header, headerMagic, headerSize, List.length_append, List.length_cons, List.length_nil, length_word,
    List.length_replicate]
  omega

/-- **A record whose parts follow each other in one segment is laid out as it says.** Its strings have to have bytes:
    no segment need hold the address of an empty one. -/
theorem laidOut_of_mapped {segments : List Segment} {data : ByteArray} {address : Nat} (hplace : r.IsContiguous address)
    (hversion : r.version ≠ []) (htext : r.moduleText ≠ []) (h : Mapped segments data address (r.header ++ r.tail)) :
    r.LaidOut segments data := by
  have hpos : 0 < r.format.size := by
    rcases r.size_known with hsize | hsize <;> omega
  have hne (m n : Nat) : r.word m ++ r.word n ≠ [] := by
    rw [← List.length_pos_iff, List.length_append, length_word, length_word]
    omega
  have htwo (m n : Nat) : (r.word m ++ r.word n).length = 2 * r.format.size := by
    rw [List.length_append, length_word, length_word]
    omega
  -- Each part stands where the one before it ends.
  obtain ⟨-, hstart⟩ := h.append
  obtain ⟨hversionHeader, hrest⟩ := hstart.append
  obtain ⟨hmoduleHeader, hstrings⟩ := hrest.append
  obtain ⟨hname, hmodule⟩ := hstrings.append
  rw [length_header, htwo, ← hplace.versionAddress, ← hplace.moduleAddress] at hmoduleHeader hname hmodule
  rw [htwo, ← hplace.versionStart] at hname hmodule
  rw [← hplace.moduleStart] at hmodule
  rw [length_header, ← hplace.versionAddress] at hversionHeader
  exact ⟨hversionHeader.inMemory (hne _ _), hname.inMemory hversion, hmoduleHeader.inMemory (hne _ _),
    hmodule.inMemory htext⟩

end PointerRecord

/-! ## All cases -/

/-- **What a record with pointers yields.** It yields two strings exactly when they stand where it leads, and each
    fault exactly when the fault is there. So a file that is laid out as a record says yields the strings that it was
    laid out with, for pointers of either size and order. The addresses and sizes of a file are words, and words are
    enough for the reading. -/
theorem ofBlob_pointers (segments : List Segment) (data : ByteArray) (hlength : headerSize ≤ blob.length)
    (hflags : isInline (blob.getD 15 0).toNat = false) :
    (∀ r, Record.ofBlob segments data blob = .ok r ↔ PointsTo segments data blob r) ∧
    (∀ e, Record.ofBlob segments data blob = .error e ↔ PointerFault segments data blob e) ∧
    (∀ (r : PointerRecord) (rest : List UInt8), r.LaidOut segments data →
      Record.ofBlob segments data (r.header ++ rest) = .ok ⟨r.version, r.moduleText⟩) ∧
    ((∀ s ∈ segments, FitsWords s) → data.size < 2 ^ 64 → ∀ address length : UInt64,
      readMemoryInWords (segments.map .ofSegment) data address length =
        .ok (readMemory? segments data address.toNat length.toNat)) ∧
    (∀ o, Object.parse? data = some o → ∀ s ∈ o.segments, FitsWords s) := by
  have hblob : Record.ofBlob segments data blob = Record.ofPointers segments data blob := by
    rw [Record.ofBlob, hflags, if_neg Bool.false_ne_true]
  rw [hblob]
  refine ⟨fun r => ⟨fun h => ?_, ofPointers_of_pointsTo⟩, fun e => ⟨fun h => ?_, ofPointers_of_pointerFault⟩,
    fun r rest h => r.ofBlob_header h rest, fun hwords hdata _ _ => readMemoryInWords_eq hwords hdata,
    fun o h => fitsWords_of_parse? h⟩
  · rcases ofPointers_cases segments data hlength with ⟨r', hr', hpoints⟩ | ⟨e, he, -⟩
    · rw [h] at hr'
      exact Except.ok.inj hr' ▸ hpoints
    · rw [h] at he
      exact absurd he (by simp)
  · rcases ofPointers_cases segments data hlength with ⟨r', hr', -⟩ | ⟨e', he', hfault⟩
    · rw [h] at hr'
      exact absurd hr' (by simp)
    · rw [h] at he'
      exact Except.error.inj he' ▸ hfault

/-- A record of four-byte pointers, the most significant byte first, at address 4096. -/
def bigEndianRecord : PointerRecord where
  format := ⟨4, .big⟩
  size_known := Or.inl rfl
  versionAddress := 4096 + 32
  versionStart := 4096 + 48
  moduleAddress := 4096 + 40
  moduleStart := 4096 + 54
  addresses_fit := by decide
  version := [0x67, 0x6f, 0x31, 0x2e, 0x31, 0x37]
  version_short := by decide
  moduleText := [0x70, 0x0a]
  moduleText_short := by decide

/-- The record of four-byte pointers is read from a file that has it behind four other bytes, past a segment that is
    not loaded; and the strings stand where it leads. -/
theorem ofBlob_pointers_bigEndianRecord :
    let segments : List Segment := [⟨4, 0, 0, 4096, 200, 200⟩, ⟨1, 6, 4, 4096, 56, 56⟩]
    let data := Bytes.ofList ([1, 2, 3, 4] ++ (bigEndianRecord.header ++ bigEndianRecord.tail))
    headerSize ≤ bigEndianRecord.header.length ∧ isInline (bigEndianRecord.header.getD 15 0).toNat = false ∧
      Record.ofBlob segments data bigEndianRecord.header =
        .ok ⟨[0x67, 0x6f, 0x31, 0x2e, 0x31, 0x37], [0x70, 0x0a]⟩ ∧
      PointsTo segments data bigEndianRecord.header ⟨[0x67, 0x6f, 0x31, 0x2e, 0x31, 0x37], [0x70, 0x0a]⟩ := by
  intro segments data
  have hlength : headerSize ≤ bigEndianRecord.header.length := by decide
  have hflags : isInline (bigEndianRecord.header.getD 15 0).toNat = false := by decide
  have hmapped : Mapped segments data 4096 (bigEndianRecord.header ++ bigEndianRecord.tail) := by
    refine ⟨[⟨4, 0, 0, 4096, 200, 200⟩], _, [], rfl, ?_, rfl, by decide, by decide, [1, 2, 3, 4], [],
      by simp [data], rfl⟩
    intro q hq a _ _ hcovers
    rw [List.mem_singleton] at hq
    subst hq
    exact absurd hcovers.1 (by decide)
  have hlaidOut : bigEndianRecord.LaidOut segments data :=
    bigEndianRecord.laidOut_of_mapped ⟨rfl, rfl, rfl, rfl⟩ (by decide) (by decide) hmapped
  obtain ⟨hok, -, hwritten, -⟩ := ofBlob_pointers segments data hlength hflags
  have hread := hwritten bigEndianRecord [] hlaidOut
  rw [List.append_nil] at hread
  exact ⟨hlength, hflags, hread, (hok _).mp hread⟩

end FipsAudit.BuildInfo
