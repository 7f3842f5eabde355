import FipsAudit.Proofs.BuildInfo.Checked.Region
import FipsAudit.Proofs.BuildInfo.Uvarint
import FipsAudit.Proofs.BuildInfo.Words

/-!
# `FipsAudit.Proofs.BuildInfo.Checked.Record` — reading the record, step by step

The strings of a record follow its header, each after its length, or they lie behind pointers. A length is put together
from groups of seven bits, and the tenth group has one bit left. The bytes of the header are taken by their index, and
what is behind a pointer is found with differences of words. The header is whole, so every index and every slice of it
is inside; what the lengths and the pointers say is compared before it is used.

* `readFrom_eq`, `takeString_eq` — lengths, and strings after them.
* `pointedString_eq` — strings behind pointers.
* `ofBlob_eq` — the record, in range.
* `length_moduleText_le` — the module text of a record is no longer than the limits allow.
-/

namespace FipsAudit.BuildInfo.Checked

open Elf

/-! ## Lengths -/

/-- Reads on after `index` bytes that gave `value`. -/
def readFrom (index value : Nat) : List UInt8 → Guarded (Option (Nat × Nat))
  | [] => return none
  | b :: r =>
    if index ≥ Uvarint.maxBytes then return none
    else if index = 9 ∧ b.toNat > 1 then return none
    else do
      let group ← shiftLeft 64 (b &&& 0x7f).toNat (← mul 64 7 index)
      let value := value ||| group
      if b &&& 0x80 = 0 then return some (value, ← add 64 index 1) else readFrom (index + 1) value r

/-- The low seven bits of a byte. -/
theorem toNat_and_low (b : UInt8) : (b &&& 0x7f).toNat = b.toNat % 128 := by
  rw [UInt8.toNat_and]
  exact Nat.and_two_pow_sub_one_eq_mod b.toNat 7

/-- The high bit of a byte. -/
theorem and_high_eq_zero_iff (b : UInt8) : b &&& 0x80 = 0 ↔ b.toNat < 128 := by
  have hbits : ∀ n < 256, n &&& 128 = 0 ↔ n < 128 := by decide +kernel
  rw [← UInt8.toNat_inj, UInt8.toNat_and]
  exact hbits b.toNat b.toNat_lt

/-- The tenth group has one bit left of a word, and the groups before it have all of theirs. -/
theorem group_lt {b : UInt8} {index : Nat} (hindex : index ≤ 9) (htenth : ¬(index = 9 ∧ b.toNat > 1)) :
    (b.toNat % 128) <<< (7 * index) < 2 ^ 64 := by
  rw [Nat.shiftLeft_eq]
  rcases Nat.lt_or_eq_of_le hindex with hlt | rfl
  · have hpow : 2 ^ (7 * index) ≤ 2 ^ 56 := Nat.pow_le_pow_right (by decide) (by omega)
    calc b.toNat % 128 * 2 ^ (7 * index) ≤ 127 * 2 ^ 56 := Nat.mul_le_mul (by omega) hpow
      _ < 2 ^ 64 := by decide
  · calc b.toNat % 128 * 2 ^ (7 * 9) ≤ 1 * 2 ^ (7 * 9) := Nat.mul_le_mul_right _ (by omega)
      _ < 2 ^ 64 := by decide

/-- With one more group a number has seven bits more. -/
theorem add_group_lt {index value : Nat} (b : UInt8) (hvalue : value < 2 ^ (7 * index)) :
    value + (b.toNat % 128) <<< (7 * index) < 2 ^ (7 * (index + 1)) := by
  have hpow : 2 ^ (7 * (index + 1)) = 128 * 2 ^ (7 * index) := by rw [Nat.mul_add, Nat.pow_add, Nat.mul_comm]
  have hgroup : b.toNat % 128 * 2 ^ (7 * index) ≤ 127 * 2 ^ (7 * index) := Nat.mul_le_mul_right _ (by omega)
  rw [Nat.shiftLeft_eq, hpow]
  omega

/-- **A length is read in range**: no shift is by sixty-four or more, and no bit is lost. -/
theorem readFrom_eq {index value : Nat} (bytes : List UInt8) (hvalue : value < 2 ^ (7 * index)) :
    readFrom index value bytes = .ok (Uvarint.readFrom index value bytes) := by
  induction bytes generalizing index value with
  | nil => rfl
  | cons b r ih =>
      rw [readFrom, Uvarint.readFrom]
      unfold Uvarint.maxBytes
      by_cases hindex : index ≥ 10
      · rw [if_pos hindex, if_pos hindex]
        rfl
      · rw [if_neg hindex, if_neg hindex]
        have hlast : (index + 1 = 10 ∧ b.toNat > 1) ↔ (index = 9 ∧ b.toNat > 1) := by omega
        by_cases htenth : index = 9 ∧ b.toNat > 1
        · rw [if_pos htenth, if_pos (hlast.mpr htenth)]
          rfl
        · rw [if_neg htenth, if_neg (mt hlast.mp htenth)]
          have hgroup := group_lt (by omega : index ≤ 9) htenth
          have hnext := add_group_lt b hvalue
          have hor : value ||| (b.toNat % 128) <<< (7 * index) = value + (b.toNat % 128) <<< (7 * index) := by
            rw [Nat.or_comm, ← Nat.shiftLeft_add_eq_or_of_lt hvalue, Nat.add_comm]
          rw [toNat_and_low, mul_of_lt (by omega), ok_bind, shiftLeft_of_lt (by omega) hgroup, ok_bind, hor]
          by_cases hhigh : b &&& 0x80 = 0
          · rw [if_pos hhigh, add_of_lt (by omega), ok_bind]
            simp only [(and_high_eq_zero_iff b).mp hhigh, if_true]
            rfl
          · rw [if_neg hhigh, ih hnext]
            simp only [mt (and_high_eq_zero_iff b).mpr hhigh, if_false]

/-- The bytes of a length-prefixed string, and what follows it. -/
def takeString (bytes : List UInt8) : Guarded (Option (List UInt8 × List UInt8)) := do
  match ← readFrom 0 0 bytes with
  | none => return none
  | some (length, consumed) =>
    let rest ← sliceFrom bytes consumed
    if length > rest.length then return none else return some (← splitAt rest length)

/-- **A string after its length is taken in range.** -/
theorem takeString_eq (bytes : List UInt8) : takeString bytes = .ok (Uvarint.takeString bytes) := by
  rw [takeString, Uvarint.takeString, readFrom_eq bytes (by decide), ok_bind, ← Uvarint.read]
  cases hread : Uvarint.read bytes with
  | none => rfl
  | some number =>
      obtain ⟨length, consumed⟩ := number
      have hconsumed := (Uvarint.readFrom_append hread []).1
      dsimp only
      rw [sliceFrom_of_le (by omega), ok_bind]
      by_cases hlength : length > (bytes.drop consumed).length
      · rw [if_pos hlength, if_neg (Nat.not_le_of_gt hlength)]
        rfl
      · rw [if_neg hlength, if_pos (Nat.le_of_not_gt hlength), splitAt_of_le (Nat.le_of_not_gt hlength), ok_bind]
        rfl

/-- The strings that follow the header. -/
def ofInline (blob : List UInt8) : Guarded (Except Malformed Record) := do
  match ← takeString (← sliceFrom blob headerSize) with
  | none => return .error .truncatedVersion
  | some (version, rest) =>
    match ← takeString rest with
    | none => return .error .truncatedModuleText
    | some (moduleText, _) => return .ok { version, moduleText }

theorem ofInline_eq {blob : List UInt8} (hblob : headerSize ≤ blob.length) :
    ofInline blob = .ok (Record.ofInline blob) := by
  rw [ofInline, Record.ofInline, sliceFrom_of_le hblob, ok_bind, takeString_eq, ok_bind]
  cases Uvarint.takeString (blob.drop headerSize) with
  | none => rfl
  | some strings =>
      obtain ⟨version, rest⟩ := strings
      dsimp only
      rw [takeString_eq, ok_bind]
      cases Uvarint.takeString rest with
      | none => rfl
      | some strings => rfl

/-! ## Pointers -/

/-- The pointer at the front of `bytes`. -/
def readPointer (f : PointerFormat) (bytes : List UInt8) : Option Nat :=
  if f.size ≤ bytes.length ∧ (f.size = 4 ∨ f.size = 8) then some (f.order.decode (bytes.take f.size)) else none

/-- The file's bytes for `length` bytes of memory from `address`, with differences of words. -/
def readMemory (segments : List Segment) (data : ByteArray) (address length : Nat) :
    Guarded (Option (List UInt8)) :=
  (readMemoryInWords (segments.map .ofSegment) data (.ofNat address) (.ofNat length)).mapError fun
    | .negative => .underflow

/-- The string whose header is at `address`. -/
def pointedString (f : PointerFormat) (segments : List Segment) (data : ByteArray) (address : Nat) :
    Guarded (Option (List UInt8)) := do
  match ← readMemory segments data address (← mul 64 2 f.size) with
  | none => return none
  | some header =>
    match readPointer f header with
    | none => return none
    | some start =>
      match readPointer f (← sliceFrom header f.size) with
      | none => return none
      | some length => if length > maxPointedLength then return none else readMemory segments data start length

/-- The strings behind the pointers of the header, which are written in this way. -/
def followPointers (f : PointerFormat) (segments : List Segment) (data : ByteArray) (blob : List UInt8) :
    Guarded (Except Malformed Record) := do
  match readPointer f (← sliceFrom blob 16) with
  | none => .error .excluded
  | some versionAddress =>
    match readPointer f (← sliceFrom blob (← add 64 16 f.size)) with
    | none => .error .excluded
    | some moduleAddress =>
      match ← pointedString f segments data versionAddress with
      | none => return .error (.unreadableVersion versionAddress)
      | some version =>
        match ← pointedString f segments data moduleAddress with
        | none => return .error (.unreadableModuleText moduleAddress)
        | some moduleText => return .ok { version, moduleText }

/-- The strings behind the pointers of the header. -/
def ofPointers (segments : List Segment) (data : ByteArray) (blob : List UInt8) :
    Guarded (Except Malformed Record) := do
  let size := (← byteAt blob 14).toNat
  if size ≠ 4 ∧ size ≠ 8 then return .error (.pointerSize size)
  else
    let order := if (← byteAt blob 15) = 0 then ByteOrder.little else .big
    followPointers { size, order } segments data blob

/-- The two strings of a record whose header begins `blob`. -/
def ofBlob (segments : List Segment) (data : ByteArray) (blob : List UInt8) : Guarded (Except Malformed Record) := do
  if isInline (← byteAt blob 15).toNat then ofInline blob else ofPointers segments data blob

section Pointers

variable {f : PointerFormat} {segments : List Segment} {data : ByteArray} {blob bytes : List UInt8} {address : Nat}

theorem readPointer_of_le (hsize : f.size = 4 ∨ f.size = 8) (hlength : f.size ≤ bytes.length) :
    readPointer f bytes = some (f.order.decode (bytes.take f.size)) := if_pos ⟨hlength, hsize⟩

/-- A pointer of eight bytes or less is a word. -/
theorem decode_take_lt (hsize : f.size = 4 ∨ f.size = 8) (bytes : List UInt8) :
    f.order.decode (bytes.take f.size) < 2 ^ 64 := by
  refine Nat.lt_of_lt_of_le (f.order.decode_lt _) ?_
  rw [Nat.one_shiftLeft]
  refine Nat.pow_le_pow_right (by decide) ?_
  rw [List.length_take]
  omega

/-- Memory is read without a difference below zero. -/
theorem readMemory_eq (hsegments : ∀ s ∈ segments, FitsWords s) (hdata : data.size < memoryLimit) {length : Nat}
    (haddress : address < 2 ^ 64) (hlength : length < 2 ^ 64) :
    readMemory segments data address length = .ok (readMemory? segments data address length) := by
  have hfile : data.size < 2 ^ 64 := Nat.lt_trans hdata (by decide)
  rw [readMemory, readMemoryInWords_eq hsegments hfile, UInt64.toNat_ofNat_of_lt' haddress,
    UInt64.toNat_ofNat_of_lt' hlength]
  rfl

/-- What is read of memory is as long as it should be. -/
theorem length_readMemory? {length : Nat} (h : readMemory? segments data address length = some bytes) :
    bytes.length = length := by
  unfold readMemory? at h
  split at h
  · cases h
  · dsimp only at h
    split at h
    · cases h
    · obtain ⟨hinside, rfl⟩ := Bytes.slice?_eq_some_iff.mp h
      rw [List.length_take, List.length_drop]
      have hlength : (Bytes.toList data).length = data.size := rfl
      omega

/-- **A string behind a pointer is read in range.** -/
theorem pointedString_eq (hsegments : ∀ s ∈ segments, FitsWords s) (hdata : data.size < memoryLimit)
    (hsize : f.size = 4 ∨ f.size = 8) (haddress : address < 2 ^ 64) :
    pointedString f segments data address = .ok (pointedString? f segments data address) := by
  have htwice : 2 * f.size < 2 ^ 64 := by omega
  rw [pointedString, pointedString?, mul_of_lt htwice, ok_bind, readMemory_eq hsegments hdata haddress htwice, ok_bind]
  cases hheader : readMemory? segments data address (2 * f.size) with
  | none => rfl
  | some header =>
      have hlength := length_readMemory? hheader
      have hrest : (header.drop f.size).length = f.size := by
        rw [List.length_drop]
        omega
      dsimp only
      -- The string header is two pointers long, so both are whole.
      rw [readPointer_of_le hsize (by omega)]
      dsimp only
      rw [sliceFrom_of_le (by omega), ok_bind, readPointer_of_le hsize (by omega)]
      have hwhole : (header.drop f.size).take f.size = header.drop f.size := List.take_of_length_le (by omega)
      have hlengthWord := decode_take_lt hsize (header.drop f.size)
      rw [hwhole] at hlengthWord ⊢
      dsimp only
      split
      · rfl
      · exact readMemory_eq hsegments hdata (decode_take_lt hsize header) hlengthWord

/-- **The pointers of a header are followed in range**, and the header holds both of them. -/
theorem followPointers_eq (hsegments : ∀ s ∈ segments, FitsWords s) (hdata : data.size < memoryLimit)
    (hblob : headerSize ≤ blob.length) (hsize : f.size = 4 ∨ f.size = 8) :
    followPointers f segments data blob = .ok (
      match pointedString? f segments data (f.order.decode ((blob.drop 16).take f.size)) with
      | none => .error (.unreadableVersion (f.order.decode ((blob.drop 16).take f.size)))
      | some version =>
        match pointedString? f segments data (f.order.decode ((blob.drop (16 + f.size)).take f.size)) with
        | none => .error (.unreadableModuleText (f.order.decode ((blob.drop (16 + f.size)).take f.size)))
        | some moduleText => .ok { version, moduleText }) := by
  unfold headerSize at hblob
  have hfirst : f.size ≤ (blob.drop 16).length := by
    rw [List.length_drop]
    omega
  have hsecond : f.size ≤ (blob.drop (16 + f.size)).length := by
    rw [List.length_drop]
    omega
  rw [followPointers, sliceFrom_of_le (by omega), ok_bind, readPointer_of_le hsize hfirst]
  dsimp only
  rw [add_of_lt (by omega), ok_bind, sliceFrom_of_le (by omega), ok_bind, readPointer_of_le hsize hsecond]
  dsimp only
  rw [pointedString_eq hsegments hdata hsize (decode_take_lt hsize _), ok_bind]
  cases pointedString? f segments data (f.order.decode ((blob.drop 16).take f.size)) with
  | none => rfl
  | some version =>
      dsimp only
      rw [pointedString_eq hsegments hdata hsize (decode_take_lt hsize _), ok_bind]
      cases pointedString? f segments data (f.order.decode ((blob.drop (16 + f.size)).take f.size)) <;> rfl

theorem ofPointers_eq (hsegments : ∀ s ∈ segments, FitsWords s) (hdata : data.size < memoryLimit)
    (hblob : headerSize ≤ blob.length) :
    ofPointers segments data blob = .ok (Record.ofPointers segments data blob) := by
  have hfourteen : 14 < blob.length := Nat.lt_of_lt_of_le (by decide) hblob
  have hfifteen : 15 < blob.length := Nat.lt_of_lt_of_le (by decide) hblob
  rw [ofPointers, Record.ofPointers, byteAt_of_lt hfourteen, ok_bind]
  by_cases hsize : (blob.getD 14 0).toNat ≠ 4 ∧ (blob.getD 14 0).toNat ≠ 8
  · rw [if_pos hsize, if_pos hsize]
    rfl
  · rw [if_neg hsize, if_neg hsize, byteAt_of_lt hfifteen, ok_bind]
    have hknown : (blob.getD 14 0).toNat = 4 ∨ (blob.getD 14 0).toNat = 8 := by omega
    exact followPointers_eq hsegments hdata hblob hknown

/-- **A record is read in range.** -/
theorem ofBlob_eq (hsegments : ∀ s ∈ segments, FitsWords s) (hdata : data.size < memoryLimit)
    (hblob : headerSize ≤ blob.length) : ofBlob segments data blob = .ok (Record.ofBlob segments data blob) := by
  have hfifteen : 15 < blob.length := Nat.lt_of_lt_of_le (by decide) hblob
  rw [ofBlob, Record.ofBlob, byteAt_of_lt hfifteen, ok_bind]
  split
  · exact ofInline_eq hblob
  · exact ofPointers_eq hsegments hdata hblob

/-! ## The length of the module text -/

theorem length_takeString_le {s rest : List UInt8} (h : Uvarint.takeString bytes = some (s, rest)) :
    s.length + rest.length ≤ bytes.length := by
  unfold Uvarint.takeString at h
  split at h
  · cases h
  · dsimp only at h
    split at h
    · obtain ⟨rfl, rfl⟩ := Prod.mk.inj (Option.some.inj h)
      simp only [List.length_take, List.length_drop]
      omega
    · cases h

theorem length_pointedString?_le (h : pointedString? f segments data address = some bytes) :
    bytes.length ≤ maxPointedLength := by
  unfold pointedString? at h
  split at h
  · cases h
  · dsimp only at h
    split at h
    · cases h
    · next hshort =>
        rw [length_readMemory? h]
        exact Nat.le_of_not_gt hshort

/-- **The module text of a record is no longer than the limits allow.** -/
theorem length_moduleText_le {r : Record} (hblob : blob.length ≤ regionLimit)
    (h : Record.ofBlob segments data blob = .ok r) : r.moduleText.length ≤ maxPointedLength := by
  unfold Record.ofBlob at h
  split at h
  · unfold Record.ofInline at h
    split at h
    · cases h
    · next version rest hversion =>
        split at h
        · cases h
        · next moduleText after hmoduleText =>
            obtain rfl := Except.ok.inj h
            have hfirst := length_takeString_le hversion
            have hsecond := length_takeString_le hmoduleText
            rw [List.length_drop] at hfirst
            unfold regionLimit at hblob
            unfold maxPointedLength
            dsimp only
            omega
  · unfold Record.ofPointers at h
    dsimp only at h
    split at h
    · cases h
    · split at h
      · cases h
      · split at h
        · cases h
        · next hmoduleText =>
            obtain rfl := Except.ok.inj h
            exact length_pointedString?_le hmoduleText

end Pointers

end FipsAudit.BuildInfo.Checked
