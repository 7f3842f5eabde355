/-!
# `FipsAudit.Bytes` — reading binary data

A file is an array of bytes; what is read from it are slices and fixed-width numbers in either byte order. A
read that does not lie wholly inside the data yields nothing.

* `part?`, `slice?` — the bytes of a range, as an array or as a list.
* `upToZero` — the bytes before the next zero byte.
* `ByteOrder.decode` — the number that a list of bytes stands for.
* `number?` — a number of `width` bytes at `offset`.
* `Bytes.record?` — consecutive numbers of given widths, as in a record of a file format.
-/

namespace FipsAudit

/-- Which byte of a number comes first. -/
inductive ByteOrder where
  /-- The least significant byte. -/
  | little
  /-- The most significant byte. -/
  | big
deriving DecidableEq, Repr

/-- The number whose digits to base 256 are `bytes`, the least significant first. -/
def natOfLittle : List UInt8 → Nat
  | [] => 0
  | b :: r => b.toNat + 256 * natOfLittle r

theorem natOfLittle_lt (bytes : List UInt8) : natOfLittle bytes < 1 <<< (8 * bytes.length) := by
  induction bytes with
  | nil => simp [natOfLittle]
  | cons b r ih =>
      have hb := b.toNat_lt
      have hp : 1 <<< (8 * (r.length + 1)) = 256 * 1 <<< (8 * r.length) := by
        rw [Nat.mul_add, Nat.shiftLeft_add, Nat.shiftLeft_eq _ (8 * 1), Nat.mul_comm]
      simp only [natOfLittle, List.length_cons, hp]
      omega

/-- The number that `bytes` stand for. -/
def ByteOrder.decode (o : ByteOrder) (bytes : List UInt8) : Nat :=
  match o with
  | .little => natOfLittle bytes
  | .big => natOfLittle bytes.reverse

theorem ByteOrder.decode_lt (o : ByteOrder) (bytes : List UInt8) : o.decode bytes < 1 <<< (8 * bytes.length) := by
  cases o with
  | little => exact natOfLittle_lt bytes
  | big => simpa [decode] using natOfLittle_lt bytes.reverse

namespace Bytes

/-- The bytes of the data as a list. -/
def toList (data : ByteArray) : List UInt8 := data.data.toList

/-- The part of the data of the given length from `offset`. -/
def part? (data : ByteArray) (offset length : Nat) : Option ByteArray :=
  if offset + length ≤ data.size then some (data.extract offset (offset + length)) else none

/-- `length` bytes from `offset`. -/
def slice? (data : ByteArray) (offset length : Nat) : Option (List UInt8) :=
  (part? data offset length).map toList

theorem slice?_eq_some_iff {data : ByteArray} {offset length : Nat} {l : List UInt8} :
    slice? data offset length = some l ↔
      offset + length ≤ data.size ∧ l = ((toList data).drop offset).take length := by
  unfold slice? part?
  split
  · rename_i h
    simp [h, toList, ByteArray.data_extract, Array.toList_extract, eq_comm]
  · rename_i h
    simp [h]

/-- The bytes from `offset` up to the next zero byte or the end. -/
def upToZero (data : ByteArray) (offset : Nat) : List UInt8 :=
  if h : offset < data.size then
    if data[offset] = 0 then [] else data[offset] :: upToZero data (offset + 1)
  else []
termination_by data.size - offset

theorem getElem?_toList (data : ByteArray) (i : Nat) (h : i < data.size) : (toList data)[i]? = some data[i] := by
  simp [toList, h]
  rfl

theorem upToZero_eq (data : ByteArray) (offset : Nat) :
    upToZero data offset = ((toList data).drop offset).takeWhile (· ≠ 0) := by
  fun_induction upToZero data offset with
  | case1 i h hz =>
      rw [List.drop_eq_getElem?_toList_append, getElem?_toList data i h]
      simp [hz]
  | case2 i h hz ih =>
      rw [List.drop_eq_getElem?_toList_append, getElem?_toList data i h]
      simp [hz, ih]
  | case3 i h =>
      rw [List.drop_eq_nil_of_le (by simpa [toList] using h)]
      rfl

/-- Whether `length` bytes from `offset` lie inside the data. -/
def holds (data : ByteArray) (offset length : Nat) : Bool := offset + length ≤ data.size

/-- The number of `width` bytes at `offset`. -/
def number? (o : ByteOrder) (width : Nat) (data : ByteArray) (offset : Nat) : Option Nat :=
  (slice? data offset width).map o.decode

end Bytes

/-- Numbers of the given widths, one after the other; widths that the bytes do not reach read as zero. -/
def ByteOrder.fields (o : ByteOrder) : List Nat → List UInt8 → List Nat
  | [], _ => []
  | w :: ws, bytes => o.decode (bytes.take w) :: o.fields ws (bytes.drop w)

/-- The length of a record of numbers with the given widths. -/
def Bytes.recordLength (widths : List Nat) : Nat := widths.foldr (· + ·) 0

/-- A record of numbers with the given widths at `offset`. -/
def Bytes.record? (o : ByteOrder) (widths : List Nat) (data : ByteArray) (offset : Nat) : Option (List Nat) :=
  (Bytes.slice? data offset (recordLength widths)).map (o.fields widths)

/-- `count` records of numbers with the given widths, one after the other from `offset`. -/
def Bytes.records? (o : ByteOrder) (widths : List Nat) (data : ByteArray) (offset count : Nat) :
    Option (List (List Nat)) :=
  if count = 0 ∨ Bytes.holds data offset (count * recordLength widths) then
    (List.range count).mapM fun i => Bytes.record? o widths data (offset + i * recordLength widths)
  else none

end FipsAudit
