import FipsAudit.Bytes
import Mathlib.Algebra.Group.Nat.Defs
import Mathlib.Data.List.Forall2

/-!
# `FipsAudit.Proofs.Bytes` — writing binary data

The readers of `FipsAudit.Bytes` take a file apart by offsets. Here is the other direction: numbers of a fixed width
in either byte order, records of such numbers and tables of records are written as byte lists, and a file is put
together from byte lists. What stands where in a file is a relation, so that nothing has to be computed from the
whole file.

* `ByteOrder.encode`, `ByteOrder.record` — the bytes of a number and of a record, undone by `decode` and `fields`.
* `Bytes.HasAt` — what stands at an offset of a file; it splits along the parts of a list.
* `Bytes.layOut`, `Bytes.starts` — blocks one after the other, each aligned, and where they start.
* `Bytes.HasAt.slice?`, `Bytes.HasAt.records?` — the readers find what stands there.
-/

namespace FipsAudit

/-! ## Numbers -/

theorem toNat_ofNat_of_lt {n : Nat} (h : n < 0x100) : (UInt8.ofNat n).toNat = n := UInt8.toNat_ofNat_of_lt' h

/-- The lowest `width` digits of `n` to base 256, the least significant first. -/
def littleOfNat : (width n : Nat) → List UInt8
  | 0, _ => []
  | width + 1, n => UInt8.ofNat (n % 256) :: littleOfNat width (n / 256)

@[simp] theorem length_littleOfNat (width n : Nat) : (littleOfNat width n).length = width := by
  induction width generalizing n with
  | zero => rfl
  | succ width ih => rw [littleOfNat, List.length_cons, ih]

theorem natOfLittle_littleOfNat {width n : Nat} (h : n < 256 ^ width) : natOfLittle (littleOfNat width n) = n := by
  induction width generalizing n with
  | zero =>
      rw [Nat.pow_zero] at h
      simp only [littleOfNat, natOfLittle]
      omega
  | succ width ih =>
      have hrest : n / 256 < 256 ^ width := by
        rw [Nat.div_lt_iff_lt_mul (by decide)]
        rwa [Nat.pow_succ] at h
      rw [littleOfNat, natOfLittle, ih hrest, toNat_ofNat_of_lt (Nat.mod_lt n (by decide)), Nat.mod_add_div]

namespace ByteOrder

/-- The `width` bytes of `n`. -/
def encode (o : ByteOrder) (width n : Nat) : List UInt8 :=
  match o with
  | .little => littleOfNat width n
  | .big => (littleOfNat width n).reverse

@[simp] theorem length_encode (o : ByteOrder) (width n : Nat) : (o.encode width n).length = width := by
  cases o <;> simp [encode]

/-- **Reading a number undoes writing it**, in either byte order. -/
theorem decode_encode (o : ByteOrder) {width n : Nat} (h : n < 256 ^ width) : o.decode (o.encode width n) = n := by
  cases o <;> simp [encode, decode, natOfLittle_littleOfNat h]

/-! ## Records -/

/-- Numbers of the given widths, one after the other. -/
def record (o : ByteOrder) : (widths values : List Nat) → List UInt8
  | w :: ws, v :: vs => o.encode w v ++ o.record ws vs
  | _, _ => []

/-- Consecutive records. -/
def table (o : ByteOrder) (widths : List Nat) (rows : List (List Nat)) : List UInt8 := rows.flatMap (o.record widths)

end ByteOrder

/-- Each number fits its width, and there are as many numbers as widths. -/
def Fits : (widths values : List Nat) → Prop
  | [], [] => True
  | w :: ws, v :: vs => v < 256 ^ w ∧ Fits ws vs
  | _, _ => False

namespace ByteOrder

theorem length_record (o : ByteOrder) {widths values : List Nat} (h : Fits widths values) :
    (o.record widths values).length = Bytes.recordLength widths := by
  induction widths generalizing values with
  | nil => rfl
  | cons w ws ih =>
      cases values with
      | nil => exact h.elim
      | cons v vs =>
          rw [record, List.length_append, length_encode, ih h.2]
          rfl

/-- **Reading a record undoes writing it.** -/
theorem fields_record (o : ByteOrder) {widths values : List Nat} (h : Fits widths values) :
    o.fields widths (o.record widths values) = values := by
  induction widths generalizing values with
  | nil =>
      cases values with
      | nil => rfl
      | cons v vs => exact h.elim
  | cons w ws ih =>
      cases values with
      | nil => exact h.elim
      | cons v vs =>
          rw [record, fields, List.take_left' (length_encode o w v), List.drop_left' (length_encode o w v),
            decode_encode o h.1, ih h.2]

end ByteOrder

/-! ## What stands where -/

namespace Bytes

/-- The file that consists of `bytes`. -/
def ofList (bytes : List UInt8) : ByteArray := ⟨bytes.toArray⟩

@[simp] theorem toList_ofList (bytes : List UInt8) : toList (ofList bytes) = bytes := rfl

@[simp] theorem length_toList (data : ByteArray) : (toList data).length = data.size := rfl

/-- `bytes` stand at `offset`. -/
def HasAt (data : ByteArray) (offset : Nat) (bytes : List UInt8) : Prop :=
  ∃ before after, toList data = before ++ bytes ++ after ∧ before.length = offset

variable {data : ByteArray} {offset : Nat} {bytes : List UInt8}

/-- A slice is what stands there. -/
theorem slice?_eq_some_iff_hasAt {length : Nat} :
    slice? data offset length = some bytes ↔ HasAt data offset bytes ∧ bytes.length = length := by
  rw [slice?_eq_some_iff]
  constructor
  · rintro ⟨hfit, rfl⟩
    rw [← length_toList] at hfit
    have hlength : (((toList data).drop offset).take length).length = length := by
      rw [List.length_take, List.length_drop]
      omega
    refine ⟨⟨(toList data).take offset, (toList data).drop (offset + length), ?_, ?_⟩, hlength⟩
    · rw [List.append_assoc, ← List.drop_drop, List.take_append_drop, List.take_append_drop]
    · rw [List.length_take]
      omega
  · rintro ⟨⟨before, after, hdata, rfl⟩, rfl⟩
    rw [← length_toList, hdata]
    refine ⟨by simp only [List.length_append]; omega, ?_⟩
    rw [List.append_assoc, List.drop_left, List.take_left]

namespace HasAt

theorem slice? (h : HasAt data offset bytes) : Bytes.slice? data offset bytes.length = some bytes :=
  slice?_eq_some_iff_hasAt.mpr ⟨h, rfl⟩

/-- What stands in a file ends in it. -/
theorem le_size (h : HasAt data offset bytes) : offset + bytes.length ≤ data.size := (slice?_eq_some_iff.mp h.slice?).1

theorem holds (h : HasAt data offset bytes) : Bytes.holds data offset bytes.length = true := decide_eq_true h.le_size

/-- The part of the file as an array of its own. -/
theorem part? (h : HasAt data offset bytes) : Bytes.part? data offset bytes.length = some (ofList bytes) := by
  have hslice := h.slice?
  rw [Bytes.slice?, Option.map_eq_some_iff] at hslice
  obtain ⟨part, hpart, rfl⟩ := hslice
  exact hpart

/-- The bytes up to a zero byte. -/
theorem upToZero (h : HasAt data offset (bytes ++ [0])) (hbytes : 0 ∉ bytes) : Bytes.upToZero data offset = bytes := by
  obtain ⟨before, after, hdata, rfl⟩ := h
  have hall : ∀ b ∈ bytes, decide (b ≠ 0) = true := fun b hb => decide_eq_true fun hzero => hbytes (hzero ▸ hb)
  rw [upToZero_eq, hdata, List.append_assoc, List.drop_left, List.append_assoc, List.takeWhile_append_of_pos hall]
  simp

/-- What stands at an offset splits along the parts of the list. -/
theorem append {l r : List UInt8} (h : HasAt data offset (l ++ r)) :
    HasAt data offset l ∧ HasAt data (offset + l.length) r := by
  obtain ⟨before, after, hdata, rfl⟩ := h
  refine ⟨⟨before, r ++ after, by rw [hdata]; simp, rfl⟩, before ++ l, after, by rw [hdata]; simp, by simp⟩

theorem number? {o : ByteOrder} {width n : Nat} (h : HasAt data offset (o.encode width n)) (hn : n < 256 ^ width) :
    Bytes.number? o width data offset = some n := by
  have hslice := h.slice?
  rw [ByteOrder.length_encode] at hslice
  rw [Bytes.number?, hslice, Option.map_some, o.decode_encode hn]

theorem record? {o : ByteOrder} {widths values : List Nat} (h : HasAt data offset (o.record widths values))
    (hfits : Fits widths values) : Bytes.record? o widths data offset = some values := by
  have hslice := h.slice?
  rw [o.length_record hfits] at hslice
  rw [Bytes.record?, hslice, Option.map_some, o.fields_record hfits]

end HasAt

/-! ## Blocks -/

/-- The least multiple of `unit` that is not below `n`. -/
def alignUp (unit n : Nat) : Nat := (n + (unit - 1)) / unit * unit

theorem le_alignUp {unit : Nat} (hunit : 0 < unit) (n : Nat) : n ≤ alignUp unit n := by
  have hmod := Nat.mod_lt (n + (unit - 1)) hunit
  have hdiv := Nat.mod_add_div (n + (unit - 1)) unit
  rw [Nat.mul_comm] at hdiv
  unfold alignUp
  omega

@[simp] theorem alignUp_one (n : Nat) : alignUp 1 n = n := by simp [alignUp]

/-- Where blocks of the given lengths start that follow each other from `offset` on, each at a multiple of `unit`. -/
def starts (unit : Nat) : (offset : Nat) → (lengths : List Nat) → List Nat
  | _, [] => []
  | offset, length :: lengths => alignUp unit offset :: starts unit (alignUp unit offset + length) lengths

/-- Such blocks, with zeros in the gaps between them. -/
def layOut (unit : Nat) : (offset : Nat) → (blocks : List (List UInt8)) → List UInt8
  | _, [] => []
  | offset, block :: blocks =>
    List.replicate (alignUp unit offset - offset) 0 ++
      (block ++ layOut unit (alignUp unit offset + block.length) blocks)

@[simp] theorem length_starts (unit offset : Nat) (lengths : List Nat) :
    (starts unit offset lengths).length = lengths.length := by
  induction lengths generalizing offset with
  | nil => rfl
  | cons length lengths ih => rw [starts, List.length_cons, ih, List.length_cons]

/-- Without gaps. -/
theorem layOut_one (offset : Nat) (blocks : List (List UInt8)) : layOut 1 offset blocks = blocks.flatten := by
  induction blocks generalizing offset with
  | nil => rfl
  | cons block blocks ih =>
      rw [layOut, ih, alignUp_one, Nat.sub_self, List.replicate_zero, List.nil_append, List.flatten_cons]

theorem le_of_mem_starts {unit start : Nat} (hunit : 0 < unit) {blocks : List (List UInt8)}
    (h : start ∈ starts unit offset (blocks.map List.length)) :
    start ≤ offset + (layOut unit offset blocks).length := by
  induction blocks generalizing offset with
  | nil => exact absurd h List.not_mem_nil
  | cons block blocks ih =>
      have hle := le_alignUp hunit offset
      rw [layOut, List.length_append, List.length_replicate, List.length_append]
      rcases List.mem_cons.mp h with rfl | hrest
      · omega
      · have hbound := ih hrest
        omega

/-- **Blocks that are laid out stand where they start.** -/
theorem HasAt.layOut {unit : Nat} (hunit : 0 < unit) {blocks : List (List UInt8)}
    (h : HasAt data offset (Bytes.layOut unit offset blocks)) :
    List.Forall₂ (HasAt data) (starts unit offset (blocks.map List.length)) blocks := by
  induction blocks generalizing offset with
  | nil => exact .nil
  | cons block blocks ih =>
      obtain ⟨-, hblocks⟩ := h.append
      rw [List.length_replicate, Nat.add_sub_cancel' (le_alignUp hunit offset)] at hblocks
      obtain ⟨hblock, hrest⟩ := hblocks.append
      exact .cons hblock (ih hrest)

/-! ## Tables -/

/-- Looking up each index in turn gives the list. -/
theorem mapM_range_eq_some {α : Type} {f : Nat → Option α} {l : List α}
    (h : ∀ i (hi : i < l.length), f i = some l[i]) : (List.range l.length).mapM f = some l := by
  induction l generalizing f with
  | nil => rfl
  | cons a l ih =>
      have hhead : f 0 = some a := h 0 (Nat.zero_lt_succ _)
      have htail : (List.range l.length).mapM (f ∘ Nat.succ) = some l :=
        ih fun i hi => h (i + 1) (Nat.succ_lt_succ hi)
      rw [List.length_cons, List.range_succ_eq_map, List.mapM_cons, List.mapM_map, hhead, htail]
      rfl

theorem length_table {o : ByteOrder} {widths : List Nat} {rows : List (List Nat)} (h : ∀ row ∈ rows, Fits widths row) :
    (o.table widths rows).length = rows.length * recordLength widths := by
  induction rows with
  | nil => simp [ByteOrder.table]
  | cons row rows ih =>
      rw [ByteOrder.table, List.flatMap_cons, List.length_append, o.length_record (h row List.mem_cons_self)]
      have hrest := ih fun r hr => h r (List.mem_cons_of_mem row hr)
      rw [ByteOrder.table] at hrest
      rw [hrest, List.length_cons, Nat.succ_mul, Nat.add_comm]

/-- Each record of a table stands where its index says. -/
theorem HasAt.row {o : ByteOrder} {widths : List Nat} {rows : List (List Nat)}
    (h : HasAt data offset (o.table widths rows)) (hfits : ∀ row ∈ rows, Fits widths row) {i : Nat} (hi : i < rows.length) :
    HasAt data (offset + i * recordLength widths) (o.record widths rows[i]) := by
  induction rows generalizing offset i with
  | nil => exact absurd hi (Nat.not_lt_zero i)
  | cons row rows ih =>
      obtain ⟨hhead, htail⟩ := h.append
      cases i with
      | zero => simpa using hhead
      | succ i =>
          rw [o.length_record (hfits row List.mem_cons_self)] at htail
          have hrow := ih htail (fun r hr => hfits r (List.mem_cons_of_mem row hr)) (Nat.lt_of_succ_lt_succ hi)
          rwa [Nat.succ_mul, Nat.add_comm (i * _), ← Nat.add_assoc]

/-- **Reading a table undoes writing it.** -/
theorem HasAt.records? {o : ByteOrder} {widths : List Nat} {rows : List (List Nat)}
    (h : HasAt data offset (o.table widths rows)) (hfits : ∀ row ∈ rows, Fits widths row) :
    Bytes.records? o widths data offset rows.length = some rows := by
  have hholds := h.holds
  rw [length_table hfits] at hholds
  rw [Bytes.records?, if_pos (Or.inr hholds)]
  exact mapM_range_eq_some fun i hi => (h.row hfits hi).record? (hfits _ (List.getElem_mem hi))

end Bytes

end FipsAudit
