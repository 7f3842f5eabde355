import FipsAudit.Proofs.Text.Utf8

/-!
# `FipsAudit.Proofs.BuildInfo.Checked.Basic` — operations with a range

A machine calculates in words, cuts byte strings at offsets and cuts texts at byte offsets. Each of these operations has
a range, and outside of it the program is stopped. Here they are as operations that say so; the definitions of the
reader itself calculate with numbers and lists, which have no such limits. To show that a reader is never stopped is to
show that it comes to the same with these operations in the place of the unlimited ones.

* `Trap`, `Guarded` — why a program is stopped, and computations that may be.
* `add`, `sub`, `mul`, `shiftLeft` — words of so many bits.
* `byteAt`, `sliceFrom`, `sliceBetween`, `splitAt` — byte strings.
* `textTo`, `textFrom` — texts, cut at byte offsets, which have to be boundaries of characters.
-/

namespace FipsAudit.BuildInfo.Checked

open Text

/-- Why a program is stopped. -/
inductive Trap where
  /-- There is no byte at an index. -/
  | index
  /-- A stretch of bytes does not lie inside. -/
  | slice
  /-- A text is cut inside a character or past its end. -/
  | boundary
  /-- A difference is below zero. -/
  | underflow
  /-- A sum or a product is no word. -/
  | overflow
  /-- A word is shifted by its width or more. -/
  | shift
  /-- A way is taken that the checks before it exclude. -/
  | excluded
  /-- A loop does not get on. -/
  | stuck
deriving DecidableEq, Repr

/-- A computation that stops at the first operation outside its range. -/
abbrev Guarded (α : Type) := Except Trap α

/-- Where every operation is in range, the computation goes on. -/
@[simp] theorem ok_bind {α β : Type} (a : α) (f : α → Guarded β) : ((Except.ok a : Guarded α) >>= f) = f a := rfl

/-- No byte string and no text in memory is as long as this. -/
def memoryLimit : Nat := 2 ^ 63

/-! ## Words -/

section Words

variable (bits a b : Nat)

/-- The sum of two words. -/
def add : Guarded Nat := if a + b < 2 ^ bits then .ok (a + b) else .error .overflow

/-- The sum of two words, if it is one. -/
def add? : Option Nat := if a + b < 2 ^ bits then some (a + b) else none

/-- The difference of two words. -/
def sub : Guarded Nat := if b ≤ a then .ok (a - b) else .error .underflow

/-- The product of two words. -/
def mul : Guarded Nat := if a * b < 2 ^ bits then .ok (a * b) else .error .overflow

/-- The first word shifted to the left by the second; what leaves the word is lost. -/
def shiftLeft : Guarded Nat := if b < bits then .ok ((a <<< b) % 2 ^ bits) else .error .shift

variable {bits a b}

theorem add_of_lt (h : a + b < 2 ^ bits) : add bits a b = .ok (a + b) := if_pos h

theorem sub_of_le (h : b ≤ a) : sub a b = .ok (a - b) := if_pos h

theorem mul_of_lt (h : a * b < 2 ^ bits) : mul bits a b = .ok (a * b) := if_pos h

theorem shiftLeft_of_lt (h : b < bits) (hfits : a <<< b < 2 ^ bits) : shiftLeft bits a b = .ok (a <<< b) := by
  rw [shiftLeft, if_pos h, Nat.mod_eq_of_lt hfits]

end Words

/-! ## Byte strings -/

section Bytes

variable (bytes : List UInt8) (start stop : Nat)

/-- The byte at an index. -/
def byteAt (i : Nat) : Guarded UInt8 :=
  match bytes[i]? with
  | some b => .ok b
  | none => .error .index

/-- The bytes from an offset on. -/
def sliceFrom : Guarded (List UInt8) := if start ≤ bytes.length then .ok (bytes.drop start) else .error .slice

/-- The bytes from an offset on, if it lies inside. -/
def sliceFrom? : Option (List UInt8) := if start ≤ bytes.length then some (bytes.drop start) else none

/-- The bytes from one offset to another. -/
def sliceBetween : Guarded (List UInt8) :=
  if start ≤ stop ∧ stop ≤ bytes.length then .ok ((bytes.drop start).take (stop - start)) else .error .slice

/-- The bytes before and after an offset. -/
def splitAt : Guarded (List UInt8 × List UInt8) :=
  if start ≤ bytes.length then .ok (bytes.take start, bytes.drop start) else .error .slice

variable {bytes start stop}

theorem byteAt_of_lt {i : Nat} (h : i < bytes.length) : byteAt bytes i = .ok (bytes.getD i 0) := by
  rw [byteAt, List.getD_eq_getElem?_getD, List.getElem?_eq_getElem h]
  rfl

theorem sliceFrom_of_le (h : start ≤ bytes.length) : sliceFrom bytes start = .ok (bytes.drop start) := if_pos h

theorem sliceBetween_of_le (h : start ≤ stop) (hstop : stop ≤ bytes.length) :
    sliceBetween bytes start stop = .ok ((bytes.drop start).take (stop - start)) := if_pos ⟨h, hstop⟩

theorem splitAt_of_le (h : start ≤ bytes.length) :
    splitAt bytes start = .ok (bytes.take start, bytes.drop start) := if_pos h

end Bytes

/-! ## Texts -/

/-- The parts of a text before and after a byte offset, if that is a boundary of characters. -/
def cut? : (s : List Char) → (offset : Nat) → Option (List Char × List Char)
  | s, 0 => some ([], s)
  | [], _ + 1 => none
  | c :: s, offset + 1 =>
    if c.utf8Size ≤ offset + 1 then (cut? s (offset + 1 - c.utf8Size)).map fun (before, after) => (c :: before, after)
    else none

/-- The text up to a byte offset. -/
def textTo (s : List Char) (offset : Nat) : Guarded (List Char) :=
  match cut? s offset with
  | some (before, _) => .ok before
  | none => .error .boundary

/-- The text from a byte offset on. -/
def textFrom (s : List Char) (offset : Nat) : Guarded (List Char) :=
  match cut? s offset with
  | some (_, after) => .ok after
  | none => .error .boundary

/-- The end of a part of a text is a boundary. -/
theorem cut?_append (before after : List Char) : cut? (before ++ after) (Utf8.size before) = some (before, after) := by
  induction before with
  | nil => cases after <;> rfl
  | cons c before ih =>
      obtain ⟨offset, hoffset⟩ : ∃ offset, Utf8.size (c :: before) = offset + 1 :=
        Nat.exists_eq_add_one_of_ne_zero (by rw [Utf8.size_cons]; have := c.utf8Size_pos; omega)
      have hrest : offset + 1 - c.utf8Size = Utf8.size before := by
        rw [Utf8.size_cons] at hoffset
        omega
      have hle : c.utf8Size ≤ offset + 1 := by
        rw [Utf8.size_cons] at hoffset
        omega
      rw [hoffset, List.cons_append, cut?, if_pos hle, hrest, ih]
      rfl

theorem textTo_append (before after : List Char) : textTo (before ++ after) (Utf8.size before) = .ok before := by
  rw [textTo, cut?_append]

theorem textFrom_append (before after : List Char) : textFrom (before ++ after) (Utf8.size before) = .ok after := by
  rw [textFrom, cut?_append]

end FipsAudit.BuildInfo.Checked
