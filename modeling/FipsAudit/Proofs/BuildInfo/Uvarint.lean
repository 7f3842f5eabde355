import FipsAudit.BuildInfo.Uvarint
import FipsAudit.Proofs.Bytes

/-!
# `FipsAudit.Proofs.BuildInfo.Uvarint` — lengths are read as they were written

The writer takes seven bits at a time, so that the width of a number depends on its value. The reader knows neither
the value nor the width; it stops at the first byte whose high bit is clear and refuses a tenth byte above one. A
number below `2 ^ 64` never reaches that limit. What was read stays so when more bytes follow, hence a string whose
bytes were cut off is not read at all.

* `Uvarint.Groups`, `Uvarint.Numeral` — the bytes that a number may be written with, the shortest way or not.
* `Uvarint.Prefixed` — a string after its length.
* `Uvarint.read_numeral`, `Uvarint.takeString_prefixed` — reading undoes writing, whatever follows.
* `Uvarint.takeString_take` — what becomes of a string in bytes that were cut off.
* `Uvarint.write`, `Uvarint.writeString` — the shortest way, for `read_write` and `takeString_writeString`.
-/

namespace FipsAudit.BuildInfo.Uvarint

/-! ## Numbers -/

/-- The bytes hold the groups of a number, seven bits each, the lowest first; all bytes but the last have their high
    bit set. -/
inductive Groups : List UInt8 → Nat → Prop where
  | last {b : UInt8} (h : b.toNat < 128) : Groups [b] b.toNat
  | more {b : UInt8} {bytes : List UInt8} {n : Nat} (h : 128 ≤ b.toNat) (rest : Groups bytes n) :
      Groups (b :: bytes) (b.toNat % 128 + 128 * n)

/-- **The bytes are a number of the format.** Groups of zeros at the end do not count, so a number may be written in
    more ways than one. -/
structure Numeral (bytes : List UInt8) (n : Nat) : Prop where
  groups : Groups bytes n
  short : bytes.length ≤ maxBytes
  fits : n < 2 ^ 64

/-- The groups of a number, moved up by one group. -/
theorem shiftLeft_group (low n index : Nat) :
    low <<< (7 * index) + n <<< (7 * (index + 1)) = (low + 128 * n) <<< (7 * index) := by
  have hpow : 2 ^ (7 * (index + 1)) = 128 * 2 ^ (7 * index) := by
    rw [Nat.mul_add, Nat.pow_add, Nat.mul_comm]
  rw [Nat.shiftLeft_eq, Nat.shiftLeft_eq, Nat.shiftLeft_eq, hpow, Nat.add_mul, ← Nat.mul_assoc, Nat.mul_comm n 128]

/-- Reading goes on from any place in the middle of a number: `index` bytes gave `value`, and `n` is what the bytes
    to come hold. -/
theorem readFrom_groups {bytes : List UInt8} {n index value : Nat} (h : Groups bytes n)
    (hindex : index + bytes.length ≤ maxBytes) (hlt : n <<< (7 * index) < 2 ^ 64) (rest : List UInt8) :
    readFrom index value (bytes ++ rest) = some (value + n <<< (7 * index), index + bytes.length) := by
  induction h generalizing index value with
  | @last b h =>
      have hindex' : ¬index ≥ maxBytes := by
        rw [List.length_singleton] at hindex
        omega
      -- The tenth byte holds the last of sixty-four bits.
      have htenth : ¬(index + 1 = maxBytes ∧ b.toNat > 1) := by
        rintro ⟨hlast, hone⟩
        have hnine : index = 9 := by
          unfold maxBytes at hlast
          omega
        rw [hnine, Nat.shiftLeft_eq] at hlt
        omega
      rw [List.singleton_append, readFrom]
      simp only [hindex', htenth, if_false, h, if_true, Nat.mod_eq_of_lt h, List.length_singleton]
  | @more b bytes n h rest ih =>
      have hpos : 0 < bytes.length := by cases rest <;> exact Nat.succ_pos _
      rw [List.length_cons] at hindex
      have hindex' : ¬index ≥ maxBytes := by omega
      have htenth : ¬(index + 1 = maxBytes ∧ b.toNat > 1) := by omega
      have hmore : ¬b.toNat < 128 := by omega
      rw [← shiftLeft_group] at hlt
      rw [List.cons_append, readFrom]
      simp only [hindex', htenth, if_false, hmore]
      rw [ih (by omega) (Nat.lt_of_le_of_lt (Nat.le_add_left _ _) hlt), List.length_cons, Nat.add_assoc, shiftLeft_group, Nat.add_assoc, Nat.add_comm 1]

/-- **Reading a number undoes writing it**, whatever follows. -/
theorem read_numeral {bytes : List UInt8} {n : Nat} (h : Numeral bytes n) (rest : List UInt8) :
    read (bytes ++ rest) = some (n, bytes.length) := by
  rw [read, readFrom_groups h.groups (by rw [Nat.zero_add]; exact h.short)
    (by rw [Nat.mul_zero, Nat.shiftLeft_zero]; exact h.fits)]
  simp

/-- A number that was read ends inside the bytes, and bytes after them make no difference. -/
theorem readFrom_append {bytes : List UInt8} {index value n consumed : Nat}
    (h : readFrom index value bytes = some (n, consumed)) (rest : List UInt8) :
    consumed ≤ index + bytes.length ∧ readFrom index value (bytes ++ rest) = some (n, consumed) := by
  induction bytes generalizing index value with
  | nil => cases h
  | cons b r ih =>
      rw [readFrom] at h
      rw [List.cons_append, readFrom, List.length_cons]
      dsimp only at h ⊢
      by_cases hindex : index ≥ maxBytes
      · rw [if_pos hindex] at h
        cases h
      rw [if_neg hindex] at h ⊢
      by_cases htenth : index + 1 = maxBytes ∧ b.toNat > 1
      · rw [if_pos htenth] at h
        cases h
      rw [if_neg htenth] at h ⊢
      by_cases hlast : b.toNat < 128
      · rw [if_pos hlast] at h ⊢
        obtain ⟨-, rfl⟩ := Prod.mk.inj (Option.some.inj h)
        exact ⟨by omega, h⟩
      · rw [if_neg hlast] at h ⊢
        obtain ⟨hle, hread⟩ := ih h
        exact ⟨by omega, hread⟩

/-! ## Strings -/

/-- **The bytes are a string after its length.** -/
def Prefixed (s bytes : List UInt8) : Prop := ∃ numeral, bytes = numeral ++ s ∧ Numeral numeral s.length

/-- **Taking a string undoes writing it**, and leaves what follows. -/
theorem takeString_prefixed {s bytes : List UInt8} (h : Prefixed s bytes) (rest : List UInt8) :
    takeString (bytes ++ rest) = some (s, rest) := by
  obtain ⟨numeral, rfl, hnumeral⟩ := h
  rw [takeString, List.append_assoc, read_numeral hnumeral]
  simp

/-- A string that was taken is the same with more bytes behind it. -/
theorem takeString_append {bytes s rest : List UInt8} (h : takeString bytes = some (s, rest)) (more : List UInt8) :
    takeString (bytes ++ more) = some (s, rest ++ more) := by
  unfold takeString at h ⊢
  cases hread : read bytes with
  | none =>
      rw [hread] at h
      cases h
  | some number =>
      obtain ⟨length, consumed⟩ := number
      obtain ⟨hconsumed, hmore⟩ := readFrom_append hread more
      rw [Nat.zero_add] at hconsumed
      rw [hread] at h
      dsimp only at h
      rw [show read (bytes ++ more) = some (length, consumed) from hmore]
      dsimp only
      split at h
      next hlength =>
        obtain ⟨rfl, rfl⟩ := Prod.mk.inj (Option.some.inj h)
        rw [List.drop_append_of_le_length hconsumed, List.length_append,
          if_pos (Nat.le_trans hlength (Nat.le_add_right _ _)), List.take_append_of_le_length hlength,
          List.drop_append_of_le_length hlength]
      next => cases h

/-- **A string in bytes that were cut off** is taken if it ends before the cut, and is not there at all if it does
    not. -/
theorem takeString_take {s bytes : List UInt8} (h : Prefixed s bytes) (rest : List UInt8) (k : Nat) :
    takeString ((bytes ++ rest).take k) =
      if bytes.length ≤ k then some (s, rest.take (k - bytes.length)) else none := by
  split
  next hinside => rw [List.take_append, List.take_of_length_le hinside, takeString_prefixed h]
  next hcut =>
    refine Option.eq_none_iff_forall_ne_some.mpr fun ⟨s', rest'⟩ htaken => ?_
    -- The cut bytes would have the same string with the same bytes behind it, but they have fewer of them.
    have hwhole := takeString_append htaken ((bytes ++ rest).drop k)
    rw [List.take_append_drop, takeString_prefixed h] at hwhole
    obtain ⟨-, hrest⟩ := Prod.mk.inj (Option.some.inj hwhole)
    have hlength := congrArg List.length hrest
    rw [List.length_append, List.length_drop, List.length_append] at hlength
    omega

/-! ## The shortest way -/

/-- The groups of `n`, seven bits each, the lowest first. -/
def write (n : Nat) : List UInt8 :=
  if n < 128 then [UInt8.ofNat n] else UInt8.ofNat (n % 128 + 128) :: write (n / 128)

/-- The bytes of a string after their number. -/
def writeString (s : List UInt8) : List UInt8 := write s.length ++ s

theorem groups_write (n : Nat) : Groups (write n) n := by
  induction n using Nat.strongRecOn with
  | ind n ih =>
      rw [write]
      split
      next hn =>
        have hbyte : (UInt8.ofNat n).toNat = n := toNat_ofNat_of_lt (by omega)
        have hlast := Groups.last (b := UInt8.ofNat n) (by omega)
        rwa [hbyte] at hlast
      next hn =>
        have hbyte : (UInt8.ofNat (n % 128 + 128)).toNat = n % 128 + 128 := toNat_ofNat_of_lt (by omega)
        have hmore := Groups.more (b := UInt8.ofNat (n % 128 + 128)) (by omega) (ih (n / 128) (by omega))
        rwa [hbyte, show (n % 128 + 128) % 128 + 128 * (n / 128) = n by omega] at hmore

/-- A number of so many groups takes no more bytes. -/
theorem length_write_le {n k : Nat} (h : n < 128 ^ (k + 1)) : (write n).length ≤ k + 1 := by
  induction k generalizing n with
  | zero =>
      rw [write, if_pos (by omega)]
      exact Nat.le_refl _
  | succ k ih =>
      rw [write]
      split
      next => exact Nat.succ_le_succ (Nat.zero_le _)
      next =>
        have hrest : n / 128 < 128 ^ (k + 1) := by
          rw [Nat.div_lt_iff_lt_mul (by decide)]
          exact h
        exact Nat.succ_le_succ (ih hrest)

theorem numeral_write {n : Nat} (h : n < 2 ^ 64) : Numeral (write n) n :=
  ⟨groups_write n, length_write_le (Nat.lt_of_lt_of_le h (by decide)), h⟩

theorem prefixed_writeString {s : List UInt8} (h : s.length < 2 ^ 64) : Prefixed s (writeString s) :=
  ⟨write s.length, rfl, numeral_write h⟩

/-- **Reading a number undoes writing it**, whatever follows. -/
theorem read_write {n : Nat} (h : n < 2 ^ 64) (rest : List UInt8) :
    read (write n ++ rest) = some (n, (write n).length) := read_numeral (numeral_write h) rest

/-- **Taking a string undoes writing it**, and leaves what follows. -/
theorem takeString_writeString {s : List UInt8} (h : s.length < 2 ^ 64) (rest : List UInt8) :
    takeString (writeString s ++ rest) = some (s, rest) := takeString_prefixed (prefixed_writeString h) rest

end FipsAudit.BuildInfo.Uvarint
