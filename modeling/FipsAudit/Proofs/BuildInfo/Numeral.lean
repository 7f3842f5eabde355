import FipsAudit.Proofs.BuildInfo.Checked.Record

/-!
# `FipsAudit.Proofs.BuildInfo.Numeral` — the value of a length

A length ends with its first byte below 128, and its value is the number whose digits to the base 128 are the low seven
bits of its bytes. The reader never sees that number: it keeps the groups it has come by, and guards against too large a
value by the count of the groups and by one test on the tenth of them. Both guards together are the bound of the word:
nine groups have sixty-three bits, so only the tenth can go beyond it, and it does so exactly if it is more than one.

* `base128`, `lastGroup?` — the value of digits, and where a length ends.
* `groups_take`, `lastGroup?_of_readFrom` — what stands there is read, and what is read stands there.
* `read_eq_some_iff`, `read_eq_none_iff` — what is read, and what is not.
* `length_write_le_of_groups`, `Groups.unique` — the written form is the shortest, and the only one of its length.
* `takeString_eq_some_iff`, `takeString_eq_none_iff` — strings after their length.
* `read_takeString_spec` — all of it, for every byte string.
-/

namespace FipsAudit.BuildInfo.Uvarint

/-- The number with these digits to the base 128, the lowest first. A digit is the low seven bits of a byte. -/
def base128 : List UInt8 → Nat
  | [] => 0
  | b :: rest => b.toNat % 128 + 128 * base128 rest

/-- The place of the first byte whose high bit is clear. -/
def lastGroup? (bytes : List UInt8) : Option Nat := bytes.findIdx? fun b => b.toNat < 128

theorem lastGroup?_cons_of_lt {b : UInt8} (h : b.toNat < 128) (rest : List UInt8) :
    lastGroup? (b :: rest) = some 0 := by
  rw [lastGroup?, List.findIdx?_cons, if_pos (decide_eq_true h)]

theorem lastGroup?_cons_of_le {b : UInt8} (h : 128 ≤ b.toNat) (rest : List UInt8) :
    lastGroup? (b :: rest) = (lastGroup? rest).map (· + 1) := by
  have hlow : ¬b.toNat < 128 := Nat.not_lt_of_le h
  rw [lastGroup?, List.findIdx?_cons, if_neg (mt of_decide_eq_true hlow), lastGroup?]

/-! ## Groups and digits -/

/-- The bytes up to the first one whose high bit is clear are groups, and their digits are the number they hold. -/
theorem groups_take {bytes : List UInt8} {i : Nat} (h : lastGroup? bytes = some i) :
    Groups (bytes.take (i + 1)) (base128 (bytes.take (i + 1))) := by
  induction bytes generalizing i with
  | nil => cases h
  | cons b rest ih =>
      rcases Nat.lt_or_ge b.toNat 128 with hlast | hmore
      · rw [lastGroup?_cons_of_lt hlast] at h
        obtain rfl := Option.some.inj h
        have hdigit : base128 [b] = b.toNat := Nat.mod_eq_of_lt hlast
        show Groups [b] (base128 [b])
        rw [hdigit]
        exact .last hlast
      · rw [lastGroup?_cons_of_le hmore] at h
        obtain ⟨j, hj, rfl⟩ := Option.map_eq_some_iff.mp h
        rw [List.take_succ_cons]
        exact .more hmore (ih hj)

/-- Nine groups or fewer leave room for the next one, and the tenth has one bit left of the word. -/
theorem add_group_lt_word {b : UInt8} {index value : Nat} (hvalue : value < 2 ^ (7 * index)) (hindex : index ≤ 9)
    (htenth : ¬(index = 9 ∧ b.toNat > 1)) : value + (b.toNat % 128) <<< (7 * index) < 2 ^ 64 := by
  rcases Nat.lt_or_eq_of_le hindex with hlt | rfl
  · calc value + (b.toNat % 128) <<< (7 * index) < 2 ^ (7 * (index + 1)) := Checked.add_group_lt b hvalue
      _ ≤ 2 ^ 64 := Nat.pow_le_pow_right (by decide) (by omega)
  · rw [Nat.shiftLeft_eq]
    omega

/-- **What is read from a place in the middle of a length** ends with the first byte below 128, within ten bytes, and
    is what was there before with the digits to come, each moved up to its place. It is a word. -/
theorem lastGroup?_of_readFrom {bytes : List UInt8} {index value n k : Nat}
    (h : readFrom index value bytes = some (n, k)) (hvalue : value < 2 ^ (7 * index)) :
    ∃ i, lastGroup? bytes = some i ∧ k = index + (i + 1) ∧ k ≤ maxBytes ∧
      n = value + base128 (bytes.take (i + 1)) <<< (7 * index) ∧ n < 2 ^ 64 := by
  induction bytes generalizing index value with
  | nil => cases h
  | cons b rest ih =>
      rw [readFrom] at h
      dsimp only at h
      by_cases hindex : index ≥ maxBytes
      · rw [if_pos hindex] at h
        cases h
      by_cases htenth : index + 1 = maxBytes ∧ b.toNat > 1
      · rw [if_neg hindex, if_pos htenth] at h
        cases h
      rw [if_neg hindex, if_neg htenth] at h
      unfold maxBytes at hindex htenth
      by_cases hlast : b.toNat < 128
      · rw [if_pos hlast] at h
        obtain ⟨rfl, rfl⟩ := Prod.mk.inj (Option.some.inj h)
        have hword := add_group_lt_word (b := b) hvalue (by omega) (by omega)
        refine ⟨0, lastGroup?_cons_of_lt hlast rest, rfl, ?_, rfl, hword⟩
        unfold maxBytes
        omega
      · rw [if_neg hlast] at h
        obtain ⟨i, hi, rfl, hk, rfl, hword⟩ := ih h (Checked.add_group_lt b hvalue)
        refine ⟨i + 1, ?_, by omega, hk, ?_, hword⟩
        · rw [lastGroup?_cons_of_le (Nat.le_of_not_lt hlast), hi]
          rfl
        · rw [List.take_succ_cons, base128, Nat.add_assoc, shiftLeft_group]

/-! ## Numbers -/

variable {bytes : List UInt8}

/-- **What is read**: the value up to the first byte below 128, if that is one of the first ten and the value is a
    word. -/
theorem read_eq_some_iff {n k : Nat} :
    read bytes = some (n, k) ↔
      ∃ i, lastGroup? bytes = some i ∧ k = i + 1 ∧ k ≤ maxBytes ∧ n = base128 (bytes.take k) ∧ n < 2 ^ 64 := by
  constructor
  · intro h
    obtain ⟨i, hi, rfl, hk, rfl, hword⟩ := lastGroup?_of_readFrom h (by decide)
    rw [Nat.zero_add] at hk
    rw [Nat.zero_add, Nat.mul_zero, Nat.shiftLeft_zero] at hword
    rw [Nat.zero_add, Nat.zero_add, Nat.mul_zero, Nat.shiftLeft_zero]
    exact ⟨i, hi, rfl, hk, rfl, hword⟩
  · rintro ⟨i, hi, rfl, hk, rfl, hword⟩
    have hinside : i < bytes.length := (List.findIdx?_eq_some_iff_findIdx_eq.mp hi).1
    have hlength : (bytes.take (i + 1)).length = i + 1 := by
      rw [List.length_take]
      omega
    have hnumeral : Numeral (bytes.take (i + 1)) (base128 (bytes.take (i + 1))) :=
      ⟨groups_take hi, by rwa [hlength], hword⟩
    have hread := read_numeral hnumeral (bytes.drop (i + 1))
    rwa [List.take_append_drop, hlength] at hread

/-- **What is not read**: bytes of which the first ten are 128 or more, and values that are no words. -/
theorem read_eq_none_iff :
    read bytes = none ↔
      ∀ i, lastGroup? bytes = some i → i + 1 ≤ maxBytes → 2 ^ 64 ≤ base128 (bytes.take (i + 1)) := by
  rw [Option.eq_none_iff_forall_ne_some]
  constructor
  · intro h i hi hk
    refine Nat.le_of_not_lt fun hword => ?_
    exact h (_, i + 1) (read_eq_some_iff.mpr ⟨i, hi, rfl, hk, rfl, hword⟩)
  · rintro h ⟨n, k⟩ hread
    obtain ⟨i, hi, rfl, hk, rfl, hword⟩ := read_eq_some_iff.mp hread
    exact absurd hword (Nat.not_lt_of_le (h i hi hk))

/-! ## The shortest way -/

/-- Groups that are read whole are the groups of what is read. -/
theorem groups_of_read {n : Nat} (h : read bytes = some (n, bytes.length)) : Groups bytes n := by
  obtain ⟨i, hi, hlength, -, rfl, -⟩ := read_eq_some_iff.mp h
  have hgroups := groups_take hi
  rw [← hlength, List.take_length] at hgroups
  rw [List.take_length]
  exact hgroups

/-- **No bytes with the same number are shorter** than the written form. -/
theorem length_write_le_of_groups {n : Nat} (h : Groups bytes n) : (write n).length ≤ bytes.length := by
  induction h with
  | last h =>
      rw [write, if_pos h]
      exact Nat.le_refl _
  | @more b bytes n h rest ih =>
      rw [write]
      split
      next => exact Nat.succ_le_succ (Nat.zero_le _)
      next =>
        have hrest : (b.toNat % 128 + 128 * n) / 128 = n := by omega
        rw [hrest]
        exact Nat.succ_le_succ ih

/-- Of two bytes with the same low bits, and both with the high bit or both without it, one is the other. -/
theorem byte_eq {b b' : UInt8} (hlow : b.toNat % 128 = b'.toNat % 128) (hhigh : b.toNat < 128 ↔ b'.toNat < 128) :
    b = b' := by
  have hb := b.toNat_lt
  have hb' := b'.toNat_lt
  refine UInt8.toNat_inj.mp ?_
  omega

/-- **Bytes of one length hold a number in one way**: the digits are those of the number, and the high bits are set
    in all bytes but the last. -/
theorem Groups.unique {other : List UInt8} {n m : Nat} (h : Groups bytes n) (hother : Groups other m)
    (hlength : bytes.length = other.length) (hnm : n = m) : bytes = other := by
  induction h generalizing other m with
  | @last b hb =>
      cases hother with
      | last hb' => rw [UInt8.toNat_inj.mp hnm]
      | more hb' rest =>
          have hempty := List.eq_nil_of_length_eq_zero (Nat.succ.inj hlength).symm
          rw [hempty] at rest
          cases rest
  | @more b bytes n hb rest ih =>
      cases hother with
      | last hb' =>
          have hempty := List.eq_nil_of_length_eq_zero (Nat.succ.inj hlength)
          rw [hempty] at rest
          cases rest
      | @more b' bytes' n' hb' rest' =>
          have hfirst : b = b' := byte_eq (by omega) (by omega)
          rw [hfirst, ih rest' (Nat.succ.inj hlength) (by omega)]

/-- What is written is the shortest of all bytes that are read as the number, and the only one of its length. -/
theorem write_shortest {n : Nat} (h : read bytes = some (n, bytes.length)) :
    (write n).length ≤ bytes.length ∧ (bytes.length = (write n).length → bytes = write n) := by
  have hgroups := groups_of_read h
  refine ⟨length_write_le_of_groups hgroups, fun hlength => ?_⟩
  exact hgroups.unique (groups_write n) hlength rfl

/-! ## Strings -/

/-- **Which string is taken**: the next bytes, as many as the length says, and what is left is what follows them. -/
theorem takeString_eq_some_iff {s rest : List UInt8} :
    takeString bytes = some (s, rest) ↔ ∃ k, read bytes = some (s.length, k) ∧ bytes.drop k = s ++ rest := by
  rw [takeString]
  constructor
  · intro h
    cases hread : read bytes with
    | none =>
        rw [hread] at h
        cases h
    | some number =>
        obtain ⟨length, k⟩ := number
        rw [hread] at h
        dsimp only at h
        split at h
        next hlength =>
          obtain ⟨rfl, rfl⟩ := Prod.mk.inj (Option.some.inj h)
          rw [List.length_take, Nat.min_eq_left hlength]
          exact ⟨k, rfl, (List.take_append_drop _ _).symm⟩
        next => cases h
  · rintro ⟨k, hread, hdrop⟩
    have hlength : s.length ≤ (s ++ rest).length := List.length_append ▸ Nat.le_add_right _ _
    rw [hread]
    dsimp only
    rw [hdrop, if_pos hlength, List.take_left, List.drop_left]

/-- **When none is taken**: the length is not read, or is more than what is left. -/
theorem takeString_eq_none_iff :
    takeString bytes = none ↔
      read bytes = none ∨ ∃ n k, read bytes = some (n, k) ∧ (bytes.drop k).length < n := by
  rw [takeString]
  cases hread : read bytes with
  | none => simp
  | some number =>
      obtain ⟨length, k⟩ := number
      dsimp only
      constructor
      · intro h
        split at h
        next => cases h
        next hlength => exact Or.inr ⟨length, k, rfl, Nat.lt_of_not_le hlength⟩
      · rintro (h | ⟨n, k', hnumber, hshort⟩)
        · cases h
        · obtain ⟨rfl, rfl⟩ := Prod.mk.inj (Option.some.inj hnumber)
          rw [if_neg (Nat.not_le_of_lt hshort)]

/-! ## Every byte string -/

/-- **Lengths, and strings after them, in any bytes.** A length is read exactly if the first byte below 128 is one of
    the first ten and the value of the bytes up to it is a word; the value is that of the low seven bits. It is not
    read exactly if there is no such byte or the value is no word. Every word is read in its written form, whatever
    follows, and there is no shorter form and no other one of that length. A string is what its length says of the next
    bytes, and is not taken exactly if the length is not read or is more than what is left. The reader that puts the
    groups together with shifts and `|||`, in words, says the same, and never leaves the range of words. -/
theorem read_takeString_spec (bytes : List UInt8) :
    (∀ n k, read bytes = some (n, k) ↔
      ∃ i, bytes.findIdx? (fun b => b.toNat < 128) = some i ∧ k = i + 1 ∧ k ≤ 10 ∧ n = base128 (bytes.take k) ∧
        n < 2 ^ 64) ∧
    (read bytes = none ↔
      ∀ i, bytes.findIdx? (fun b => b.toNat < 128) = some i → i + 1 ≤ 10 →
        2 ^ 64 ≤ base128 (bytes.take (i + 1))) ∧
    (∀ n < 2 ^ 64, read (write n ++ bytes) = some (n, (write n).length) ∧
      ∀ other, read other = some (n, other.length) →
        (write n).length ≤ other.length ∧ (other.length = (write n).length → other = write n)) ∧
    (∀ s rest, takeString bytes = some (s, rest) ↔
      ∃ k, read bytes = some (s.length, k) ∧ bytes.drop k = s ++ rest) ∧
    (takeString bytes = none ↔
      read bytes = none ∨ ∃ n k, read bytes = some (n, k) ∧ (bytes.drop k).length < n) ∧
    Checked.readFrom 0 0 bytes = .ok (read bytes) ∧
    Checked.takeString bytes = .ok (takeString bytes) := by
  refine ⟨?_, read_eq_none_iff, ?_, ?_, takeString_eq_none_iff, Checked.readFrom_eq bytes (by decide),
    Checked.takeString_eq bytes⟩
  · intro n k
    exact read_eq_some_iff
  · intro n hword
    exact ⟨read_write hword bytes, fun other hread => write_shortest hread⟩
  · intro s rest
    exact takeString_eq_some_iff

/-- The largest word takes ten bytes, and so does a zero with nine groups of zeros before its last one; one more is no
    word. -/
theorem read_takeString_spec_largest :
    read (write (2 ^ 64 - 1) ++ [7]) = some (2 ^ 64 - 1, (write (2 ^ 64 - 1)).length) ∧
      read (List.replicate 9 0x80 ++ [0, 7]) = some (0, 10) ∧
      (write 0).length ≤ 10 ∧
      read (List.replicate 9 0x80 ++ [2, 7]) = none := by
  obtain ⟨-, -, hwrite, -⟩ := read_takeString_spec [7]
  obtain ⟨hzeros, -, -⟩ := read_takeString_spec (List.replicate 9 0x80 ++ [0, 7])
  obtain ⟨-, hlarge, -⟩ := read_takeString_spec (List.replicate 9 0x80 ++ [2, 7])
  obtain ⟨hlargest, -⟩ := hwrite (2 ^ 64 - 1) (by decide)
  obtain ⟨-, hshortest⟩ := hwrite 0 (by decide)
  obtain ⟨hzero, -⟩ := hshortest (List.replicate 9 0x80 ++ [0]) (by decide)
  refine ⟨hlargest, (hzeros 0 10).mpr ⟨9, by decide, rfl, by decide, by decide, by decide⟩, hzero,
    hlarge.mpr fun i hi hten => ?_⟩
  have hnine : i = 9 := Option.some.inj (hi.symm.trans (by decide))
  subst hnine
  decide

end FipsAudit.BuildInfo.Uvarint
