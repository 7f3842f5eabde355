import FipsAudit.Text.Number

/-!
# `FipsAudit.Proofs.Text.Number` — numerals are read back

A numeral has the value of its number, and it begins with a zero only if that is all of it.

* `Stops` — a text that does not go on with certain characters; `takeWhile_append`, `dropWhile_append` — what stands
  before it.
* `natOfDigits_decimal` — the value.
* `head?_decimal_ne_zero` — no leading zero.
-/

namespace FipsAudit.Text

/-! ## Runs of characters -/

/-- The text is empty or begins with a character that does not satisfy `p`. -/
def Stops (p : Char → Bool) (s : List Char) : Prop := ∀ c r, s = c :: r → p c = false

theorem stops_nil (p : Char → Bool) : Stops p [] := nofun

theorem stops_cons {p : Char → Bool} {c : Char} (h : p c = false) (r : List Char) : Stops p (c :: r) := by
  rintro _ _ ⟨rfl, rfl⟩
  exact h

/-- A text stops if it goes on nowhere. -/
theorem stops_of_forall {p : Char → Bool} {s : List Char} (h : ∀ c ∈ s, p c = false) : Stops p s :=
  fun c _ hs => h c (hs ▸ List.mem_cons_self)

/-- What was passed over goes on no longer. -/
theorem stops_dropWhile (p : Char → Bool) (s : List Char) : Stops p (s.dropWhile p) := by
  intro c r hs
  have hnot := List.head?_dropWhile_not p s
  rw [hs] at hnot
  exact hnot

/-- What a text begins with stops if the text does. -/
theorem Stops.of_append {p : Char → Bool} {l r : List Char} (h : Stops p (l ++ r)) : Stops p l :=
  fun c l' hl => h c (l' ++ r) (by rw [hl, List.cons_append])

theorem takeWhile_append {p : Char → Bool} {l s : List Char} (hl : ∀ c ∈ l, p c = true) (hs : Stops p s) :
    (l ++ s).takeWhile p = l := by
  rw [List.takeWhile_append_of_pos hl]
  cases s with
  | nil => exact List.append_nil l
  | cons c r => rw [List.takeWhile_cons_of_neg (by simp [hs c r rfl]), List.append_nil]

theorem dropWhile_append {p : Char → Bool} {l s : List Char} (hl : ∀ c ∈ l, p c = true) (hs : Stops p s) :
    (l ++ s).dropWhile p = s := by
  rw [List.dropWhile_append_of_pos hl]
  cases s with
  | nil => rfl
  | cons c r => rw [List.dropWhile_cons_of_neg (by simp [hs c r rfl])]

/-! ## Numerals -/

/-- What is no digit is another character than a digit. -/
theorem ne_of_isDigit {d c : Char} (hd : d.isDigit = true) (hc : c.isDigit = false) : d ≠ c := by
  rintro rfl
  rw [hd] at hc
  cases hc

theorem isAlpha_iff_toNat {c : Char} :
    c.isAlpha = true ↔ 'A'.toNat ≤ c.toNat ∧ c.toNat ≤ 'Z'.toNat ∨ 'a'.toNat ≤ c.toNat ∧ c.toNat ≤ 'z'.toNat := by
  have hupper : c.isUpper = true ↔ 'A'.toNat ≤ c.toNat ∧ c.toNat ≤ 'Z'.toNat := decide_eq_true_iff
  have hlower : c.isLower = true ↔ 'a'.toNat ≤ c.toNat ∧ c.toNat ≤ 'z'.toNat :=
    Bool.and_eq_true_iff.trans (and_congr decide_eq_true_iff decide_eq_true_iff)
  show (c.isUpper || c.isLower) = true ↔ _
  rw [Bool.or_eq_true, hupper, hlower]

/-- A letter is no digit. -/
theorem isDigit_of_isAlpha {c : Char} (h : c.isAlpha = true) : c.isDigit = false := by
  rw [← Bool.not_eq_true, Char.isDigit_iff_toNat]
  rw [isAlpha_iff_toNat] at h
  simp only [Char.reduceToNat] at h ⊢
  omega

theorem isDigit_of_mem_decimal {n : Nat} {c : Char} (h : c ∈ decimal n) : c.isDigit = true :=
  Nat.isDigit_of_mem_toDigits (by decide) (by decide) h

theorem decimal_ne_nil (n : Nat) : decimal n ≠ [] := Nat.toDigits_ne_nil

/-- A numeral has the value of its number. -/
theorem natOfDigits_decimal (n : Nat) : natOfDigits (decimal n) = n := by
  show (Nat.toDigits 10 n).foldl (fun n d => 10 * n + (d.toNat - '0'.toNat)) 0 = n
  rw [← Nat.ofDigitChars_eq_foldl]
  exact Nat.ofDigitChars_ten_toDigits

/-- Only the numeral of zero begins with a zero. -/
theorem head?_decimal_ne_zero {n : Nat} (h : 0 < n) : (decimal n).head? ≠ some '0' := by
  induction n using Nat.strongRecOn with
  | ind n ih =>
      rw [decimal, Nat.toDigits_eq_if (by decide)]
      split
      next hsmall =>
        have hdigit : ∀ d < 10, 0 < d → d.digitChar ≠ '0' := by decide
        simpa using hdigit n hsmall h
      next hlarge =>
        have hhead : (decimal (n / 10)).head? ≠ some '0' := ih (n / 10) (by omega) (by omega)
        obtain ⟨c, r, hcons⟩ := List.exists_cons_of_ne_nil (decimal_ne_nil (n / 10))
        show (decimal (n / 10) ++ _).head? ≠ _
        rw [hcons] at hhead ⊢
        exact hhead

end FipsAudit.Text
