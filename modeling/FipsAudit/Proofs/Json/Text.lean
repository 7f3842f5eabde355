import FipsAudit.Json.Token
import FipsAudit.Json.Value

/-!
# `FipsAudit.Proofs.Json.Text` — strings in all their spellings

A character of a string can stand for itself, be escaped by a letter, or be escaped by its number: in one unit, or in
two that make up a pair of surrogates. Strings that are only read over may hold surrogates without a partner.

* `Spells`, `Spelled` — the spellings of a character and of a string; `readText_spelled` — they are read back.
* `spelled_escapeChar` — the form that is written is one of them.
* `Passable` — the strings that can be read over; `skipText_passable`.
-/

namespace FipsAudit.Json

open FipsAudit.Text

/-! ## Units -/

/-- Four hexadecimal digits of a number, of either case. -/
inductive Hex4 : Nat → List Char → Prop
  /-- Each digit with its value. -/
  | mk {a b c d : Char} {x y z w : Nat} (ha : hexValue? a = some x) (hb : hexValue? b = some y)
      (hc : hexValue? c = some z) (hd : hexValue? d = some w) :
      Hex4 (((x * 16 + y) * 16 + z) * 16 + w) [a, b, c, d]

variable {n m : Nat} {ds es : List Char}

theorem readHex4_append (h : Hex4 n ds) (rest : List Char) : readHex4 (ds ++ rest) = .ok (n, rest) := by
  cases h with
  | mk ha hb hc hd =>
      show readHex4 (_ :: _ :: _ :: _ :: rest) = _
      rw [readHex4]
      simp only [ha, hb, hc, hd]

/-- The number of a character is no surrogate. -/
theorem not_surrogate (c : Char) : isTrailing c.toNat = false ∧ isLeading c.toNat = false := by
  have hvalid : c.toNat < 0xD800 ∨ 0xDFFF < c.toNat ∧ c.toNat < 0x110000 := c.valid
  simp only [isTrailing, isLeading, Bool.and_eq_false_iff, decide_eq_false_iff_not]
  omega

/-! ## Spellings -/

/-- The ways to spell a character inside a string. -/
inductive Spells : Char → List Char → Prop
  /-- The character itself, where that is allowed. -/
  | plain {c : Char} (hquote : c ≠ '"') (hbackslash : c ≠ '\\') (hcontrol : ¬c.toNat < 0x20) : Spells c [c]
  /-- A letter that stands for it. -/
  | short {c letter : Char} (h : shortEscape? letter = some c) : Spells c ['\\', letter]
  /-- Its number in one unit. -/
  | unit {c : Char} {ds : List Char} (h : Hex4 c.toNat ds) : Spells c ('\\' :: 'u' :: ds)
  /-- Its number in a pair of surrogates. -/
  | pair {c : Char} {high low : Nat} {ds es : List Char} (hds : Hex4 high ds) (hes : Hex4 low es)
      (hhigh : isLeading high = true) (hlow : isTrailing low = true)
      (hc : c.toNat = (high - 0xD800) * 1024 + (low - 0xDC00) + 0x10000) :
      Spells c ('\\' :: 'u' :: (ds ++ '\\' :: 'u' :: es))

/-- The spellings of a string between its quotation marks. -/
inductive Spelled : List Char → List Char → Prop
  /-- Nothing. -/
  | nil : Spelled [] []
  /-- A character and what follows it. -/
  | cons {c : Char} {w t body : List Char} (h : Spells c w) (ht : Spelled t body) : Spelled (c :: t) (w ++ body)

theorem shortEscape?_ne_u {letter c : Char} (h : shortEscape? letter = some c) : letter ≠ 'u' := by
  rintro rfl
  cases h

theorem readEscape_short {letter c : Char} (h : shortEscape? letter = some c) (rest : List Char) :
    readEscape (letter :: rest) = .ok (c, rest) := by
  simp only [readEscape, if_neg (shortEscape?_ne_u h), h]

theorem readEscape_unit {c : Char} (h : Hex4 c.toNat ds) (rest : List Char) :
    readEscape ('u' :: (ds ++ rest)) = .ok (c, rest) := by
  obtain ⟨htrailing, hleading⟩ := not_surrogate c
  simp only [readEscape, readUnit, readHex4_append h, htrailing, hleading, Char.ofNat_toNat, Bool.not_false, if_true,
    Bool.false_eq_true, if_false]

theorem readEscape_pair {c : Char} (hds : Hex4 n ds) (hes : Hex4 m es) (hhigh : isLeading n = true)
    (hlow : isTrailing m = true) (hc : c.toNat = (n - 0xD800) * 1024 + (m - 0xDC00) + 0x10000) (rest : List Char) :
    readEscape ('u' :: (ds ++ '\\' :: 'u' :: (es ++ rest))) = .ok (c, rest) := by
  have htrailing : isTrailing n = false := by
    simp only [isLeading, isTrailing, Bool.and_eq_true, decide_eq_true_eq, Bool.and_eq_false_iff,
      decide_eq_false_iff_not] at hhigh ⊢
    omega
  have hletter : readUnit (ds ++ '\\' :: 'u' :: (es ++ rest)) = .ok (c, rest) := by
    simp only [readUnit, readHex4_append hds, htrailing, hhigh, Bool.not_true, Bool.false_eq_true, if_false,
      expectInPair, if_true, readHex4_append hes, hlow, ← hc, Char.ofNat_toNat]
  exact hletter

/-- A character is read in each of its spellings. -/
theorem readTextFrom_spells {c : Char} {w : List Char} (h : Spells c w) (seen rest : List Char) :
    readTextFrom seen (w ++ rest) = readTextFrom (c :: seen) rest := by
  have hescape : ∀ word, readEscape (word ++ rest) = .ok (c, rest) →
      readTextFrom seen ('\\' :: (word ++ rest)) = readTextFrom (c :: seen) rest := by
    intro word hword
    rw [readTextFrom, if_neg (by decide), if_pos rfl]
    split
    next e herror =>
      rw [hword] at herror
      cases herror
    next d r hok =>
      rw [hword] at hok
      cases hok
      rfl
  cases h with
  | plain hquote hbackslash hcontrol =>
      show readTextFrom seen (c :: rest) = _
      rw [readTextFrom, if_neg hquote, if_neg hbackslash, if_neg hcontrol]
  | short hletter => exact hescape [_] (readEscape_short hletter rest)
  | @unit ds hds => exact hescape ('u' :: ds) (readEscape_unit hds rest)
  | @pair _ _ ds es hds hes hhigh hlow hc =>
      refine hescape ('u' :: (ds ++ '\\' :: 'u' :: es)) ?_
      rw [List.cons_append, List.append_assoc]
      exact readEscape_pair hds hes hhigh hlow hc rest

/-- **A string is read back in each of its spellings.** -/
theorem readText_spelled {t body : List Char} (h : Spelled t body) (rest : List Char) :
    readText (body ++ '"' :: rest) = .ok (t, rest) := by
  have hfrom : ∀ seen, readTextFrom seen (body ++ '"' :: rest) = .ok (seen.reverse ++ t, rest) := by
    induction h with
    | nil =>
        intro seen
        show readTextFrom seen ('"' :: rest) = _
        rw [readTextFrom, if_pos rfl, List.append_nil]
    | cons hc ht ih =>
        intro seen
        rw [List.append_assoc, readTextFrom_spells hc, ih, List.reverse_cons, List.append_assoc]
        rfl
  exact hfrom []

/-! ## The written form -/

/-- The number of a control character is written with four digits. -/
theorem hex4_control (h : n < 0x20) : Hex4 n (List.replicate (4 - (hex n).length) '0' ++ hex n) := by
  have hdigits : ∀ n < 0x20, List.replicate (4 - (hex n).length) '0' ++ hex n =
      ['0', '0', Nat.digitChar (n / 16), Nat.digitChar (n % 16)] := by decide
  have hvalue : ∀ n < 16, hexValue? (Nat.digitChar n) = some n := by decide
  have hn : ((0 * 16 + 0) * 16 + n / 16) * 16 + n % 16 = n := by omega
  have hzero : hexValue? '0' = some 0 := rfl
  have hmk := Hex4.mk hzero hzero (hvalue (n / 16) (by omega)) (hvalue (n % 16) (by omega))
  rwa [hn, ← hdigits n h] at hmk

theorem spells_escapeChar (c : Char) : Spells c (escapeChar c) := by
  unfold escapeChar
  split
  · exact .short rfl
  · exact .short rfl
  · exact .short rfl
  · exact .short rfl
  · exact .short rfl
  · exact .short rfl
  · exact .short rfl
  next hquote hbackslash _ _ _ _ _ =>
    split
    next hcontrol => exact .unit (hex4_control hcontrol)
    next hcontrol => exact .plain hquote hbackslash hcontrol

/-- The form that is written is a spelling. -/
theorem spelled_escapeChar (t : List Char) : Spelled t (t.flatMap escapeChar) := by
  induction t with
  | nil => exact .nil
  | cons c t ih => exact .cons (spells_escapeChar c) ih

/-! ## Strings that are read over -/

/-- What may stand between the quotation marks of a string that is read over. -/
inductive Passable : List Char → Prop
  /-- Nothing. -/
  | nil : Passable []
  /-- A character that needs no escape. -/
  | plain {c : Char} {body : List Char} (hquote : c ≠ '"') (hbackslash : c ≠ '\\') (hcontrol : ¬c.toNat < 0x20)
      (h : Passable body) : Passable (c :: body)
  /-- A letter that stands for a character. -/
  | short {letter c : Char} {body : List Char} (hletter : shortEscape? letter = some c) (h : Passable body) :
      Passable ('\\' :: letter :: body)
  /-- A unit, be it a surrogate or not. -/
  | unit {n : Nat} {ds body : List Char} (hds : Hex4 n ds) (h : Passable body) :
      Passable ('\\' :: 'u' :: (ds ++ body))

theorem skipText_escape {s rest : List Char} (h : skipEscape s = .ok rest) : skipText ('\\' :: s) = skipText rest := by
  rw [skipText, if_neg (by decide), if_pos rfl]
  split
  next e herror =>
    rw [h] at herror
    cases herror
  next r hok =>
    rw [h] at hok
    cases hok
    rfl

/-- Passable strings are read over. -/
theorem skipText_passable {body : List Char} (h : Passable body) (rest : List Char) :
    skipText (body ++ '"' :: rest) = .ok rest := by
  induction h with
  | nil =>
      show skipText ('"' :: rest) = _
      rw [skipText, if_pos rfl]
  | plain hquote hbackslash hcontrol _ ih =>
      rw [List.cons_append, skipText, if_neg hquote, if_neg hbackslash, if_neg hcontrol, ih]
  | @short letter _ body hletter _ ih =>
      have hskip : skipEscape (letter :: (body ++ '"' :: rest)) = .ok (body ++ '"' :: rest) := by
        simp only [skipEscape, if_neg (shortEscape?_ne_u hletter), hletter, Option.isSome_some, if_true]
      rw [List.cons_append, List.cons_append, skipText_escape hskip, ih]
  | @unit _ ds body hds _ ih =>
      have hskip : skipEscape ('u' :: (ds ++ (body ++ '"' :: rest))) = .ok (body ++ '"' :: rest) := by
        simp only [skipEscape, if_true, readHex4_append hds]
        rfl
      rw [List.cons_append, List.cons_append, List.append_assoc, skipText_escape hskip, ih]

end FipsAudit.Json
