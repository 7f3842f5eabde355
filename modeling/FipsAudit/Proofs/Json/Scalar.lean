import FipsAudit.Json.Skip
import FipsAudit.Proofs.Json.Text
import FipsAudit.Proofs.Text.Number

/-!
# `FipsAudit.Proofs.Json.Scalar` — values without parts are read over

Words, numerals and strings. A numeral has no end of its own, so what follows it must not be able to go on with it.

* `IsNumeral` — numerals of any size; `skipNumber_append`.
* `IsScalar` — all values without parts; `skipScalar_append`.
-/

namespace FipsAudit.Json

open FipsAudit.Text

/-! ## Numerals -/

/-- At least one digit. -/
structure Digits (ds : List Char) : Prop where
  /-- There is one. -/
  ne_nil : ds ≠ []
  /-- There is nothing else. -/
  digit : ∀ c ∈ ds, c.isDigit = true

/-- The decimals of a numeral with their point, or nothing. -/
inductive IsFraction : List Char → Prop
  /-- Nothing. -/
  | none : IsFraction []
  /-- Digits after a point. -/
  | some {ds : List Char} (h : Digits ds) : IsFraction ('.' :: ds)

/-- The exponent of a numeral with its letter, or nothing. -/
inductive IsExponent : List Char → Prop
  /-- Nothing. -/
  | none : IsExponent []
  /-- Digits after a letter. -/
  | plain {e : Char} {ds : List Char} (he : e = 'e' ∨ e = 'E') (h : Digits ds) : IsExponent (e :: ds)
  /-- Digits after a letter and a sign. -/
  | signed {e sign : Char} {ds : List Char} (he : e = 'e' ∨ e = 'E') (hsign : sign = '+' ∨ sign = '-')
      (h : Digits ds) : IsExponent (e :: sign :: ds)

/-- A numeral without its sign: digits that do not begin with a needless zero, decimals and an exponent. -/
inductive IsUnsigned : List Char → Prop
  /-- The three parts. -/
  | mk {ds fraction exponent : List Char} (hds : Digits ds) (hzero : ds = ['0'] ∨ ds.head? ≠ some '0')
      (hfraction : IsFraction fraction) (hexponent : IsExponent exponent) : IsUnsigned (ds ++ (fraction ++ exponent))

/-- Numerals of any size. -/
inductive IsNumeral : List Char → Prop
  /-- A number that is not negative. -/
  | plain {l : List Char} (h : IsUnsigned l) : IsNumeral l
  /-- A negative number. -/
  | negative {l : List Char} (h : IsUnsigned l) : IsNumeral ('-' :: l)

/-- What could go on with a numeral. -/
def isNumeric (c : Char) : Bool := c.isDigit || c == '.' || c == 'e' || c == 'E'

variable {l rest : List Char}

theorem stops_digit (h : Stops isNumeric rest) : Stops Char.isDigit rest := by
  intro c r hc
  have hnumeric := h c r hc
  simp only [isNumeric, Bool.or_eq_false_iff] at hnumeric
  exact hnumeric.1.1.1

theorem Digits.exists_cons {ds : List Char} (h : Digits ds) :
    ∃ d r, ds = d :: r ∧ d.isDigit = true ∧ ∀ c ∈ r, c.isDigit = true := by
  obtain ⟨d, r, rfl⟩ := List.exists_cons_of_ne_nil h.ne_nil
  exact ⟨d, r, rfl, List.forall_mem_cons.mp h.digit⟩

theorem skipExponent_digits {ds : List Char} (h : Digits ds) (hrest : Stops Char.isDigit rest) :
    skipExponent (ds ++ rest) = .ok rest := by
  obtain ⟨d, r, rfl, hd, hr⟩ := h.exists_cons
  have hsign : ¬(d = '+' ∨ d = '-') := by
    rintro (rfl | rfl) <;> cases hd
  rw [List.cons_append, skipExponent]
  simp only [if_neg hsign, hd, if_true, dropWhile_append hr hrest]

theorem skipExponent_signed {sign : Char} {ds : List Char} (hsign : sign = '+' ∨ sign = '-') (h : Digits ds)
    (hrest : Stops Char.isDigit rest) : skipExponent (sign :: (ds ++ rest)) = .ok rest := by
  obtain ⟨d, r, rfl, hd, hr⟩ := h.exists_cons
  rw [List.cons_append, skipExponent]
  simp only [if_pos hsign, hd, if_true, dropWhile_append hr hrest]

/-- An exponent begins with no digit. -/
theorem IsExponent.stops {exponent : List Char} (h : IsExponent exponent) (hrest : Stops isNumeric rest) :
    Stops Char.isDigit (exponent ++ rest) := by
  cases h with
  | none => exact stops_digit hrest
  | plain he _ => exact stops_cons (by rcases he with rfl | rfl <;> rfl) _
  | signed he _ _ => exact stops_cons (by rcases he with rfl | rfl <;> rfl) _

/-- An exponent is read over. -/
theorem IsExponent.skip {e : Char} {exponent : List Char} (h : IsExponent (e :: exponent))
    (hrest : Stops Char.isDigit rest) : (e = 'e' ∨ e = 'E') ∧ skipExponent (exponent ++ rest) = .ok rest := by
  cases h with
  | plain he hds => exact ⟨he, skipExponent_digits hds hrest⟩
  | signed he hsign hds => exact ⟨he, skipExponent_signed hsign hds hrest⟩

theorem skipDecimals_append {ds exponent : List Char} (hds : Digits ds) (hexponent : IsExponent exponent)
    (hrest : Stops isNumeric rest) : skipDecimals (ds ++ (exponent ++ rest)) = .ok rest := by
  have hstops : Stops Char.isDigit (exponent ++ rest) := hexponent.stops hrest
  rw [skipDecimals, takeWhile_append hds.digit hstops, dropWhile_append hds.digit hstops, if_neg hds.ne_nil]
  cases exponent with
  | nil =>
      rw [List.nil_append]
      split
      next c r =>
        have hnumeric := hrest c r rfl
        rw [if_neg]
        rintro (rfl | rfl) <;> cases hnumeric
      next => rfl
  | cons e exponent =>
      obtain ⟨he, hskip⟩ := hexponent.skip (stops_digit hrest)
      simp only [List.cons_append, if_pos he, hskip]

/-- Reads over what follows the digits before the point. -/
def skipAfterWhole : List Char → Except Fault (List Char)
  | [] => .ok []
  | c :: r =>
    if c = '.' then skipDecimals r
    else if c = 'e' ∨ c = 'E' then skipExponent r
    else .ok (c :: r)

/-- The digits before the point are read over, unless they begin with a needless zero. -/
theorem skipNumber_whole {ds : List Char} (hds : Digits ds) (hzero : ds = ['0'] ∨ ds.head? ≠ some '0')
    (hrest : Stops Char.isDigit rest) : skipNumber (ds ++ rest) = skipAfterWhole rest := by
  obtain ⟨d, r, rfl, hd, hr⟩ := hds.exists_cons
  have hneedless : ¬(d = '0' ∧ (r ++ rest).head?.any Char.isDigit = true) := by
    rintro ⟨rfl, hdigit⟩
    obtain rfl : r = [] := by simpa using hzero
    cases rest with
    | nil => cases hdigit
    | cons c t =>
        have hc : c.isDigit = true := hdigit
        rw [hrest c t rfl] at hc
        cases hc
  rw [List.cons_append, skipNumber]
  simp only [hd, Bool.not_true, Bool.false_eq_true, if_false, if_neg hneedless, dropWhile_append hr hrest]
  cases rest with
  | nil => rfl
  | cons c t => rfl

theorem skipAfterWhole_append {fraction exponent : List Char} (hfraction : IsFraction fraction)
    (hexponent : IsExponent exponent) (hrest : Stops isNumeric rest) :
    skipAfterWhole (fraction ++ (exponent ++ rest)) = .ok rest := by
  cases hfraction with
  | some hdecimals => exact skipDecimals_append hdecimals hexponent hrest
  | none =>
      cases exponent with
      | cons e exponent =>
          obtain ⟨he, hskip⟩ := hexponent.skip (stops_digit hrest)
          have hpoint : e ≠ '.' := by
            rcases he with rfl | rfl <;> decide
          simp only [List.nil_append, List.cons_append, skipAfterWhole, if_neg hpoint, if_pos he, hskip]
      | nil =>
          cases rest with
          | nil => rfl
          | cons c t =>
              have hnumeric := hrest c t rfl
              have hpoint : c ≠ '.' := by
                rintro rfl
                cases hnumeric
              have hletter : ¬(c = 'e' ∨ c = 'E') := by
                rintro (rfl | rfl) <;> cases hnumeric
              simp only [List.nil_append, skipAfterWhole, if_neg hpoint, if_neg hletter]

/-- Numerals without a sign are read over. -/
theorem skipNumber_append (h : IsUnsigned l) (hrest : Stops isNumeric rest) : skipNumber (l ++ rest) = .ok rest := by
  obtain ⟨hds, hzero, hfraction, hexponent⟩ := h
  next ds fraction exponent =>
  have hstops : Stops Char.isDigit (fraction ++ (exponent ++ rest)) := by
    cases hfraction with
    | none => exact hexponent.stops hrest
    | some _ => exact stops_cons rfl _
  rw [List.append_assoc, List.append_assoc, skipNumber_whole hds hzero hstops]
  exact skipAfterWhole_append hfraction hexponent hrest

/-! ## Values without parts -/

/-- A value without parts. -/
inductive IsScalar : List Char → Prop
  /-- No value. -/
  | null : IsScalar "null".toList
  /-- A truth value. -/
  | yes : IsScalar "true".toList
  /-- A truth value. -/
  | no : IsScalar "false".toList
  /-- A number. -/
  | number {l : List Char} (h : IsNumeral l) : IsScalar l
  /-- A string. -/
  | text {body : List Char} (h : Passable body) : IsScalar ('"' :: (body ++ ['"']))

/-- Words are read over. -/
theorem readWord_append (word rest : List Char) : readWord word (word ++ rest) = .ok rest := by
  induction word with
  | nil => rfl
  | cons w ws ih => rw [List.cons_append, readWord, if_pos rfl, ih]

/-- A character with which a value can begin: neither blank nor closing. -/
structure Begins (c : Char) : Prop where
  /-- It is no blank. -/
  visible : isBlank c = false
  /-- It closes no brackets. -/
  ne_close : ∀ b : Bracket, c ≠ b.close

theorem begins_of_ne {c : Char} (hvisible : isBlank c = false) (hlist : c ≠ ']') (hobject : c ≠ '\x7d') : Begins c where
  visible := hvisible
  ne_close b := by
    cases b with
    | list => exact hlist
    | object => exact hobject

theorem begins_digit {d : Char} (h : d.isDigit = true) : Begins d ∧ Bracket.opened? d = none := by
  have hvisible : isBlank d = false := by
    simp [isBlank, ne_of_isDigit h (c := ' ') rfl, ne_of_isDigit h (c := '\n') rfl, ne_of_isDigit h (c := '\t') rfl,
      ne_of_isDigit h (c := '\r') rfl]
  have hlist : d ≠ '[' := ne_of_isDigit h rfl
  have hobject : d ≠ '\x7b' := ne_of_isDigit h rfl
  refine ⟨begins_of_ne hvisible (ne_of_isDigit h rfl) (ne_of_isDigit h rfl), ?_⟩
  unfold Bracket.opened?
  split
  · exact absurd rfl hlist
  · exact absurd rfl hobject
  · rfl

/-- A digit begins no word and no string. -/
theorem skipScalar_digit {d : Char} (h : d.isDigit = true) (s : List Char) :
    skipScalar d (d :: s) = skipNumber (d :: s) := by
  rw [skipScalar, if_neg (ne_of_isDigit h rfl), if_neg (ne_of_isDigit h rfl), if_neg (ne_of_isDigit h rfl),
    if_neg (ne_of_isDigit h rfl), if_neg (ne_of_isDigit h rfl), if_pos h]

/-- **Values without parts are read over.** -/
theorem skipScalar_append (h : IsScalar l) (hrest : Stops isNumeric rest) :
    ∃ c r, l = c :: r ∧ Begins c ∧ Bracket.opened? c = none ∧ skipScalar c (l ++ rest) = .ok rest := by
  cases h with
  | null =>
      refine ⟨'n', _, rfl, begins_of_ne rfl (by decide) (by decide), rfl, ?_⟩
      exact readWord_append "ull".toList rest
  | yes =>
      refine ⟨'t', _, rfl, begins_of_ne rfl (by decide) (by decide), rfl, ?_⟩
      exact readWord_append "rue".toList rest
  | no =>
      refine ⟨'f', _, rfl, begins_of_ne rfl (by decide) (by decide), rfl, ?_⟩
      exact readWord_append "alse".toList rest
  | @text body hbody =>
      refine ⟨'"', _, rfl, begins_of_ne rfl (by decide) (by decide), rfl, ?_⟩
      have hskip : skipText (body ++ ['"'] ++ rest) = .ok rest := by
        rw [List.append_assoc]
        exact skipText_passable hbody rest
      exact hskip
  | number hnumeral =>
      cases hnumeral with
      | negative hunsigned =>
          refine ⟨'-', _, rfl, begins_of_ne rfl (by decide) (by decide), rfl, ?_⟩
          exact skipNumber_append hunsigned hrest
      | plain hunsigned =>
          have hskip := skipNumber_append hunsigned hrest
          obtain ⟨hds, _, _, _⟩ := hunsigned
          obtain ⟨d, r, rfl, hd, _⟩ := hds.exists_cons
          obtain ⟨hbegins, hopened⟩ := begins_digit hd
          refine ⟨d, _, rfl, hbegins, hopened, ?_⟩
          rw [← hskip]
          exact skipScalar_digit hd _

end FipsAudit.Json
