import FipsAudit.BuildInfo.Quoted
import Mathlib.Algebra.Group.Nat.Defs

/-!
# `FipsAudit.Proofs.BuildInfo.Quoted` — quoted text is read back

Between double quotes a character can be written in several ways: as itself, by a letter after a backslash, or by its
number. Two loops of the reader pass over such a text, one to find where it ends and one to undo the escapes. They
agree on every way of writing one character, and so they agree on every text. A writer is free to choose among the
ways; the one here escapes what has no visible form, and which characters beyond ASCII have one is left open.

* `Spells`, `SpellsAll` — the ways to write one character between double quotes, and a text.
* `Spells.closeQuote`, `Spells.unescape` — both loops pass over a written character.
* `Literal` — a quoted text; `Literal.quotedLead?`, `Literal.unquote` — where it ends, and what it stands for.
* `quoteLiteral` — a text between double quotes, as a writer puts it there.
* `closeQuote_append` — the search for the end takes nothing away.
-/

namespace FipsAudit.BuildInfo

open Text

/-! ## One character -/

/-- **The ways to write one character between double quotes.** -/
inductive Spells : List Char → Char → Prop where
  /-- As itself. -/
  | plain {c : Char} (notMark : c ≠ '"') (notEscape : c ≠ '\\') : Spells [c] c
  /-- By a letter after a backslash. -/
  | short {letter c : Char} (known : shortEscape? letter = some c) : Spells ['\\', letter] c
  /-- By its number in hexadecimal digits, as many as the letter says. -/
  | numeric {letter c : Char} {digits : List Char} {values : List Nat}
      (count : escapeDigits? letter = some digits.length) (read : digits.map hexValue? = values.map some)
      (number : values.foldl (fun n d => n * 16 + d) 0 = c.toNat) : Spells ('\\' :: letter :: digits) c

/-- Hexadecimal digits are read from the most significant one on. -/
theorem hexDigits?_append {digits : List Char} {values : List Nat} (h : digits.map hexValue? = values.map some)
    (value : Nat) (rest : List Char) :
    hexDigits? digits.length value (digits ++ rest) = some (values.foldl (fun n d => n * 16 + d) value, rest) := by
  induction digits generalizing values value with
  | nil =>
      cases values with
      | nil => rfl
      | cons v values => exact absurd h (by simp)
  | cons d digits ih =>
      cases values with
      | nil => exact absurd h (by simp)
      | cons v values =>
          obtain ⟨hd, hrest⟩ := List.cons.inj h
          simp only [List.length_cons, List.cons_append, hexDigits?, hd, List.foldl_cons]
          exact ih hrest _

/-- A hexadecimal digit is no quotation mark and no backslash. -/
theorem ne_of_hexValue? {c : Char} {v : Nat} (h : hexValue? c = some v) : c ≠ '"' ∧ c ≠ '\\' := by
  have hmark : hexValue? '"' = none := by decide
  have hescape : hexValue? '\\' = none := by decide
  refine ⟨?_, ?_⟩
  · rintro rfl
    exact absurd (hmark.symm.trans h) (by simp)
  · rintro rfl
    exact absurd (hescape.symm.trans h) (by simp)

theorem forall_ne_of_map_hexValue? {digits : List Char} {values : List Nat}
    (h : digits.map hexValue? = values.map some) : ∀ d ∈ digits, d ≠ '"' ∧ d ≠ '\\' := by
  intro d hd
  have hmem : hexValue? d ∈ values.map some := h ▸ List.mem_map_of_mem hd
  obtain ⟨v, -, hv⟩ := List.mem_map.mp hmem
  exact ne_of_hexValue? hv.symm

/-- The letter of a numeric escape is none of a short one. -/
theorem shortEscape?_of_escapeDigits? {letter : Char} {count : Nat} (h : escapeDigits? letter = some count) :
    shortEscape? letter = none := by
  unfold escapeDigits? at h
  split at h
  · rfl
  · rfl
  · rfl
  · exact absurd h (by simp)

theorem charOfNat?_toNat (c : Char) : charOfNat? c.toNat = some c := by
  have hvalid : c.toNat.isValidChar := c.valid
  unfold charOfNat?
  rw [dif_pos hvalid]
  rfl

/-! ## The two loops -/

variable {seen rest : List Char}

/-- The search for the end passes over characters that neither close nor escape. -/
theorem closeQuote_plain {mark : Char} {s : List Char} (h : ∀ c ∈ s, c ≠ mark ∧ ¬(mark = '"' ∧ c = '\\')) :
    closeQuote mark false seen (s ++ rest) = closeQuote mark false (s.reverse ++ seen) rest := by
  induction s generalizing seen with
  | nil => rfl
  | cons c s ih =>
      obtain ⟨hmark, hescape⟩ := h c List.mem_cons_self
      rw [List.cons_append, closeQuote, if_neg Bool.false_ne_true, if_neg hescape, if_neg hmark,
        ih (fun d hd => h d (List.mem_cons_of_mem c hd)), List.reverse_cons, List.append_assoc, List.singleton_append]

/-- The search for the end closes at the mark. -/
theorem closeQuote_mark {mark : Char} (h : mark ≠ '\\') :
    closeQuote mark false seen (mark :: rest) = some ((mark :: seen).reverse, rest) := by
  rw [closeQuote, if_neg Bool.false_ne_true, if_neg (fun hc => h hc.2), if_pos rfl]

/-- The search for the end passes over a backslash and whatever it hides. -/
theorem closeQuote_escape (c : Char) :
    closeQuote '"' false seen ('\\' :: c :: rest) = closeQuote '"' false (c :: '\\' :: seen) rest := by
  rw [closeQuote, if_neg Bool.false_ne_true, if_pos ⟨rfl, rfl⟩, closeQuote, if_pos rfl]

namespace Spells

variable {w : List Char} {c : Char}

/-- **The search for the end passes over a written character.** -/
theorem closeQuote (h : Spells w c) :
    BuildInfo.closeQuote '"' false seen (w ++ rest) = BuildInfo.closeQuote '"' false (w.reverse ++ seen) rest := by
  cases h with
  | plain hmark hescape =>
      apply closeQuote_plain
      intro d hd
      rw [List.mem_singleton.mp hd]
      exact ⟨hmark, fun h => hescape h.2⟩
  | short => exact closeQuote_escape _
  | numeric _ hread _ =>
      have hplain := forall_ne_of_map_hexValue? hread
      rw [List.cons_append, List.cons_append, closeQuote_escape,
        closeQuote_plain fun d hd => ⟨(hplain d hd).1, fun h => (hplain d hd).2 h.2⟩]
      simp

/-- After the backslash, the escape of a written character is read. -/
theorem escape? (h : Spells ('\\' :: w) c) (hw : w ≠ []) (rest : List Char) :
    BuildInfo.escape? (w ++ rest) = some (c, rest) := by
  cases h with
  | plain => exact absurd rfl hw
  | short hknown => simp only [List.singleton_append, BuildInfo.escape?, hknown]
  | numeric hcount hread hnumber =>
      simp only [List.cons_append, BuildInfo.escape?, shortEscape?_of_escapeDigits? hcount, hcount,
        hexDigits?_append hread, hnumber, charOfNat?_toNat, Option.map_some]

/-- **Undoing the escapes yields a written character.** -/
theorem unescape (h : Spells w c) : BuildInfo.unescape seen (w ++ rest) = BuildInfo.unescape (c :: seen) rest := by
  have hbackslash : '\\' ≠ '"' := by decide
  cases h with
  | plain hmark hescape => rw [List.singleton_append, BuildInfo.unescape, if_neg hmark, if_neg hescape]
  | short hknown =>
      have hread := (Spells.short hknown).escape? (List.cons_ne_nil _ _) rest
      rw [List.cons_append, BuildInfo.unescape, if_neg hbackslash, if_pos rfl]
      -- The loop goes on with what the escape left.
      split <;> simp_all
  | numeric hcount hread hnumber =>
      have hescape := (Spells.numeric hcount hread hnumber).escape? (List.cons_ne_nil _ _) rest
      rw [List.cons_append, BuildInfo.unescape, if_neg hbackslash, if_pos rfl]
      split <;> simp_all

end Spells

/-! ## Literals -/

/-- The ways to write a text between double quotes: character by character. -/
inductive SpellsAll : List Char → List Char → Prop where
  | nil : SpellsAll [] []
  | cons {w ws s : List Char} {c : Char} (first : Spells w c) (rest : SpellsAll ws s) : SpellsAll (w ++ ws) (c :: s)

namespace SpellsAll

variable {ws s : List Char}

theorem closeQuote (h : SpellsAll ws s) :
    BuildInfo.closeQuote '"' false seen (ws ++ rest) = BuildInfo.closeQuote '"' false (ws.reverse ++ seen) rest := by
  induction h generalizing seen with
  | nil => rfl
  | cons first _ ih => rw [List.append_assoc, first.closeQuote, ih, List.reverse_append, List.append_assoc]

theorem unescape (h : SpellsAll ws s) : BuildInfo.unescape seen ws = some (seen.reverse ++ s) := by
  induction h generalizing seen with
  | nil => rw [BuildInfo.unescape, List.append_nil]
  | cons first _ ih => rw [first.unescape, ih, List.reverse_cons, List.append_assoc, List.singleton_append]

end SpellsAll

/-- **A quoted text**, and what it stands for. -/
inductive Literal : List Char → List Char → Prop where
  /-- Between back quotes, as it is. -/
  | raw {s : List Char} (unclosed : backQuote ∉ s) : Literal (backQuote :: s ++ [backQuote]) s
  /-- Between double quotes, with escapes. -/
  | escaped {ws s : List Char} (spelled : SpellsAll ws s) : Literal ('"' :: ws ++ ['"']) s

theorem between?_eq_some_iff {mark : Char} {q inner : List Char} :
    between? mark q = some inner ↔ q = mark :: inner ++ [mark] := by
  have hlast (r : List Char) : before? [mark] r = some inner ↔ r = inner ++ [mark] := by
    rw [before?, Option.map_eq_some_iff]
    constructor
    · rintro ⟨t, ht, rfl⟩
      rw [after?_eq_some_iff, List.reverse_eq_iff] at ht
      rw [ht, List.reverse_append, List.reverse_reverse]
    · rintro rfl
      exact ⟨inner.reverse, after?_eq_some_iff.mpr List.reverse_append, List.reverse_reverse inner⟩
  cases q with
  | nil => simp [between?]
  | cons c r =>
      rw [between?, List.cons_append, List.cons.injEq]
      by_cases h : c = mark
      · rw [if_pos h, hlast, and_iff_right h]
      · rw [if_neg h]
        exact iff_of_false (fun hc => by cases hc) (fun hc => h hc.1)

namespace Literal

variable {q s : List Char}

/-- **Where a quoted text ends is found**, whatever follows. -/
theorem quotedLead? (h : Literal q s) (rest : List Char) : BuildInfo.quotedLead? (q ++ rest) = some (q, rest) := by
  cases h with
  | raw hunclosed =>
      have hplain : ∀ c ∈ s, c ≠ backQuote ∧ ¬(backQuote = '"' ∧ c = '\\') := by
        intro c hc
        exact ⟨fun h => hunclosed (h ▸ hc), fun h => absurd h.1 (by decide)⟩
      rw [List.cons_append, List.cons_append, BuildInfo.quotedLead?, List.append_assoc, closeQuote_plain hplain,
        List.singleton_append, closeQuote_mark (by decide)]
      simp
  | escaped hspelled =>
      rw [List.cons_append, List.cons_append, BuildInfo.quotedLead?, List.append_assoc, hspelled.closeQuote,
        List.singleton_append, closeQuote_mark (by decide)]
      simp

/-- **A quoted text stands for what was quoted.** -/
theorem unquote (h : Literal q s) : BuildInfo.unquote q = some s := by
  cases h with
  | raw hunclosed =>
      rw [BuildInfo.unquote, between?_eq_some_iff.mpr rfl]
      exact if_neg hunclosed
  | @escaped ws _ hspelled =>
      have hraw : between? backQuote ('"' :: ws ++ ['"']) = none := by
        rw [List.cons_append, between?]
        exact if_neg (by decide)
      rw [BuildInfo.unquote, hraw, between?_eq_some_iff.mpr rfl]
      exact hspelled.unescape

end Literal

/-- A literal and what follows it make up the text. -/
theorem closeQuote_append {mark : Char} {hidden : Bool} {s literal : List Char}
    (h : closeQuote mark hidden seen s = some (literal, rest)) : literal ++ rest = seen.reverse ++ s := by
  induction s generalizing hidden seen with
  | nil => cases h
  | cons c r ih =>
      have hstep {hidden : Bool} (h : closeQuote mark hidden (c :: seen) r = some (literal, rest)) :
          literal ++ rest = seen.reverse ++ c :: r := by
        rw [ih h, List.reverse_cons, List.append_assoc, List.singleton_append]
      rw [closeQuote] at h
      split at h
      · exact hstep h
      · split at h
        · exact hstep h
        · split at h
          · obtain ⟨rfl, rfl⟩ := Prod.mk.inj (Option.some.inj h)
            rw [List.reverse_cons, List.append_assoc, List.singleton_append]
          · exact hstep h

/-! ## What is written -/

/-- The values of the lowest `width` hexadecimal digits of `n`, the most significant first. -/
def hexPlaces : (width n : Nat) → List Nat
  | 0, _ => []
  | width + 1, n => n / 16 ^ width % 16 :: hexPlaces width n

/-- The lowest `width` hexadecimal digits of `n` in small letters. -/
def hexNumeral (width n : Nat) : List Char := (hexPlaces width n).map Nat.digitChar

/-- The letter for a control character that has one. -/
def escapeLetter? : Char → Option Char
  | '\x07' => some 'a'
  | '\x08' => some 'b'
  | '\x0c' => some 'f'
  | '\n' => some 'n'
  | '\r' => some 'r'
  | '\t' => some 't'
  | '\x0b' => some 'v'
  | _ => none

/-- Whether a character is written as itself; `shown` decides beyond ASCII. -/
def isPrinted (shown : Char → Bool) (c : Char) : Bool :=
  if c.toNat < 0x80 then 0x20 ≤ c.toNat && c.toNat < 0x7F else shown c

/-- A character as it is written between double quotes. -/
def spell (shown : Char → Bool) (c : Char) : List Char :=
  if c = '"' ∨ c = '\\' then ['\\', c]
  else if isPrinted shown c then [c]
  else
    match escapeLetter? c with
    | some letter => ['\\', letter]
    | none =>
      if c.toNat < 0x20 ∨ c.toNat = 0x7F then '\\' :: 'x' :: hexNumeral 2 c.toNat
      else if c.toNat < 0x10000 then '\\' :: 'u' :: hexNumeral 4 c.toNat
      else '\\' :: 'U' :: hexNumeral 8 c.toNat

/-- A text between double quotes. -/
def quoteLiteral (shown : Char → Bool) (s : List Char) : List Char := '"' :: s.flatMap (spell shown) ++ ['"']

variable {shown : Char → Bool}

theorem length_hexPlaces (width n : Nat) : (hexPlaces width n).length = width := by
  induction width with
  | zero => rfl
  | succ width ih => rw [hexPlaces, List.length_cons, ih]

theorem lt_of_mem_hexPlaces {width n v : Nat} (h : v ∈ hexPlaces width n) : v < 16 := by
  induction width with
  | zero => exact absurd h List.not_mem_nil
  | succ width ih =>
      rcases List.mem_cons.mp h with rfl | h
      · exact Nat.mod_lt _ (by decide)
      · exact ih h

/-- The places of a number make up the number. -/
theorem foldl_hexPlaces (width n value : Nat) :
    (hexPlaces width n).foldl (fun n d => n * 16 + d) value = value * 16 ^ width + n % 16 ^ width := by
  induction width generalizing value with
  | zero => simp [hexPlaces, Nat.mod_one]
  | succ width ih =>
      rw [hexPlaces, List.foldl_cons, ih, Nat.mod_pow_succ, Nat.pow_succ, Nat.add_mul, Nat.mul_assoc,
        Nat.mul_comm 16, Nat.mul_comm (_ % 16)]
      omega

theorem hexValue?_digitChar {v : Nat} (h : v < 16) : hexValue? (Nat.digitChar v) = some v := by
  have hall : ∀ v : Fin 16, hexValue? (Nat.digitChar v) = some v.val := by decide
  exact hall ⟨v, h⟩

/-- A character is written by its number, if the letter asks for enough digits. -/
theorem spells_numeric {letter c : Char} {width : Nat} (hcount : escapeDigits? letter = some width)
    (hfits : c.toNat < 16 ^ width) : Spells ('\\' :: letter :: hexNumeral width c.toNat) c := by
  have hread : (hexNumeral width c.toNat).map hexValue? = (hexPlaces width c.toNat).map some := by
    rw [hexNumeral, List.map_map]
    exact List.map_congr_left fun v hv => hexValue?_digitChar (lt_of_mem_hexPlaces hv)
  refine .numeric ?_ hread ?_
  · rw [hexNumeral, List.length_map, length_hexPlaces, hcount]
  · rw [foldl_hexPlaces, Nat.zero_mul, Nat.zero_add, Nat.mod_eq_of_lt hfits]

theorem shortEscape?_of_escapeLetter? {c letter : Char} (h : escapeLetter? c = some letter) :
    shortEscape? letter = some c := by
  unfold escapeLetter? at h
  split at h <;> simp only [Option.some.injEq, reduceCtorEq] at h <;> subst h <;> rfl

/-- **What is written for a character is one of the ways to write it.** -/
theorem spells_spell (shown : Char → Bool) (c : Char) : Spells (spell shown c) c := by
  have hlt : c.toNat < 0x110000 := by
    rcases c.valid with h | h
    · exact Nat.lt_trans h (by decide)
    · exact h.2
  unfold spell
  -- In the order of the writer: marks, printed characters, letters, and numbers of two, four and eight digits.
  split
  · rename_i hmarked
    rcases hmarked with rfl | rfl <;> exact .short rfl
  · rename_i hunmarked
    split
    · exact .plain (fun h => hunmarked (Or.inl h)) (fun h => hunmarked (Or.inr h))
    · split
      · rename_i hletter
        exact .short (shortEscape?_of_escapeLetter? hletter)
      · split
        · exact spells_numeric rfl (by omega)
        · split
          · exact spells_numeric rfl (by omega)
          · exact spells_numeric rfl (by omega)

/-- **What is written for a text is a quoted text that stands for it.** -/
theorem literal_quoteLiteral (shown : Char → Bool) (s : List Char) : Literal (quoteLiteral shown s) s := by
  apply Literal.escaped
  induction s with
  | nil => exact .nil
  | cons c s ih => exact .cons (spells_spell shown c) ih

end FipsAudit.BuildInfo
