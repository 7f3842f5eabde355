import FipsAudit.Text.Number
import FipsAudit.Text.Pieces

/-!
# `FipsAudit.BuildInfo.Quoted` — quoted keys and values

Keys and values that hold blanks, equal signs or quotation marks are quoted: between back quotes as they are, or
between double quotes with backslash escapes. Escapes name a character by a letter or by two, four or eight
hexadecimal digits.

* `quotedLead?` — the quoted literal at the front of a text, quotation marks included.
* `unquote` — the text that a quoted literal stands for.
-/

namespace FipsAudit.BuildInfo

open Text

/-- The quotation mark whose content stands as it is. -/
def backQuote : Char := '\x60'

/-! ## Where a literal ends -/

/-- The characters up to the closing `mark`, that included, and the rest. In double quotes a backslash hides the
    character after it; `hidden` says that the next character is hidden. -/
def closeQuote (mark : Char) (hidden : Bool) (seen : List Char) : List Char → Option (List Char × List Char)
  | [] => none
  | c :: r =>
    if hidden then closeQuote mark false (c :: seen) r
    else if mark = '"' ∧ c = '\\' then closeQuote mark true (c :: seen) r
    else if c = mark then some ((c :: seen).reverse, r)
    else closeQuote mark false (c :: seen) r

/-- The quoted literal at the front of `s` with both marks, and what follows it. The first character is taken
    for the mark. -/
def quotedLead? : List Char → Option (List Char × List Char)
  | [] => none
  | mark :: r => closeQuote mark false [mark] r

/-! ## What a literal says -/

/-- The characters that one letter after a backslash stands for. -/
def shortEscape? : Char → Option Char
  | 'n' => some '\n'
  | 't' => some '\t'
  | 'r' => some '\r'
  | 'a' => some '\x07'
  | 'b' => some '\x08'
  | 'f' => some '\x0c'
  | 'v' => some '\x0b'
  | '\\' => some '\\'
  | '"' => some '"'
  | '\'' => some '\''
  | _ => none

/-- How many hexadecimal digits follow the letter of a numeric escape. -/
def escapeDigits? : Char → Option Nat
  | 'x' => some 2
  | 'u' => some 4
  | 'U' => some 8
  | _ => none

/-- The number of `count` hexadecimal digits at the front of `s`, and the rest. -/
def hexDigits? : (count : Nat) → (value : Nat) → List Char → Option (Nat × List Char)
  | 0, value, s => some (value, s)
  | _ + 1, _, [] => none
  | count + 1, value, c :: r =>
    match hexValue? c with
    | none => none
    | some d => hexDigits? count (value * 16 + d) r

theorem length_of_hexDigits? {count value n : Nat} {s r : List Char} (h : hexDigits? count value s = some (n, r)) :
    r.length ≤ s.length := by
  induction count generalizing value s with
  | zero => simp_all [hexDigits?]
  | succ count ih =>
      cases s with
      | nil => simp [hexDigits?] at h
      | cons c s =>
          simp only [hexDigits?] at h
          split at h
          · simp at h
          · have := ih h
            simp only [List.length_cons]
            omega

/-- The character of an escape after the backslash, and the rest. -/
def escape? : List Char → Option (Char × List Char)
  | [] => none
  | c :: r =>
    match shortEscape? c with
    | some d => some (d, r)
    | none =>
      match escapeDigits? c with
      | none => none
      | some count =>
        match hexDigits? count 0 r with
        | none => none
        | some (n, rest) => (charOfNat? n).map (·, rest)

theorem length_of_escape? {s r : List Char} {c : Char} (h : escape? s = some (c, r)) : r.length < s.length := by
  cases s with
  | nil => simp [escape?] at h
  | cons d s =>
      simp only [escape?] at h
      split at h
      · simp at h
        simp [h.2]
      · split at h
        · simp at h
        · split at h
          · simp at h
          · rename_i hd
            simp only [Option.map_eq_some_iff, Prod.mk.injEq] at h
            obtain ⟨_, _, _, rfl⟩ := h
            have := length_of_hexDigits? hd
            simp only [List.length_cons]
            omega

/-- The text of the characters between double quotes, appended to `seen`, which is in reverse. -/
def unescape (seen : List Char) (s : List Char) : Option (List Char) :=
  match s with
  | [] => some seen.reverse
  | c :: r =>
    if c = '"' then none
    else if c = '\\' then
      match _h : escape? r with
      | none => none
      | some (d, rest) => unescape (d :: seen) rest
    else unescape (c :: seen) r
termination_by s.length
decreasing_by
  · have := length_of_escape? _h
    simp only [List.length_cons]
    omega
  · simp

/-- The characters between a leading and a trailing `mark`, which are two characters. -/
def between? (mark : Char) (s : List Char) : Option (List Char) :=
  match s with
  | [] => none
  | c :: r => if c = mark then before? [mark] r else none

/-- The text that a quoted literal stands for; `none` when `s` is no literal. -/
def unquote (s : List Char) : Option (List Char) :=
  match between? backQuote s with
  | some inner => if backQuote ∈ inner then none else some inner
  | none => (between? '"' s).bind (unescape [])

end FipsAudit.BuildInfo
