import FipsAudit.Json.Fault

/-!
# `FipsAudit.Json.Token` — strings, numbers and words

Readers for the parts of a document that hold no other parts. Each takes the characters from some point on and
gives what it read with the characters left, which are fewer.

* `blankless` — the characters without leading blanks.
* `readText` — a string after its opening quotation mark, decoded.
* `skipText`, `skipNumber`, `readWord` — parts read over. Text that is only read over may hold lone surrogates.
-/

namespace FipsAudit.Json

open Text

/-- The blanks of a document. -/
def isBlank (c : Char) : Bool := c == ' ' || c == '\n' || c == '\t' || c == '\r'

/-- The characters without leading blanks. -/
def blankless (s : List Char) : List Char := s.dropWhile isBlank

theorem length_dropWhile_le {α : Type} (p : α → Bool) (l : List α) : (l.dropWhile p).length ≤ l.length :=
  (List.dropWhile_sublist p).length_le

theorem length_blankless_le (s : List Char) : (blankless s).length ≤ s.length := length_dropWhile_le _ _

theorem length_lt_of_blankless {s r : List Char} {c : Char} (h : blankless s = c :: r) : r.length < s.length := by
  have := length_blankless_le s
  rw [h, List.length_cons] at this
  omega

/-! ## Escapes -/

/-- The character that one letter after a backslash stands for. -/
def shortEscape? : Char → Option Char
  | '"' => some '"'
  | '\\' => some '\\'
  | '/' => some '/'
  | 'b' => some '\x08'
  | 'f' => some '\x0c'
  | 'n' => some '\n'
  | 'r' => some '\r'
  | 't' => some '\t'
  | _ => none

/-- The number of four hexadecimal digits, and the rest. Four bytes are looked at, whatever they are. -/
def readHex4 (s : List Char) : Except Fault (Nat × List Char) :=
  match s with
  | a :: b :: c :: d :: r =>
    match hexValue? a, hexValue? b, hexValue? c, hexValue? d with
    | some a, some b, some c, some d => .ok (((a * 16 + b) * 16 + c) * 16 + d, r)
    | _, _, _, _ => .error (.at .invalidEscape s 4)
  | _ => if Utf8.size s < 4 then .error (.at .endInString []) else .error (.at .invalidEscape s 4)

theorem length_of_readHex4 {s r : List Char} {n : Nat} (h : readHex4 s = .ok (n, r)) : r.length < s.length := by
  unfold readHex4 at h
  split at h
  · split at h
    · simp only [Except.ok.injEq, Prod.mk.injEq] at h
      simp only [← h.2, List.length_cons]
      omega
    · simp at h
  · split at h <;> simp at h

/-- Whether `n` is a leading surrogate. -/
def isLeading (n : Nat) : Bool := 0xD800 ≤ n && n ≤ 0xDBFF

/-- Whether `n` is a trailing surrogate. -/
def isTrailing (n : Nat) : Bool := 0xDC00 ≤ n && n ≤ 0xDFFF

/-- The next character has to be `wanted`, inside a pair of surrogates. -/
def expectInPair (wanted : Char) (s : List Char) : Except Fault (List Char) :=
  match s with
  | [] => .error (.at .endInString [])
  | c :: r => if c = wanted then .ok r else .error (.at .unfinishedPair s 1)

/-- The character of a numeric escape after its letter: one unit, or a pair of surrogates in two escapes. -/
def readUnit (s : List Char) : Except Fault (Char × List Char) :=
  match readHex4 s with
  | .error e => .error e
  | .ok (n, r) =>
    if isTrailing n then .error (.at .loneSurrogate r)
    else if !isLeading n then .ok (Char.ofNat n, r)
    else
      match expectInPair '\\' r with
      | .error e => .error e
      | .ok r =>
        match expectInPair 'u' r with
        | .error e => .error e
        | .ok r =>
          match readHex4 r with
          | .error e => .error e
          | .ok (m, r) =>
            if isTrailing m then .ok (Char.ofNat ((n - 0xD800) * 1024 + (m - 0xDC00) + 0x10000), r)
            else .error (.at .loneSurrogate r)

theorem length_of_expectInPair {c : Char} {s r : List Char} (h : expectInPair c s = .ok r) :
    r.length < s.length := by
  cases s with
  | nil => simp [expectInPair] at h
  | cons d s =>
      simp only [expectInPair] at h
      split at h
      · simp only [Except.ok.injEq] at h
        simp [h]
      · simp at h

theorem length_of_readUnit {s r : List Char} {c : Char} (h : readUnit s = .ok (c, r)) : r.length < s.length := by
  unfold readUnit at h
  split at h
  · simp at h
  · rename_i n r₁ h₁
    have l₁ := length_of_readHex4 h₁
    split at h
    · simp at h
    · split at h
      · simp only [Except.ok.injEq, Prod.mk.injEq] at h
        obtain ⟨-, rfl⟩ := h
        exact l₁
      · split at h
        · simp at h
        · rename_i r₂ h₂
          have l₂ := length_of_expectInPair h₂
          split at h
          · simp at h
          · rename_i r₃ h₃
            have l₃ := length_of_expectInPair h₃
            split at h
            · simp at h
            · rename_i m r₄ h₄
              have l₄ := length_of_readHex4 h₄
              split at h
              · simp only [Except.ok.injEq, Prod.mk.injEq] at h
                obtain ⟨-, rfl⟩ := h
                omega
              · simp at h

/-- The character of an escape after the backslash. -/
def readEscape (s : List Char) : Except Fault (Char × List Char) :=
  match s with
  | [] => .error (.at .endInString [])
  | c :: r =>
    if c = 'u' then readUnit r
    else
      match shortEscape? c with
      | some d => .ok (d, r)
      | none => .error (.at .invalidEscape s 1)

theorem length_of_readEscape {s r : List Char} {c : Char} (h : readEscape s = .ok (c, r)) :
    r.length < s.length := by
  cases s with
  | nil => simp [readEscape] at h
  | cons d s =>
      simp only [readEscape] at h
      split at h
      · have := length_of_readUnit h
        simp only [List.length_cons]
        omega
      · split at h
        · simp only [Except.ok.injEq, Prod.mk.injEq] at h
          simp [h.2]
        · simp at h

/-! ## Strings -/

/-- Reads a string after its opening quotation mark; `seen` is what was read before, in reverse. -/
def readTextFrom (seen : List Char) (s : List Char) : Except Fault (List Char × List Char) :=
  match s with
  | [] => .error (.at .endInString [])
  | c :: r =>
    if c = '"' then .ok (seen.reverse, r)
    else if c = '\\' then
      match _h : readEscape r with
      | .error e => .error e
      | .ok (d, rest) => readTextFrom (d :: seen) rest
    else if c.toNat < 0x20 then .error (.at .controlCharacter s 1)
    else readTextFrom (c :: seen) r
termination_by s.length
decreasing_by
  · have := length_of_readEscape _h
    simp only [List.length_cons]
    omega
  · simp

theorem length_of_readTextFrom {seen s r t : List Char} (h : readTextFrom seen s = .ok (t, r)) :
    r.length < s.length := by
  fun_induction readTextFrom seen s with
  | case1 => simp at h
  | case2 =>
      simp only [Except.ok.injEq, Prod.mk.injEq] at h
      simp [h.2]
  | case3 => simp at h
  | case4 =>
      rename_i hr _ ih
      have := length_of_readEscape hr
      have := ih h
      simp only [List.length_cons]
      omega
  | case5 => simp at h
  | case6 _ _ _ _ _ _ ih =>
      have := ih h
      simp only [List.length_cons]
      omega

/-- A string after its opening quotation mark, and the rest. -/
def readText (s : List Char) : Except Fault (List Char × List Char) := readTextFrom [] s

theorem length_of_readText {s r t : List Char} (h : readText s = .ok (t, r)) : r.length < s.length :=
  length_of_readTextFrom h

/-- Reads over an escape after the backslash. -/
def skipEscape (s : List Char) : Except Fault (List Char) :=
  match s with
  | [] => .error (.at .endInString [])
  | c :: r =>
    if c = 'u' then (readHex4 r).map (·.2)
    else if (shortEscape? c).isSome then .ok r
    else .error (.at .invalidEscape s 1)

theorem length_of_skipEscape {s r : List Char} (h : skipEscape s = .ok r) : r.length < s.length := by
  cases s with
  | nil => simp [skipEscape] at h
  | cons d s =>
      simp only [skipEscape] at h
      split at h
      · match hr : readHex4 s with
        | .error e => simp [hr, Except.map] at h
        | .ok (n, t) =>
            simp only [hr, Except.map, Except.ok.injEq] at h
            have := length_of_readHex4 hr
            simp only [← h, List.length_cons]
            omega
      · split at h
        · simp only [Except.ok.injEq] at h
          simp [h]
        · simp at h

/-- Reads over a string after its opening quotation mark. -/
def skipText (s : List Char) : Except Fault (List Char) :=
  match s with
  | [] => .error (.at .endInString [])
  | c :: r =>
    if c = '"' then .ok r
    else if c = '\\' then
      match _h : skipEscape r with
      | .error e => .error e
      | .ok rest => skipText rest
    else if c.toNat < 0x20 then .error (.at .controlCharacter s)
    else skipText r
termination_by s.length
decreasing_by
  · have := length_of_skipEscape _h
    simp only [List.length_cons]
    omega
  · simp

theorem length_of_skipText {s r : List Char} (h : skipText s = .ok r) : r.length < s.length := by
  fun_induction skipText s with
  | case1 => simp at h
  | case2 =>
      simp only [Except.ok.injEq] at h
      simp [h]
  | case3 => simp at h
  | case4 =>
      rename_i hr _ ih
      have := length_of_skipEscape hr
      have := ih h
      simp only [List.length_cons]
      omega
  | case5 => simp at h
  | case6 _ _ _ _ _ ih =>
      have := ih h
      simp only [List.length_cons]
      omega

/-! ## Words -/

/-- Reads the given letters. -/
def readWord (word : List Char) (s : List Char) : Except Fault (List Char) :=
  match word, s with
  | [], s => .ok s
  | _ :: _, [] => .error (.at .endInValue [])
  | w :: ws, c :: r => if c = w then readWord ws r else .error (.at .expectedIdent (c :: r) 1)

theorem length_of_readWord {word s r : List Char} (h : readWord word s = .ok r) : r.length ≤ s.length := by
  fun_induction readWord word s with
  | case1 =>
      simp only [Except.ok.injEq] at h
      simp [h]
  | case2 => simp at h
  | case3 =>
      rename_i ih
      have := ih h
      simp only [List.length_cons]
      omega
  | case4 => simp at h

/-! ## Numbers -/

/-- Reads over the exponent after its letter. -/
def skipExponent (s : List Char) : Except Fault (List Char) :=
  let s := match s with
    | c :: r => if c = '+' ∨ c = '-' then r else c :: r
    | [] => []
  match s with
  | c :: r => if c.isDigit then .ok (r.dropWhile Char.isDigit) else .error (.at .invalidNumber s 1)
  | [] => .error (.at .invalidNumber [])

/-- Reads over the decimals after the point, and the exponent. -/
def skipDecimals (s : List Char) : Except Fault (List Char) :=
  let r := s.dropWhile Char.isDigit
  if s.takeWhile Char.isDigit = [] then .error (.at .invalidNumber s 1)
  else
    match r with
    | c :: r' => if c = 'e' ∨ c = 'E' then skipExponent r' else .ok r
    | [] => .ok r

/-- Reads over a number after its sign. -/
def skipNumber (s : List Char) : Except Fault (List Char) :=
  match s with
  | [] => .error (.at .invalidNumber [])
  | c :: r =>
    if !c.isDigit then .error (.at .invalidNumber s 1)
    else if c = '0' ∧ r.head?.any Char.isDigit then .error (.at .invalidNumber r 1)
    else
      match r.dropWhile Char.isDigit with
      | [] => .ok []
      | d :: rest =>
        if d = '.' then skipDecimals rest
        else if d = 'e' ∨ d = 'E' then skipExponent rest
        else .ok (d :: rest)

theorem length_of_skipExponent {s r : List Char} (h : skipExponent s = .ok r) : r.length ≤ s.length := by
  have tail : ∀ t : List Char, (match t with
      | c :: r => if c.isDigit then (Except.ok (r.dropWhile Char.isDigit) : Except Fault (List Char))
          else .error (.at .invalidNumber t 1)
      | [] => .error (.at .invalidNumber [])) = .ok r → r.length ≤ t.length := by
    intro t ht
    cases t with
    | nil => simp at ht
    | cons c t =>
        simp only at ht
        split at ht
        · simp only [Except.ok.injEq] at ht
          have := length_dropWhile_le Char.isDigit t
          simp only [← ht, List.length_cons]
          omega
        · simp at ht
  unfold skipExponent at h
  cases s with
  | nil => simp at h
  | cons c s =>
      simp only at h
      by_cases hc : c = '+' ∨ c = '-'
      · rw [if_pos hc] at h
        have := tail s h
        simp only [List.length_cons]
        omega
      · rw [if_neg hc] at h
        exact tail (c :: s) h

theorem length_of_skipDecimals {s r : List Char} (h : skipDecimals s = .ok r) : r.length ≤ s.length := by
  have hl := length_dropWhile_le Char.isDigit s
  unfold skipDecimals at h
  simp only at h
  split at h
  · simp at h
  · split at h
    · rename_i heq
      rw [heq] at hl
      split at h
      · have := length_of_skipExponent h
        simp only [List.length_cons] at hl
        omega
      · simp only [Except.ok.injEq] at h
        rw [← h, heq]
        exact hl
    · simp only [Except.ok.injEq] at h
      rw [← h]
      exact length_dropWhile_le Char.isDigit s

theorem length_of_skipNumber {s r : List Char} (h : skipNumber s = .ok r) : r.length < s.length := by
  cases s with
  | nil => simp [skipNumber] at h
  | cons c s =>
      have hl := length_dropWhile_le Char.isDigit s
      simp only [skipNumber] at h
      split at h
      · simp at h
      · split at h
        · simp at h
        · split at h
          · simp only [Except.ok.injEq] at h
            simp [← h]
          · rename_i d rest heq
            rw [heq] at hl
            simp only [List.length_cons] at hl ⊢
            split at h
            · have := length_of_skipDecimals h
              omega
            · split at h
              · have := length_of_skipExponent h
                omega
              · simp only [Except.ok.injEq] at h
                simp only [← h, List.length_cons]
                omega

end FipsAudit.Json
