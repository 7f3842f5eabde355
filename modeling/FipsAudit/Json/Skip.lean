import FipsAudit.Json.Token

/-!
# `FipsAudit.Json.Skip` — values read over

Members that nobody asks for are read over. Their values must be JSON, nested as deep as they like, with numbers
of any size and with strings that need not be text.

* `Bracket` — the two kinds of brackets.
* `skipOpen` — reads over the rest of a value, given the brackets that are open.
* `skipValue` — reads over a value.
-/

namespace FipsAudit.Json

/-- The kinds of brackets. -/
inductive Bracket where
  /-- Square brackets around elements. -/
  | list
  /-- Curly brackets around members. -/
  | object
deriving DecidableEq, Repr

namespace Bracket

/-- The kind that a character opens. -/
def opened? : Char → Option Bracket
  | '[' => some .list
  | '\x7b' => some .object
  | _ => none

/-- The character that closes. -/
def close : Bracket → Char
  | .list => ']'
  | .object => '\x7d'

/-- The end of the document between the brackets. -/
def endCause : Bracket → Cause
  | .list => .endInList
  | .object => .endInObject

/-- Something else than a comma or the closing bracket. -/
def separatorCause : Bracket → Cause
  | .list => .expectedListEnd
  | .object => .expectedObjectEnd

end Bracket

/-! ## Parts of members -/

/-- Reads over the colon after a key. -/
def readColon (s : List Char) : Except Fault (List Char) :=
  match blankless s with
  | [] => .error (.at .endInObject [])
  | c :: r => if c = ':' then .ok r else .error (.at .expectedColon (c :: r) 1)

theorem length_of_readColon {s r : List Char} (h : readColon s = .ok r) : r.length < s.length := by
  unfold readColon at h
  split at h
  · simp at h
  · rename_i heq
    have := length_lt_of_blankless heq
    split at h
    · simp only [Except.ok.injEq] at h
      rwa [← h]
    · simp at h

/-- Reads over a key and its colon. -/
def skipKey (s : List Char) : Except Fault (List Char) :=
  match blankless s with
  | [] => .error (.at .endInObject [])
  | c :: r =>
    if c = '"' then
      match skipText r with
      | .error e => .error e
      | .ok r => readColon r
    else .error (.at .keyNotString (c :: r) 1)

theorem length_of_skipKey {s r : List Char} (h : skipKey s = .ok r) : r.length < s.length := by
  unfold skipKey at h
  split at h
  · simp at h
  · rename_i heq
    have := length_lt_of_blankless heq
    split at h
    · split at h
      · simp at h
      · rename_i ht
        have := length_of_skipText ht
        have := length_of_readColon h
        omega
    · simp at h

/-- Reads over what stands before an element's value. -/
def Bracket.skipLead (b : Bracket) (s : List Char) : Except Fault (List Char) :=
  match b with
  | .list => .ok s
  | .object => skipKey s

theorem Bracket.length_of_skipLead {b : Bracket} {s r : List Char} (h : b.skipLead s = .ok r) :
    r.length ≤ s.length := by
  cases b with
  | list =>
      simp only [skipLead, Except.ok.injEq] at h
      simp [h]
  | object => exact Nat.le_of_lt (length_of_skipKey h)

/-! ## Values -/

/-- Reads over a value without parts; `s` begins with `c`. -/
def skipScalar (c : Char) (s : List Char) : Except Fault (List Char) :=
  if c = 'n' then readWord "ull".toList s.tail
  else if c = 't' then readWord "rue".toList s.tail
  else if c = 'f' then readWord "alse".toList s.tail
  else if c = '"' then skipText s.tail
  else if c = '-' then skipNumber s.tail
  else if c.isDigit then skipNumber s
  else .error (.at .expectedValue s 1)

theorem length_of_skipScalar {c : Char} {s r : List Char} (h : skipScalar c (c :: s) = .ok r) :
    r.length ≤ s.length := by
  simp only [skipScalar, List.tail_cons] at h
  split at h
  · exact length_of_readWord h
  split at h
  · exact length_of_readWord h
  split at h
  · exact length_of_readWord h
  split at h
  · exact Nat.le_of_lt (length_of_skipText h)
  split at h
  · exact Nat.le_of_lt (length_of_skipNumber h)
  split at h
  · have := length_of_skipNumber h
    simp only [List.length_cons] at this
    omega
  · simp at h

/-- What may come next inside open brackets. -/
inductive Stage where
  /-- A value. -/
  | value
  /-- The first element or the closing bracket. -/
  | first
  /-- A comma or the closing bracket. -/
  | rest
deriving DecidableEq, Repr

/-- Orders the stages at one place of the document. -/
def Stage.rank : Stage → Nat
  | .first => 1
  | _ => 0

/-- Reads on until every bracket of `stack`, innermost first, is closed. -/
def skipOpen (stack : List Bracket) (stage : Stage) (s : List Char) : Except Fault (List Char) :=
  match stage, stack, _h : blankless s with
  | .value, _, [] => .error (.at .endInValue [])
  | .value, stack, c :: r =>
    match Bracket.opened? c with
    | some b => skipOpen (b :: stack) .first r
    | none =>
      match _hs : skipScalar c (c :: r) with
      | .error e => .error e
      | .ok r => skipOpen stack .rest r
  | _, [], _ => .ok s
  | _, b :: _, [] => .error (.at b.endCause [])
  | .first, b :: stack, c :: r =>
    if c = b.close then skipOpen stack .rest r
    else
      match _hl : b.skipLead (c :: r) with
      | .error e => .error e
      | .ok r => skipOpen (b :: stack) .value r
  | .rest, b :: stack, c :: r =>
    if c = b.close then skipOpen stack .rest r
    else if c = ',' then
      match _hl : b.skipLead r with
      | .error e => .error e
      | .ok r => skipOpen (b :: stack) .value r
    else .error (.at b.separatorCause (c :: r) 1)
termination_by (s.length, stage.rank)
decreasing_by
  all_goals have hb := length_lt_of_blankless _h
  · exact Prod.Lex.left _ _ hb
  · have := length_of_skipScalar _hs
    exact Prod.Lex.left _ _ (by omega)
  · exact Prod.Lex.left _ _ hb
  · have := Bracket.length_of_skipLead _hl
    simp only [List.length_cons] at this
    rcases Nat.lt_or_ge r.length s.length with h | h
    · exact Prod.Lex.left _ _ h
    · have : r.length = s.length := by omega
      rw [this]
      exact Prod.Lex.right _ (by simp [Stage.rank])
  · exact Prod.Lex.left _ _ hb
  · have := Bracket.length_of_skipLead _hl
    exact Prod.Lex.left _ _ (by omega)

theorem length_of_skipOpen {stack : List Bracket} {stage : Stage} {s r : List Char}
    (h : skipOpen stack stage s = .ok r) :
    r.length ≤ s.length ∧ (stage = .value → r.length < s.length) := by
  fun_induction skipOpen stack stage s with
  | case5 _ _ h₁ h₂ =>
      simp only [Except.ok.injEq] at h
      subst h
      refine ⟨Nat.le_refl _, fun hv => ?_⟩
      rename_i s
      match hb : blankless s with
      | [] => exact (h₁ hv hb).elim
      | c :: r => exact (h₂ c r hv hb).elim
  | _ => grind [→ length_lt_of_blankless, → length_of_skipScalar, → Bracket.length_of_skipLead]

/-- Reads over a value. -/
def skipValue (s : List Char) : Except Fault (List Char) := skipOpen [] .value s

theorem length_of_skipValue {s r : List Char} (h : skipValue s = .ok r) : r.length < s.length :=
  (length_of_skipOpen h).2 rfl

end FipsAudit.Json
