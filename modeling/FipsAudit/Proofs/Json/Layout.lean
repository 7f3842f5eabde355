import FipsAudit.Proofs.Json.Scalar

/-!
# `FipsAudit.Proofs.Json.Layout` — tokens and the blanks between them

A document is a sequence of tokens. Between them, before the first and after the last there may be blanks of any number
and kind.

* `Mark`, `Token` — brackets and separators, strings whose content counts, and values without parts whose content does
  not.
* `Spaced` — the texts that hold given tokens; `Spaced.exists_blankless` and what follows it find the first one.
* `Opening` — how a value begins; `Closed` — what may follow one.
-/

namespace FipsAudit.Json

open FipsAudit.Text

/-! ## Tokens -/

/-- The marks that structure a document. -/
inductive Mark where
  /-- A bracket that opens. -/
  | opening (b : Bracket)
  /-- A bracket that closes. -/
  | closing (b : Bracket)
  /-- The separator of elements and members. -/
  | comma
  /-- The separator of a key and its value. -/
  | colon
deriving DecidableEq, Repr

/-- The character of a mark. -/
def Mark.char : Mark → Char
  | .opening .list => '['
  | .opening .object => '\x7b'
  | .closing b => b.close
  | .comma => ','
  | .colon => ':'

/-- The tokens of a document. -/
inductive Token where
  /-- A mark. -/
  | mark (m : Mark)
  /-- A string, in any spelling. -/
  | text (t : String)
  /-- A value without parts, as it is spelled. -/
  | scalar (l : List Char) (h : IsScalar l)

/-- The spellings of a token. -/
inductive Token.Written : Token → List Char → Prop
  /-- A mark has one. -/
  | mark (m : Mark) : Written (.mark m) [m.char]
  /-- A string has many. -/
  | text {t : String} {body : List Char} (h : Spelled t.toList body) : Written (.text t) ('"' :: (body ++ ['"']))
  /-- A scalar has the one that it holds. -/
  | scalar {l : List Char} (h : IsScalar l) : Written (.scalar l h) l

/-- The texts that hold the given tokens, with blanks around them. -/
inductive Spaced : List Token → List Char → Prop
  /-- Blanks alone. -/
  | nil {blanks : List Char} (h : ∀ c ∈ blanks, isBlank c = true) : Spaced [] blanks
  /-- Blanks, a token, and the other tokens. -/
  | cons {blanks w s : List Char} {t : Token} {ts : List Token} (h : ∀ c ∈ blanks, isBlank c = true)
      (ht : t.Written w) (hts : Spaced ts s) : Spaced (t :: ts) (blanks ++ (w ++ s))

variable {m : Mark} {t : Token} {ts : List Token} {l s w : List Char}

theorem Mark.char_visible (m : Mark) : isBlank m.char = false ∧ isNumeric m.char = false := by
  rcases m with (_ | _) | (_ | _) | _ | _ <;> exact ⟨rfl, rfl⟩

theorem IsScalar.exists_cons (h : IsScalar l) : ∃ c r, l = c :: r ∧ Begins c ∧ Bracket.opened? c = none := by
  obtain ⟨c, r, hcons, hbegins, hopened, -⟩ := skipScalar_append h (stops_nil isNumeric)
  exact ⟨c, r, hcons, hbegins, hopened⟩

/-- No token begins with a blank. -/
theorem Token.Written.stops (h : t.Written w) (rest : List Char) : Stops isBlank (w ++ rest) := by
  cases h with
  | mark m => exact stops_cons m.char_visible.1 rest
  | text _ => exact stops_cons rfl _
  | scalar hscalar =>
      obtain ⟨c, r, rfl, hbegins, -⟩ := hscalar.exists_cons
      exact stops_cons hbegins.visible _

/-! ## The first token -/

/-- Blanks aside, a text begins with its first token. -/
theorem Spaced.exists_blankless (h : Spaced (t :: ts) s) :
    ∃ w r, t.Written w ∧ blankless s = w ++ r ∧ Spaced ts r := by
  cases h with
  | cons hblanks ht hts => exact ⟨_, _, ht, dropWhile_append hblanks (ht.stops _), hts⟩

theorem Spaced.blankless_nil (h : Spaced [] s) : blankless s = [] := by
  cases h with
  | nil hblanks => exact List.append_nil s ▸ dropWhile_append hblanks (stops_nil isBlank)

/-- A token can be put in front. -/
theorem Spaced.written (h : Spaced ts s) (ht : t.Written w) : Spaced (t :: ts) (w ++ s) := by
  rw [← List.nil_append (w ++ s)]
  exact .cons (by simp) ht h

/-- Leading blanks can be dropped. -/
theorem Spaced.drop (h : Spaced ts s) : Spaced ts (blankless s) := by
  cases ts with
  | nil =>
      rw [h.blankless_nil]
      exact .nil (by simp)
  | cons t ts =>
      obtain ⟨w, r, ht, hblankless, hts⟩ := h.exists_blankless
      rw [hblankless]
      exact hts.written ht

/-- More of them can be put there. -/
theorem Spaced.blanks {blanks : List Char} (hblanks : ∀ c ∈ blanks, isBlank c = true) (h : Spaced ts s) :
    Spaced ts (blanks ++ s) := by
  have hmem : ∀ others : List Char, (∀ c ∈ others, isBlank c = true) → ∀ c ∈ blanks ++ others, isBlank c = true :=
    fun others hothers c hc => (List.mem_append.mp hc).elim (hblanks c) (hothers c)
  cases h with
  | nil hothers => exact .nil (hmem _ hothers)
  | cons hothers ht hts =>
      rw [← List.append_assoc]
      exact .cons (hmem _ hothers) ht hts

theorem Spaced.mark (h : Spaced (.mark m :: ts) s) : ∃ r, blankless s = m.char :: r ∧ Spaced ts r := by
  obtain ⟨w, r, ht, hblankless, hts⟩ := h.exists_blankless
  cases ht
  exact ⟨r, hblankless, hts⟩

theorem Spaced.text {t : String} (h : Spaced (.text t :: ts) s) :
    ∃ body r, blankless s = '"' :: (body ++ '"' :: r) ∧ Spelled t.toList body ∧ Spaced ts r := by
  obtain ⟨w, r, ht, hblankless, hts⟩ := h.exists_blankless
  cases ht with
  | @text _ body hspelled =>
      refine ⟨body, r, ?_, hspelled, hts⟩
      rw [hblankless, List.cons_append, List.append_assoc]
      rfl

theorem Spaced.scalar {hl : IsScalar l} (h : Spaced (.scalar l hl :: ts) s) :
    ∃ r, blankless s = l ++ r ∧ Spaced ts r := by
  obtain ⟨w, r, ht, hblankless, hts⟩ := h.exists_blankless
  cases ht
  exact ⟨r, hblankless, hts⟩

/-! ## Values between their neighbours -/

/-- Tokens that begin like a value. -/
inductive Opening : List Token → Prop
  /-- With a bracket. -/
  | bracket (b : Bracket) (ts : List Token) : Opening (.mark (.opening b) :: ts)
  /-- With a string. -/
  | text (t : String) (ts : List Token) : Opening (.text t :: ts)
  /-- With a value without parts. -/
  | scalar {l : List Char} (h : IsScalar l) (ts : List Token) : Opening (.scalar l h :: ts)

theorem Opening.append (h : Opening ts) (us : List Token) : Opening (ts ++ us) := by
  cases h with
  | bracket b ts => exact .bracket b _
  | text t ts => exact .text t _
  | scalar h ts => exact .scalar h _

/-- A value does not begin like the end of its list. -/
theorem Spaced.opening (h : Spaced ts s) (hts : Opening ts) :
    ∃ c r, blankless s = c :: r ∧ Begins c ∧ Spaced ts (c :: r) := by
  have hdrop : Spaced ts (blankless s) := h.drop
  have hbegins : ∃ c r, blankless s = c :: r ∧ Begins c := by
    cases hts with
    | bracket b _ =>
        obtain ⟨r, hblankless, -⟩ := h.mark
        refine ⟨_, r, hblankless, ?_⟩
        cases b with
        | list => exact begins_of_ne rfl (by decide) (by decide)
        | object => exact begins_of_ne rfl (by decide) (by decide)
    | text t _ =>
        obtain ⟨body, r, hblankless, -⟩ := h.text
        exact ⟨_, _, hblankless, begins_of_ne rfl (by decide) (by decide)⟩
    | scalar hl _ =>
        obtain ⟨r, hblankless, -⟩ := h.scalar
        obtain ⟨c, t, rfl, hc, -⟩ := hl.exists_cons
        exact ⟨c, _, hblankless, hc⟩
  obtain ⟨c, r, hblankless, hc⟩ := hbegins
  exact ⟨c, r, hblankless, hc, hblankless ▸ hdrop⟩

/-- What may follow a value: a mark, or nothing. -/
inductive Closed : List Token → Prop
  /-- Nothing. -/
  | nil : Closed []
  /-- A mark. -/
  | mark (m : Mark) (ts : List Token) : Closed (.mark m :: ts)

/-- What follows a value does not go on with a numeral. -/
theorem Spaced.stops (h : Spaced ts s) (hts : Closed ts) : Stops isNumeric s := by
  have hblank : ∀ c, isBlank c = true → isNumeric c = false := by
    intro c hc
    simp only [isBlank, Bool.or_eq_true, beq_iff_eq] at hc
    rcases hc with ((rfl | rfl) | rfl) | rfl <;> rfl
  have hblanks : ∀ (blanks r : List Char), (∀ c ∈ blanks, isBlank c = true) → Stops isNumeric r →
      Stops isNumeric (blanks ++ r) := by
    intro blanks r hall hr
    cases blanks with
    | nil => exact hr
    | cons c blanks => exact stops_cons (hblank c (hall c List.mem_cons_self)) _
  cases h with
  | nil hall => exact List.append_nil s ▸ hblanks s [] hall (stops_nil _)
  | cons hall ht _ =>
      refine hblanks _ _ hall ?_
      cases hts
      cases ht
      exact stops_cons (Mark.char_visible _).2 _

end FipsAudit.Json
