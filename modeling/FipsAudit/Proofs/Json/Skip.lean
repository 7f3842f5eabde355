import FipsAudit.Proofs.Json.Layout

/-!
# `FipsAudit.Proofs.Json.Skip` — any value is read over

What a reader does not ask for is read over, whatever it is: the grammar of all values, nested to any depth.

* `IsJson`, `IsParts` — the values, and the elements or members between brackets.
* `skipOpen_json` — a value is read over inside any open brackets.
* `skipValue_json` — so it is on its own.
-/

namespace FipsAudit.Json

open FipsAudit.Text

/-! ## The grammar -/

/-- What stands before the value of a part: a key and its colon, or nothing. -/
inductive IsLead : Bracket → List Token → Prop
  /-- Nothing before an element. -/
  | element : IsLead .list []
  /-- A key before a member's value. -/
  | member {body : List Char} (h : Passable body) :
      IsLead .object [.scalar ('"' :: (body ++ ['"'])) (.text h), .mark .colon]

mutual

/-- All values. -/
inductive IsJson : List Token → Prop
  /-- A value without parts. -/
  | scalar {l : List Char} (h : IsScalar l) : IsJson [.scalar l h]
  /-- Brackets with nothing between them. -/
  | empty (b : Bracket) : IsJson [.mark (.opening b), .mark (.closing b)]
  /-- Brackets with parts between them. -/
  | full {b : Bracket} {ts : List Token} (h : IsParts b ts) :
      IsJson (.mark (.opening b) :: (ts ++ [.mark (.closing b)]))

/-- The parts between brackets, with commas between them. -/
inductive IsParts : Bracket → List Token → Prop
  /-- One part. -/
  | last {b : Bracket} {lead ts : List Token} (hlead : IsLead b lead) (h : IsJson ts) : IsParts b (lead ++ ts)
  /-- One part and the others. -/
  | more {b : Bracket} {lead ts us : List Token} (hlead : IsLead b lead) (h : IsJson ts) (hus : IsParts b us) :
      IsParts b (lead ++ (ts ++ .mark .comma :: us))

end

/-! ## Steps -/

variable {stack : List Bracket} {stage : Stage} {b : Bracket} {c : Char} {s r q : List Char} {ts : List Token}

/-- An opening bracket. -/
theorem skipOpen_opening (h : blankless s = c :: r) (hc : Bracket.opened? c = some b) :
    skipOpen stack .value s = skipOpen (b :: stack) .first r := by
  generalize hstage : Stage.value = stage
  fun_cases skipOpen stack stage s <;> simp_all

/-- A value without parts. -/
theorem skipOpen_scalar (h : blankless s = c :: r) (hc : Bracket.opened? c = none)
    (hq : skipScalar c (c :: r) = .ok q) : skipOpen stack .value s = skipOpen stack .rest q := by
  generalize hstage : Stage.value = stage
  fun_cases skipOpen stack stage s <;> simp_all

/-- A closing bracket. -/
theorem skipOpen_closing (h : blankless s = b.close :: r) (hstage : stage ≠ .value) :
    skipOpen (b :: stack) stage s = skipOpen stack .rest r := by
  generalize hstack : b :: stack = brackets
  fun_cases skipOpen brackets stage s <;> simp_all

/-- What stands before the value of the first part. -/
theorem skipOpen_first (h : blankless s = c :: r) (hc : c ≠ b.close) (hq : b.skipLead (c :: r) = .ok q) :
    skipOpen (b :: stack) .first s = skipOpen (b :: stack) .value q := by
  generalize hstage : Stage.first = stage, hstack : b :: stack = brackets
  fun_cases skipOpen brackets stage s <;> simp_all

/-- What stands before the value of another part. -/
theorem skipOpen_comma (h : blankless s = ',' :: r) (hq : b.skipLead r = .ok q) :
    skipOpen (b :: stack) .rest s = skipOpen (b :: stack) .value q := by
  have hc : ',' ≠ b.close := by cases b <;> decide
  generalize hstage : Stage.rest = stage, hstack : b :: stack = brackets
  fun_cases skipOpen brackets stage s <;> simp_all

/-- Nothing is open any more. -/
theorem skipOpen_nil (s : List Char) : skipOpen [] .rest s = .ok s := by
  generalize hstage : Stage.rest = stage, hstack : ([] : List Bracket) = brackets
  fun_cases skipOpen brackets stage s <;> simp_all

/-! ## Whole values -/

theorem readColon_spaced (h : Spaced (.mark .colon :: ts) s) : ∃ r, readColon s = .ok r ∧ Spaced ts r := by
  obtain ⟨r, hblankless, hts⟩ := h.mark
  refine ⟨r, ?_, hts⟩
  rw [readColon, hblankless]
  rfl

/-- What stands before a value is read over. -/
theorem skipLead_spaced {lead : List Token} (hlead : IsLead b lead) (h : Spaced (lead ++ ts) s) :
    ∃ r, b.skipLead s = .ok r ∧ Spaced ts r := by
  cases hlead with
  | element => exact ⟨s, rfl, h⟩
  | @member body hbody =>
      obtain ⟨r, hblankless, hcolon⟩ := h.scalar
      obtain ⟨q, hq, hts⟩ := readColon_spaced hcolon
      refine ⟨q, ?_, hts⟩
      rw [List.cons_append, List.append_assoc] at hblankless
      have htext : skipText (body ++ '"' :: r) = .ok r := skipText_passable hbody r
      rw [← hq, Bracket.skipLead, skipKey, hblankless]
      simp only [if_true, List.singleton_append, htext]

/-- A value begins like one. -/
theorem IsJson.opening (h : IsJson ts) : Opening ts := by
  cases h with
  | scalar h => exact .scalar h _
  | empty b => exact .bracket b _
  | full _ => exact .bracket _ _

theorem IsLead.opening {lead us : List Token} (hlead : IsLead b lead) (hus : Opening us) : Opening (lead ++ us) := by
  cases hlead with
  | element => exact hus
  | member hbody => exact .scalar _ _

/-- So do the parts between brackets. -/
theorem IsParts.opening (h : IsParts b ts) : Opening ts := by
  cases h with
  | last hlead h => exact hlead.opening h.opening
  | more hlead h _ => exact hlead.opening (h.opening.append _)

theorem opened?_char (b : Bracket) : Bracket.opened? (Mark.opening b).char = some b := by
  cases b <;> rfl

mutual

/-- **Inside any open brackets a value is read over.** -/
theorem skipOpen_json {tokens : List Token} (h : IsJson tokens) :
    ∀ (stack : List Bracket) {ts : List Token} {s : List Char}, Closed ts → Spaced (tokens ++ ts) s →
      ∃ r, Spaced ts r ∧ skipOpen stack .value s = skipOpen stack .rest r := by
  intro stack ts s hclosed hs
  match h with
  | .scalar hscalar =>
      obtain ⟨r, hblankless, hts⟩ := hs.scalar
      obtain ⟨c, w, rfl, -, hopened, hskip⟩ := skipScalar_append hscalar (hts.stops hclosed)
      exact ⟨r, hts, skipOpen_scalar hblankless hopened hskip⟩
  | .empty b =>
      obtain ⟨r, hopening, hr⟩ := hs.mark
      obtain ⟨q, hclosing, hq⟩ := hr.mark
      refine ⟨q, hq, ?_⟩
      rw [skipOpen_opening hopening (opened?_char b), skipOpen_closing hclosing (by decide)]
  | @IsJson.full b _ hparts =>
      rw [List.cons_append, List.append_assoc] at hs
      obtain ⟨r, hopening, hr⟩ := hs.mark
      obtain ⟨c, w, hblankless, hbegins, hw⟩ := hr.opening (hparts.opening.append _)
      obtain ⟨q, v, hlead, hv, hskip⟩ := skipOpen_parts hparts stack hw
      refine ⟨v, hv, ?_⟩
      rw [skipOpen_opening hopening (opened?_char b), skipOpen_first hblankless (hbegins.ne_close b) hlead, hskip]

/-- So are the parts between brackets, up to the bracket that closes. -/
theorem skipOpen_parts {b : Bracket} {tokens : List Token} (h : IsParts b tokens) :
    ∀ (stack : List Bracket) {ts : List Token} {s : List Char}, Spaced (tokens ++ .mark (.closing b) :: ts) s →
      ∃ q r, b.skipLead s = .ok q ∧ Spaced ts r ∧ skipOpen (b :: stack) .value q = skipOpen stack .rest r := by
  intro stack ts s hs
  match h with
  | .last hlead hjson =>
      rw [List.append_assoc] at hs
      obtain ⟨q, hq, hvalue⟩ := skipLead_spaced hlead hs
      obtain ⟨r, hr, hskip⟩ := skipOpen_json hjson (b :: stack) (.mark _ _) hvalue
      obtain ⟨v, hclosing, hv⟩ := hr.mark
      refine ⟨q, v, hq, hv, ?_⟩
      rw [hskip, skipOpen_closing hclosing (by decide)]
  | .more hlead hjson hrest =>
      rw [List.append_assoc, List.append_assoc] at hs
      obtain ⟨q, hq, hvalue⟩ := skipLead_spaced hlead hs
      obtain ⟨r, hr, hskip⟩ := skipOpen_json hjson (b :: stack) (.mark _ _) hvalue
      obtain ⟨u, hcomma, hu⟩ := hr.mark
      obtain ⟨v, w, hv, hw, hparts⟩ := skipOpen_parts hrest stack hu
      refine ⟨q, w, hq, hw, ?_⟩
      rw [hskip, skipOpen_comma hcomma hv, hparts]

end

/-- **A value is read over.** -/
theorem skipValue_json {tokens : List Token} (h : IsJson tokens) (hts : Closed ts) (hs : Spaced (tokens ++ ts) s) :
    ∃ r, skipValue s = .ok r ∧ Spaced ts r := by
  obtain ⟨r, hr, hskip⟩ := skipOpen_json h [] hts hs
  exact ⟨r, hskip.trans (skipOpen_nil r), hr⟩

end FipsAudit.Json
