import FipsAudit.Proofs.Json.Layout
import FipsAudit.Proofs.Text.Pieces

/-!
# `FipsAudit.Proofs.Json.Value` — the tokens of a value

What is written for a value is one of the many texts that hold its tokens.

* `Value.tokens` — the tokens of a value.
* `Holds` — a piece of text that holds given tokens wherever it stands.
* `Value.spaced_pretty` — the written form holds the tokens of the value.
-/

namespace FipsAudit.Json

open FipsAudit.Text

/-! ## Tokens -/

/-- What separates a part from those before it: a comma, unless it is the first one. -/
def separator (first : Bool) : List Token := if first then [] else [.mark .comma]

/-- Parts with commas between them, and one before them unless they come first. -/
def parted (first : Bool) : List (List Token) → List Token
  | [] => []
  | p :: ps => separator first ++ (p ++ parted false ps)

/-- Parts between brackets. -/
def enclosed (b : Bracket) (parts : List (List Token)) : List Token :=
  .mark (.opening b) :: (parted true parts ++ [.mark (.closing b)])

/-- A member: its key, a colon and its value. -/
def memberOf (key : String) (value : List Token) : List Token := .text key :: .mark .colon :: value

namespace Value

mutual

/-- The tokens of a value. -/
def tokens : Value → List Token
  | text s => [.text s]
  | bool true => [.scalar _ .yes]
  | bool false => [.scalar _ .no]
  | list elements => enclosed .list (elementTokens elements)
  | object members => enclosed .object (memberTokens members)

/-- The tokens of the elements of an array. -/
def elementTokens : List Value → List (List Token)
  | [] => []
  | v :: vs => v.tokens :: elementTokens vs

/-- The tokens of the members of an object. -/
def memberTokens : List (String × Value) → List (List Token)
  | [] => []
  | (k, v) :: ms => memberOf k v.tokens :: memberTokens ms

end

theorem elementTokens_eq_map (vs : List Value) : elementTokens vs = vs.map tokens := by
  induction vs with
  | nil => rfl
  | cons v vs ih => rw [elementTokens, ih, List.map_cons]

theorem memberTokens_eq_map (ms : List (String × Value)) :
    memberTokens ms = ms.map fun m => memberOf m.1 m.2.tokens := by
  induction ms with
  | nil => rfl
  | cons m ms ih => rw [memberTokens, ih, List.map_cons]

end Value

/-! ## Pieces of text -/

/-- The text holds the tokens, whatever stands after it. -/
def Holds (tokens : List Token) (l : List Char) : Prop :=
  ∀ (ts : List Token) (s : List Char), Spaced ts s → Spaced (tokens ++ ts) (l ++ s)

variable {ts us : List Token} {l m : List Char}

theorem Holds.append (h : Holds ts l) (h' : Holds us m) : Holds (ts ++ us) (l ++ m) := by
  intro vs s hs
  rw [List.append_assoc, List.append_assoc]
  exact h _ _ (h' _ _ hs)

theorem Token.Written.holds {t : Token} (h : t.Written l) : Holds [t] l := fun _ _ hs => hs.written h

/-- Blanks hold nothing. -/
theorem Holds.blanks (h : Holds ts m) (hl : ∀ c ∈ l, isBlank c = true) : Holds ts (l ++ m) := by
  intro us s hs
  rw [List.append_assoc]
  exact (h us s hs).blanks hl

theorem holds_mark (m : Mark) : Holds [.mark m] [m.char] := (Token.Written.mark m).holds

theorem holds_stringChars (s : String) : Holds [.text s] (stringChars s) := by
  have hwritten : Token.Written (.text s) (stringChars s) := .text (spelled_escapeChar s.toList)
  exact hwritten.holds

/-! ## The written form -/

theorem isBlank_of_mem_newLine {level : Nat} {c : Char} (h : c ∈ newLine level) : isBlank c = true := by
  rcases List.mem_cons.mp h with rfl | hspace
  · rfl
  · rw [List.eq_of_mem_replicate hspace]
    rfl

/-- Brackets on one line. -/
theorem holds_bracketed_nil (b : Bracket) (level : Nat) :
    Holds (enclosed b []) (bracketed (Mark.opening b).char b.close level []) :=
  (holds_mark (.opening b)).append (holds_mark (.closing b))

/-- Brackets around lines. -/
theorem holds_bracketed_cons (b : Bracket) {level : Nat} {p : List Token} {ps : List (List Token)} {q : List Char}
    {qs : List (List Char)} (hp : Holds p q)
    (hps : Holds (parted false ps) (qs.flatMap (',' :: newLine (level + 1) ++ ·))) :
    Holds (enclosed b (p :: ps)) (bracketed (Mark.opening b).char b.close level (q :: qs)) := by
  have hlines : bracketed (Mark.opening b).char b.close level (q :: qs) = [(Mark.opening b).char] ++
      (newLine (level + 1) ++ q ++ qs.flatMap (',' :: newLine (level + 1) ++ ·) ++ (newLine level ++ [b.close])) := by
    rw [bracketed, if_neg (by simp), List.map_cons, intercalate_cons, List.flatMap_map]
    simp
  rw [hlines]
  exact (holds_mark (.opening b)).append (((hp.blanks fun c hc => isBlank_of_mem_newLine hc).append hps).append
    ((holds_mark (.closing b)).blanks fun c hc => isBlank_of_mem_newLine hc))

/-- A line holds a part. -/
theorem holds_line {level : Nat} {p : List Token} {ps : List (List Token)} {q : List Char} {qs : List (List Char)}
    (hp : Holds p q) (hps : Holds (parted false ps) (qs.flatMap (',' :: newLine level ++ ·))) :
    Holds (parted false (p :: ps)) ((q :: qs).flatMap (',' :: newLine level ++ ·)) := by
  have hcomma : Holds (.mark .comma :: p) (',' :: newLine level ++ q) :=
    (holds_mark .comma).append (hp.blanks fun c hc => isBlank_of_mem_newLine hc)
  rw [List.flatMap_cons]
  exact hcomma.append hps

/-- A member holds its key and its value. -/
theorem holds_member (key : String) (h : Holds ts l) :
    Holds (memberOf key ts) (stringChars key ++ [':', ' '] ++ l) := by
  have hspace : Holds ts (' ' :: l) := h.blanks (l := [' ']) (by simp [isBlank])
  rw [List.append_assoc]
  exact (holds_stringChars key).append ((holds_mark .colon).append hspace)

namespace Value

mutual

/-- The written form of a value holds its tokens. -/
theorem holds_chars (v : Value) (level : Nat) : Holds v.tokens (v.chars level) := by
  match v with
  | text s => exact holds_stringChars s
  | bool true => exact (Token.Written.scalar .yes).holds
  | bool false => exact (Token.Written.scalar .no).holds
  | list [] => exact holds_bracketed_nil .list level
  | list (v :: vs) => exact holds_bracketed_cons .list (holds_chars v (level + 1)) (holds_elementChars vs (level + 1))
  | object [] => exact holds_bracketed_nil .object level
  | object ((k, v) :: ms) =>
      exact holds_bracketed_cons .object (holds_member k (holds_chars v (level + 1))) (holds_memberChars ms (level + 1))

/-- So do the lines of an array after the first. -/
theorem holds_elementChars (vs : List Value) (level : Nat) :
    Holds (parted false (elementTokens vs))
      ((elementChars level vs).flatMap (',' :: newLine level ++ ·)) := by
  match vs with
  | [] => exact fun ts s hs => hs
  | v :: vs => exact holds_line (holds_chars v level) (holds_elementChars vs level)

/-- And those of an object. -/
theorem holds_memberChars (ms : List (String × Value)) (level : Nat) :
    Holds (parted false (memberTokens ms))
      ((memberChars level ms).flatMap (',' :: newLine level ++ ·)) := by
  match ms with
  | [] => exact fun ts s hs => hs
  | (k, v) :: ms => exact holds_line (holds_member k (holds_chars v level)) (holds_memberChars ms level)

end

/-- **The written form of a value is a text that holds its tokens.** -/
theorem spaced_pretty (v : Value) : Spaced v.tokens v.pretty.toList := by
  have hchars : Spaced (v.tokens ++ []) (v.chars 0 ++ []) := holds_chars v 0 [] [] (.nil (by simp))
  rwa [List.append_nil, List.append_nil, ← String.toList_ofList (l := v.chars 0)] at hchars

end Value

end FipsAudit.Json
