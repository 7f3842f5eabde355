/-!
# `FipsAudit.Text.Pieces` — cutting lists at separators

Lines, comma-separated tokens, dotted numbers, path components and string tables are all lists cut at one
separating element. The cutters work on lists of any element type, so the same laws serve characters and
bytes.

* `pieces sep l` — the parts of `l` between occurrences of `sep`; `n` separators give `n + 1` parts.
* `cutAt? sep l` — the parts before and after the first `sep`.
* `after? pre l` — what follows the leading `pre`.
* `occursIn needle l` — whether `needle` is a contiguous part of `l`.
-/

namespace FipsAudit.Text

variable {α : Type} [DecidableEq α]

/-- One step of `pieces`, from the right: a separator opens a new part, any other element joins the first. -/
def joinPiece (sep c : α) : List (List α) → List (List α)
  | [] => if c = sep then [[], []] else [[c]]
  | p :: ps => if c = sep then [] :: p :: ps else (c :: p) :: ps

/-- The parts of `l` between occurrences of `sep`. -/
def pieces (sep : α) (l : List α) : List (List α) :=
  l.foldr (joinPiece sep) [[]]

@[simp] theorem pieces_nil (sep : α) : pieces sep [] = [[]] := rfl

theorem pieces_cons (sep c : α) (l : List α) : pieces sep (c :: l) = joinPiece sep c (pieces sep l) := rfl

theorem joinPiece_ne_nil (sep c : α) (ps : List (List α)) : joinPiece sep c ps ≠ [] := by
  cases ps <;> by_cases h : c = sep <;> simp [joinPiece, h]

theorem pieces_ne_nil (sep : α) (l : List α) : pieces sep l ≠ [] := by
  cases l with
  | nil => simp
  | cons c l => exact joinPiece_ne_nil sep c (pieces sep l)

/-- Putting the separator back between the parts gives the list again. -/
def unpieces (sep : α) : List (List α) → List α
  | [] => []
  | [p] => p
  | p :: q :: ps => p ++ sep :: unpieces sep (q :: ps)

theorem unpieces_joinPiece (sep c : α) {ps : List (List α)} (h : ps ≠ []) :
    unpieces sep (joinPiece sep c ps) = c :: unpieces sep ps := by
  cases ps with
  | nil => exact absurd rfl h
  | cons p ps =>
      by_cases hc : c = sep
      · simp [joinPiece, hc, unpieces]
      · cases ps <;> simp [joinPiece, hc, unpieces]

theorem unpieces_pieces (sep : α) (l : List α) : unpieces sep (pieces sep l) = l := by
  induction l with
  | nil => rfl
  | cons c l ih => rw [pieces_cons, unpieces_joinPiece sep c (pieces_ne_nil sep l), ih]

/-- The parts before and after the first `sep`; `none` when it does not occur. -/
def cutAt? (sep : α) (l : List α) : Option (List α × List α) :=
  match l.dropWhile (· ≠ sep) with
  | [] => none
  | _ :: r => some (l.takeWhile (· ≠ sep), r)

/-- What follows the leading `pre` in `l`; `none` when `l` does not begin with it. -/
def after? : (pre : List α) → (l : List α) → Option (List α)
  | [], l => some l
  | _ :: _, [] => none
  | p :: ps, c :: l => if p = c then after? ps l else none

theorem after?_eq_some_iff {pre l r : List α} : after? pre l = some r ↔ l = pre ++ r := by
  induction pre generalizing l with
  | nil => simp [after?, eq_comm]
  | cons p ps ih =>
      cases l with
      | nil => simp [after?]
      | cons c l =>
          by_cases h : p = c
          · simp [after?, h, ih]
          · simp [after?, h, Ne.symm h]

/-- What precedes the trailing `post` in `l`; `none` when `l` does not end with it. -/
def before? (post : List α) (l : List α) : Option (List α) :=
  (after? post.reverse l.reverse).map List.reverse

/-- Whether `needle` is a contiguous part of `l`. -/
def occursIn (needle : List α) : List α → Bool
  | [] => needle.isEmpty
  | c :: l => needle.isPrefixOf (c :: l) || occursIn needle l

/-- `l` without the leading and trailing elements that satisfy `p`. -/
def strip {β : Type} (p : β → Bool) (l : List β) : List β :=
  ((l.dropWhile p).reverse.dropWhile p).reverse

end FipsAudit.Text
