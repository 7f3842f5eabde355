import FipsAudit.Text.Pieces

/-!
# `FipsAudit.Proofs.Text.Pieces` — what the parts of a list are

`pieces` and `occursIn` recurse over the list. The rules that speak of tokens and of texts inside other texts mean
something that needs no recursion: a token is a stretch without separators, bounded by separators or by an end of
the list. This file shows that both come to the same.

* `occursIn_iff` — a text occurs in another exactly when it is a contiguous part of it.
* `pieces_append` — the parts of two lists with a separator between them.
* `cutAt?_eq_some_iff`, `pieces_flatMap_closed` — what was put together with separators is cut there again.
* `IsPiece`, `mem_pieces_iff` — the parts of a list, described from outside.
* `intercalate_cons` — parts that are joined, one by one.
* `Separated`, `pieces_eq_iff` — all parts of a list at once.
-/

namespace FipsAudit.Text

variable {α : Type} [DecidableEq α]

/-! ## Occurrence -/

/-- **Occurrence is being a contiguous part.** -/
theorem occursIn_iff {needle l : List α} : occursIn needle l = true ↔ needle <:+: l := by
  induction l with
  | nil => simp [occursIn]
  | cons c l ih =>
      rw [occursIn, Bool.or_eq_true, List.isPrefixOf_iff_prefix, ih, List.infix_cons_iff]

/-! ## Parts between separators -/

theorem joinPiece_append (sep c : α) {ps : List (List α)} (qs : List (List α)) (h : ps ≠ []) :
    joinPiece sep c (ps ++ qs) = joinPiece sep c ps ++ qs := by
  cases ps with
  | nil => exact absurd rfl h
  | cons p ps => by_cases hc : c = sep <;> simp [joinPiece, hc]

/-- A separator between two lists separates their parts. -/
theorem pieces_append (sep : α) (l r : List α) :
    pieces sep (l ++ sep :: r) = pieces sep l ++ pieces sep r := by
  induction l with
  | nil =>
      obtain ⟨p, ps, hps⟩ := List.exists_cons_of_ne_nil (pieces_ne_nil sep r)
      rw [List.nil_append, pieces_cons, hps]
      simp [joinPiece]
  | cons c l ih =>
      rw [List.cons_append, pieces_cons, ih, joinPiece_append sep c _ (pieces_ne_nil sep l), pieces_cons]

/-- A list that ends with its first separator is cut there. -/
theorem cutAt?_append {sep : α} {l : List α} (h : sep ∉ l) (r : List α) : cutAt? sep (l ++ sep :: r) = some (l, r) := by
  have hne : ∀ a ∈ l, decide (a ≠ sep) = true := fun a ha => decide_eq_true fun heq => h (heq ▸ ha)
  have hhead : decide (sep ≠ sep) = false := decide_eq_false fun hself => hself rfl
  rw [cutAt?, List.dropWhile_append_of_pos hne, List.takeWhile_append_of_pos hne, List.dropWhile_cons,
    List.takeWhile_cons, hhead]
  simp

/-- **A list is cut at its first separator.** -/
theorem cutAt?_eq_some_iff {sep : α} {l a b : List α} : cutAt? sep l = some (a, b) ↔ l = a ++ sep :: b ∧ sep ∉ a := by
  constructor
  · intro h
    by_cases hmem : sep ∈ l
    · obtain ⟨before, after, rfl, hbefore⟩ := List.eq_append_cons_of_mem hmem
      rw [cutAt?_append hbefore] at h
      obtain ⟨rfl, rfl⟩ := Prod.mk.inj (Option.some.inj h)
      exact ⟨rfl, hbefore⟩
    · have hall : ∀ c ∈ l, decide (c ≠ sep) = true := fun c hc => decide_eq_true fun heq => hmem (heq ▸ hc)
      have hnone : (l ++ []).dropWhile (fun c => decide (c ≠ sep)) = [] := List.dropWhile_append_of_pos hall
      rw [List.append_nil] at hnone
      rw [cutAt?, hnone] at h
      cases h
  · rintro ⟨rfl, h⟩
    exact cutAt?_append h b

/-- A list without separators is its only part. -/
theorem pieces_of_not_mem {sep : α} {l : List α} (h : sep ∉ l) : pieces sep l = [l] := by
  induction l with
  | nil => rfl
  | cons c l ih =>
      have hc : c ≠ sep := fun hc => h (hc ▸ List.mem_cons_self)
      rw [pieces_cons, ih (fun hl => h (List.mem_cons_of_mem c hl)), joinPiece, if_neg hc]

/-- Closed parts are the parts of what they make up, with an empty one at the end. -/
theorem pieces_flatMap_closed {sep : α} {ls : List (List α)} (h : ∀ l ∈ ls, sep ∉ l) :
    pieces sep (ls.flatMap (· ++ [sep])) = ls ++ [[]] := by
  induction ls with
  | nil => rfl
  | cons l ls ih =>
      rw [List.flatMap_cons, List.append_assoc, List.singleton_append, pieces_append,
        pieces_of_not_mem (h l List.mem_cons_self), ih (fun q hq => h q (List.mem_cons_of_mem l hq))]
      rfl

/-- Parts hold no separator. -/
theorem not_mem_of_mem_pieces {sep : α} {p l : List α} (h : p ∈ pieces sep l) : sep ∉ p := by
  induction l generalizing p with
  | nil => simp_all
  | cons c l ih =>
      obtain ⟨q, qs, hq⟩ := List.exists_cons_of_ne_nil (pieces_ne_nil sep l)
      rw [pieces_cons, hq] at h
      rw [hq] at ih
      by_cases hc : c = sep
      · rw [joinPiece, if_pos hc] at h
        rcases List.mem_cons.mp h with rfl | h
        · exact List.not_mem_nil
        · exact ih h
      · rw [joinPiece, if_neg hc] at h
        rcases List.mem_cons.mp h with rfl | h
        · have hnot : sep ∉ q := ih List.mem_cons_self
          simp [Ne.symm hc, hnot]
        · exact ih (List.mem_cons_of_mem q h)

/-- `p` is a stretch of `l` without separators, and on both sides a separator or the end of `l` bounds it. -/
structure IsPiece (sep : α) (p l : List α) : Prop where
  /-- No separator lies inside. -/
  unbroken : sep ∉ p
  /-- What lies around it. -/
  bounded : ∃ before after, l = before ++ p ++ after ∧ (before = [] ∨ ∃ b, before = b ++ [sep]) ∧
    (after = [] ∨ ∃ a, after = sep :: a)

omit [DecidableEq α] in
/-- A part is bounded by the separators that are put back around it. -/
theorem bounded_of_mem (sep : α) {p : List α} {ps : List (List α)} (h : p ∈ ps) :
    ∃ before after, unpieces sep ps = before ++ p ++ after ∧ (before = [] ∨ ∃ b, before = b ++ [sep]) ∧
      (after = [] ∨ ∃ a, after = sep :: a) := by
  induction ps with
  | nil => exact absurd h List.not_mem_nil
  | cons q qs ih =>
      cases qs with
      | nil =>
          rw [List.mem_singleton] at h
          subst h
          exact ⟨[], [], by simp [unpieces], Or.inl rfl, Or.inl rfl⟩
      | cons q' qs =>
          rcases List.mem_cons.mp h with rfl | h
          · exact ⟨[], sep :: unpieces sep (q' :: qs), rfl, Or.inl rfl, Or.inr ⟨_, rfl⟩⟩
          · obtain ⟨before, after, heq, hbefore, hafter⟩ := ih h
            refine ⟨q ++ sep :: before, after, ?_, Or.inr ?_, hafter⟩
            · rw [unpieces, heq]
              simp
            · rcases hbefore with rfl | ⟨b, rfl⟩
              · exact ⟨q, rfl⟩
              · exact ⟨q ++ sep :: b, by simp⟩

/-- **The parts of a list are its bounded stretches without separators.** -/
theorem mem_pieces_iff {sep : α} {p l : List α} : p ∈ pieces sep l ↔ IsPiece sep p l := by
  constructor
  · intro h
    refine ⟨not_mem_of_mem_pieces h, ?_⟩
    have hp := bounded_of_mem sep h
    rwa [unpieces_pieces] at hp
  · rintro ⟨hp, before, after, rfl, hbefore, hafter⟩
    have hself : p ∈ pieces sep p := by
      rw [pieces_of_not_mem hp]
      exact List.mem_singleton_self p
    have hend : p ∈ pieces sep (p ++ after) := by
      rcases hafter with rfl | ⟨a, rfl⟩
      · rwa [List.append_nil]
      · rw [pieces_append]
        exact List.mem_append_left _ hself
    rcases hbefore with rfl | ⟨b, rfl⟩
    · exact hend
    · rw [List.append_assoc, List.append_assoc, List.singleton_append, pieces_append]
      exact List.mem_append_right _ hend

instance (sep : α) (p l : List α) : Decidable (IsPiece sep p l) := decidable_of_iff _ mem_pieces_iff

/-! ## Joined parts -/

/-- Joined parts are the first one, and each of the others after a separator. -/
theorem intercalate_cons {β : Type} (sep p : List β) (ps : List (List β)) :
    sep.intercalate (p :: ps) = p ++ ps.flatMap (sep ++ ·) := by
  induction ps generalizing p with
  | nil => rw [List.intercalate_singleton, List.flatMap_nil, List.append_nil]
  | cons q ps ih => rw [List.intercalate_cons_cons, ih, List.flatMap_cons, List.append_assoc, List.append_assoc]

omit [DecidableEq α] in
theorem unpieces_eq_intercalate (sep : α) (ps : List (List α)) : unpieces sep ps = [sep].intercalate ps := by
  induction ps with
  | nil => rfl
  | cons p ps ih =>
      cases ps with
      | nil => rw [unpieces, List.intercalate_singleton]
      | cons q ps => rw [unpieces, ih, List.intercalate_cons_cons, List.append_assoc, List.singleton_append]

/-- `l` is `ps` with separators between them, and there are no other separators in it. -/
structure Separated (sep : α) (ps : List (List α)) (l : List α) : Prop where
  /-- There is at least one part. -/
  parts : ps ≠ []
  /-- No separator lies inside a part. -/
  unbroken : ∀ p ∈ ps, sep ∉ p
  /-- The parts are joined. -/
  joined : [sep].intercalate ps = l

omit [DecidableEq α] in
/-- What is in a joined list is a separator or in one of the parts. -/
theorem Separated.eq_or_mem {sep a : α} {ps : List (List α)} {l : List α} (h : Separated sep ps l) (ha : a ∈ l) :
    a = sep ∨ ∃ p ∈ ps, a ∈ p := by
  obtain ⟨p, ps, rfl⟩ := List.exists_cons_of_ne_nil h.parts
  rw [← h.joined, intercalate_cons, List.mem_append, List.mem_flatMap] at ha
  rcases ha with ha | ⟨q, hq, ha⟩
  · exact Or.inr ⟨p, List.mem_cons_self, ha⟩
  · rcases List.mem_cons.mp ha with rfl | ha
    · exact Or.inl rfl
    · exact Or.inr ⟨q, List.mem_cons_of_mem p hq, ha⟩

/-- **The parts of a list are what it is joined from.** -/
theorem pieces_eq_iff {sep : α} {ps : List (List α)} {l : List α} : pieces sep l = ps ↔ Separated sep ps l := by
  constructor
  · rintro rfl
    refine ⟨pieces_ne_nil sep l, fun p hp => not_mem_of_mem_pieces hp, ?_⟩
    rw [← unpieces_eq_intercalate, unpieces_pieces]
  · rintro ⟨hparts, hunbroken, rfl⟩
    induction ps with
    | nil => exact absurd rfl hparts
    | cons p ps ih =>
        have hfirst : pieces sep p = [p] := pieces_of_not_mem (hunbroken p List.mem_cons_self)
        cases ps with
        | nil => rwa [List.intercalate_singleton]
        | cons q ps =>
            rw [List.intercalate_cons_cons, List.append_assoc, List.singleton_append, pieces_append, hfirst,
              ih (List.cons_ne_nil q ps) fun r hr => hunbroken r (List.mem_cons_of_mem p hr)]
            rfl

/-- What is in a part is in the list. -/
theorem Separated.mem_of_mem {sep a : α} {p l : List α} {ps : List (List α)} (h : Separated sep ps l) (hp : p ∈ ps)
    (ha : a ∈ p) : a ∈ l := by
  obtain ⟨before, after, rfl, -⟩ := (mem_pieces_iff.mp (pieces_eq_iff.mpr h ▸ hp)).bounded
  exact List.mem_append_left after (List.mem_append_right before ha)

end FipsAudit.Text
