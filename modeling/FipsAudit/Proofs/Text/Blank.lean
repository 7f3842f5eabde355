import FipsAudit.Proofs.Text.Number
import FipsAudit.Text.Blank
import Mathlib.Data.List.DropRight

/-!
# `FipsAudit.Proofs.Text.Blank` — what is left without blanks

Trimming takes from both ends as many blanks as there are. What is left of a text is described from outside: blanks
stand around it, and none at its ends.

* `isBlank_of_isAlphanum` — letters and digits are no blanks.
* `Trimmed`, `trimChars_eq_iff` — what is left.
* `trimChars_append` — what is left of a text that begins with something visible.
-/

namespace FipsAudit.Text

variable {s body left right : List Char}

/-- Letters and digits are no blanks. -/
theorem isBlank_of_isAlphanum {c : Char} (h : c.isAlphanum = true) : isBlank c = false := by
  rw [Char.isAlphanum, Bool.or_eq_true, isAlpha_iff_toNat, Char.isDigit_iff_toNat] at h
  simp only [Char.reduceToNat] at h
  simp only [isBlank, Bool.or_eq_false_iff, Bool.and_eq_false_iff, decide_eq_false_iff_not, beq_eq_false_iff_ne]
  omega

/-- `body` is what is left of `s` without the blanks at its two ends. -/
structure Trimmed (s body : List Char) : Prop where
  /-- Around it there are only blanks. -/
  around : ∃ left right, s = left ++ body ++ right ∧ (∀ c ∈ left, isBlank c = true) ∧ ∀ c ∈ right, isBlank c = true
  /-- It does not begin with a blank. -/
  first : Stops isBlank body
  /-- It does not end with a blank. -/
  last : Stops isBlank body.reverse

theorem trimChars_eq (s : List Char) : trimChars s = (s.dropWhile isBlank).rdropWhile isBlank := rfl

theorem trimmed_trimChars (s : List Char) : Trimmed s (trimChars s) where
  around := by
    refine ⟨s.takeWhile isBlank, (s.dropWhile isBlank).rtakeWhile isBlank, ?_, List.all_eq_true.mp List.all_takeWhile,
      fun c hc => List.mem_rtakeWhile_imp hc⟩
    rw [trimChars_eq, List.append_assoc, List.rdropWhile_append_rtakeWhile, List.takeWhile_append_dropWhile]
  first := by
    obtain ⟨blanks, hblanks⟩ := List.rdropWhile_prefix isBlank (s.dropWhile isBlank)
    exact Stops.of_append (hblanks ▸ stops_dropWhile isBlank s)
  last := by
    rw [trimChars_eq, List.rdropWhile, List.reverse_reverse]
    exact stops_dropWhile isBlank _

/-- Blanks in front go, and so do the blanks at the end of what follows something visible. -/
theorem trimChars_append {w tail : List Char} (hleft : ∀ c ∈ left, isBlank c = true) (hfirst : Stops isBlank w)
    (hlast : Stops isBlank w.reverse) (hne : w ≠ []) :
    trimChars (left ++ w ++ tail) = w ++ tail.rdropWhile isBlank := by
  have hfront : Stops isBlank (w ++ tail) := by
    obtain ⟨c, r, rfl⟩ := List.exists_cons_of_ne_nil hne
    exact stops_cons (hfirst c r rfl) _
  have hkept : w.reverse.dropWhile isBlank = w.reverse := dropWhile_append (l := []) (by simp) hlast
  rw [trimChars_eq, List.append_assoc, dropWhile_append hleft hfront, List.rdropWhile, List.reverse_append,
    List.dropWhile_append, hkept, List.rdropWhile]
  -- Even if all that follows is blank, `w` is kept: it ends with something visible.
  split
  next hempty => rw [List.isEmpty_iff.mp hempty, List.reverse_nil, List.append_nil, List.reverse_reverse]
  next => rw [List.reverse_append, List.reverse_reverse]

/-- **Trimming leaves what stands between blanks.** -/
theorem trimChars_eq_iff : trimChars s = body ↔ Trimmed s body := by
  constructor
  · rintro rfl
    exact trimmed_trimChars s
  · rintro ⟨⟨left, right, rfl, hleft, hright⟩, hfirst, hlast⟩
    -- If nothing is left, the blanks on both sides are one run.
    by_cases hne : body = []
    · subst hne
      rw [trimChars_eq, List.append_nil, List.dropWhile_append_of_pos hleft]
      exact List.rdropWhile_eq_nil_iff.mpr fun c hc => hright c ((List.dropWhile_suffix isBlank).subset hc)
    · rw [trimChars_append hleft hfirst hlast hne, List.rdropWhile_eq_nil_iff.mpr hright, List.append_nil]

end FipsAudit.Text
