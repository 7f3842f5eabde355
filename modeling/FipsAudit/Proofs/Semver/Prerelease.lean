import FipsAudit.Proofs.Text.Pieces
import FipsAudit.Semver.Version

/-!
# `FipsAudit.Proofs.Semver.Prerelease` — which texts are pre-releases

A pre-release is identifiers joined by dots. The check of it cuts a text at its dots and looks at the parts; the
grammar says which parts there may be.

* `Identifier`, `validIdentifier_iff` — one identifier.
* `Prerelease`, `validPrerelease_iff` — identifiers joined by dots.
-/

namespace FipsAudit.Semver

open FipsAudit.Text

variable {s : List Char}

/-- One identifier of a pre-release. -/
structure Identifier (s : List Char) : Prop where
  /-- There is at least one character. -/
  nonempty : s ≠ []
  /-- The characters are letters, digits and hyphens. -/
  chars : ∀ c ∈ s, c.isAlphanum = true ∨ c = '-'
  /-- If all are digits, then only zero itself begins with a zero. -/
  unpadded : (∀ c ∈ s, c.isDigit = true) → s.head? = some '0' → s = ['0']

/-- Identifiers joined by dots. -/
def Prerelease (s : List Char) : Prop := ∃ identifiers, Separated '.' identifiers s ∧ ∀ i ∈ identifiers, Identifier i

theorem isIdentifierChar_iff {c : Char} : isIdentifierChar c = true ↔ c.isAlphanum = true ∨ c = '-' := by
  rw [isIdentifierChar, Bool.or_eq_true, beq_iff_eq]

theorem hasLeadingZero_iff :
    hasLeadingZero s = true ↔ (∀ c ∈ s, c.isDigit = true) ∧ s.head? = some '0' ∧ s ≠ ['0'] := by
  rw [hasLeadingZero, isNumeric, Bool.and_eq_true, Bool.and_eq_true, List.all_eq_true, beq_iff_eq, decide_eq_true_eq,
    and_assoc]
  refine and_congr_right fun _ => ?_
  cases s with
  | nil => simp
  | cons c r =>
      cases r with
      | nil => simp
      | cons d r => simp

theorem validIdentifier_iff : validIdentifier s = true ↔ Identifier s := by
  have hunpadded : hasLeadingZero s = false ↔ ((∀ c ∈ s, c.isDigit = true) → s.head? = some '0' → s = ['0']) := by
    rw [← Bool.not_eq_true, hasLeadingZero_iff, not_and, not_and, ne_eq, Decidable.not_not]
  rw [validIdentifier, Bool.and_eq_true, Bool.and_eq_true, Bool.not_eq_true', Bool.not_eq_true', hunpadded,
    List.isEmpty_eq_false_iff, List.all_eq_true]
  simp only [isIdentifierChar_iff]
  exact ⟨fun ⟨⟨hne, hchars⟩, hzero⟩ => ⟨hne, hchars, hzero⟩, fun h => ⟨⟨h.nonempty, h.chars⟩, h.unpadded⟩⟩

/-- **What is taken for a pre-release**: nothing at all, or identifiers joined by dots. -/
theorem validPrerelease_iff : validPrerelease s = true ↔ s = [] ∨ Prerelease s := by
  have hidentifiers : (pieces '.' s).all validIdentifier = true ↔ Prerelease s := by
    simp only [List.all_eq_true, validIdentifier_iff]
    constructor
    · exact fun h => ⟨_, pieces_eq_iff.mp rfl, h⟩
    · rintro ⟨identifiers, hseparated, h⟩
      rwa [pieces_eq_iff.mpr hseparated]
  rw [validPrerelease, Bool.or_eq_true, List.isEmpty_iff, hidentifiers]

/-- What is neither a letter nor a digit in a pre-release is a hyphen or a dot. -/
theorem Prerelease.chars (h : Prerelease s) {c : Char} (hc : c ∈ s) : c.isAlphanum = true ∨ c = '-' ∨ c = '.' := by
  obtain ⟨identifiers, hseparated, hall⟩ := h
  rcases hseparated.eq_or_mem hc with rfl | ⟨i, hi, hmem⟩
  · exact Or.inr (Or.inr rfl)
  · exact ((hall i hi).chars c hmem).imp_right Or.inl

end FipsAudit.Semver
