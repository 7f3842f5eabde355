import FipsAudit.Proofs.Text.Pieces
import FipsAudit.Rules
import Mathlib.Data.Set.Basic

/-!
# `FipsAudit.Proofs.Policy.Evidence` — the names that count

The rules look at the symbol table through three scans: one for the marker, one for any of the cgo names, one for
each required name. All of them see a symbol only if a section owns it and that section has content. What they can
see is a set of names, the evidence of the image; each scan is a question about that set.

* `Policy.evidence` — the names of the symbols that count.
* `owner?_eq_some_iff` — which symbols have an owner.
* `defines_iff`, `usesCrypto_iff` — the scans as questions about the evidence.
-/

namespace FipsAudit

open Text

/-- **Ownership.** A symbol has an owner exactly when its index is neither zero nor reserved, and the table of
    sections reaches that far. -/
theorem Image.owner?_eq_some_iff {image : Image} {s : Symbol} {owner : String} :
    image.owner? s = some owner ↔
      s.sectionIndex ≠ undefinedSection ∧ s.sectionIndex < reservedSection ∧
        image.sections[s.sectionIndex]? = some owner := by
  unfold Image.owner?
  by_cases h : s.sectionIndex = undefinedSection ∨ s.sectionIndex ≥ reservedSection
  · rw [if_pos h]
    constructor
    · intro hnone
      exact absurd hnone (by simp)
    · rintro ⟨hdefined, hlow, -⟩
      rcases h with h | h
      · exact absurd h hdefined
      · exact absurd hlow (Nat.not_lt.mpr h)
  · rw [if_neg h]
    rw [not_or, Nat.not_le] at h
    exact ⟨fun howner => ⟨h.1, h.2, howner⟩, fun hs => hs.2.2⟩

theorem Image.mem_ownedSymbols {image : Image} {s : Symbol} {owner : String} :
    (s, owner) ∈ image.ownedSymbols ↔ s ∈ image.symbols ∧ image.owner? s = some owner := by
  simp only [Image.ownedSymbols, List.mem_filterMap, Option.map_eq_some_iff, Prod.mk.injEq]
  constructor
  · rintro ⟨t, ht, o, ho, rfl, rfl⟩
    exact ⟨ht, ho⟩
  · rintro ⟨hs, ho⟩
    exact ⟨s, hs, owner, ho, rfl, rfl⟩

namespace Policy

variable {policy : Policy} {image : Image} {name : String}

theorem isEvidence_iff {s : Symbol} {owner : String} :
    policy.isEvidence (s, owner) = true ↔ owner ∉ policy.zeroFillSections := by
  simp [isEvidence, isZeroFill]

/-- A symbol counts: a section owns it, and that section has content. -/
def Counts (policy : Policy) (image : Image) (s : Symbol) : Prop :=
  ∃ owner, image.owner? s = some owner ∧ owner ∉ policy.zeroFillSections

/-- The evidence of an image: the names of the symbols that count. -/
def evidence (policy : Policy) (image : Image) : Set String :=
  {name | ∃ s ∈ image.symbols, s.name = name ∧ policy.Counts image s}

/-- The name of a crypto symbol contains the marker. -/
def IsMarked (policy : Policy) (name : String) : Prop := policy.cryptoSymbolMarker.toList <:+: name.toList

/-- A scan of the symbols that count finds one exactly when some name in evidence is looked for. -/
theorem exists_owned_iff (policy : Policy) (image : Image) (p : String → Prop) :
    (∃ owned ∈ image.ownedSymbols, p owned.1.name ∧ policy.isEvidence owned = true) ↔
      ∃ name ∈ policy.evidence image, p name := by
  constructor
  · rintro ⟨⟨s, owner⟩, hmem, hp, hev⟩
    obtain ⟨hs, howner⟩ := Image.mem_ownedSymbols.mp hmem
    exact ⟨s.name, ⟨s, hs, rfl, owner, howner, isEvidence_iff.mp hev⟩, hp⟩
  · rintro ⟨name, ⟨s, hs, rfl, owner, howner, hcontent⟩, hp⟩
    exact ⟨(s, owner), Image.mem_ownedSymbols.mpr ⟨hs, howner⟩, hp, isEvidence_iff.mpr hcontent⟩

/-- **A name is defined exactly when it is in evidence.** -/
theorem defines_iff : policy.defines image name = true ↔ name ∈ policy.evidence image := by
  have hscan := exists_owned_iff policy image (· = name)
  simp only [defines, List.any_eq_true, Bool.and_eq_true, beq_iff_eq]
  rw [hscan]
  simp

/-- **An image uses crypto exactly when a name in evidence is marked.** -/
theorem usesCrypto_iff :
    policy.usesCrypto image = true ↔ ∃ name ∈ policy.evidence image, policy.IsMarked name := by
  rw [← exists_owned_iff policy image policy.IsMarked]
  simp only [usesCrypto, cryptoSymbol?, List.find?_isSome, Bool.and_eq_true, occursIn_iff, IsMarked]

instance (policy : Policy) (image : Image) : DecidablePred (· ∈ policy.evidence image) :=
  fun _ => decidable_of_iff _ defines_iff

instance (policy : Policy) : DecidablePred policy.IsMarked := fun _ => decidable_of_iff _ occursIn_iff

end Policy

end FipsAudit
