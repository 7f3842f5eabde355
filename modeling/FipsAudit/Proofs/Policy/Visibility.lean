import FipsAudit.Proofs.Policy.Evidence
import Mathlib.Data.List.Basic
import Mathlib.Logic.Relation

/-!
# `FipsAudit.Proofs.Policy.Visibility` — what a verdict sees of the tables

A verdict sees the tables of an image only through the evidence. Two images of one kind and linkage with the same
evidence get the same verdict, however their tables are laid out. More evidence can only help: a name that is
added to the evidence takes reasons away, and never brings one.

* `Violation.isGap` — the reasons that a defined symbol takes away.
* `evaluate_reasons_sublist` — more evidence, fewer reasons.
* `TableChange` — changes of the tables that keep the evidence.
* `evaluate_of_evidence` — both directions together, with the changes that cannot be seen.
-/

namespace FipsAudit

/-- A reason that goes away when some symbol is defined. -/
def Violation.isGap : Violation → Bool
  | .missingCgoInit | .missingRequiredSymbol _ => true
  | _ => false

namespace Policy

variable {policy : Policy} {image₁ image₂ : Image}

/-! ## More evidence -/

section More

variable (hsub : policy.evidence image₁ ⊆ policy.evidence image₂)

include hsub

theorem defines_mono {name : String} (h : policy.defines image₁ name = true) : policy.defines image₂ name = true :=
  defines_iff.mpr (hsub (defines_iff.mp h))

/-- An image stays a crypto image when its evidence grows. -/
theorem usesCrypto_mono (h : policy.usesCrypto image₁ = true) : policy.usesCrypto image₂ = true := by
  obtain ⟨name, hname, hmark⟩ := usesCrypto_iff.mp h
  exact usesCrypto_iff.mpr ⟨name, hsub hname, hmark⟩

theorem checkCgoInit_sublist : (policy.checkCgoInit image₂).Sublist (policy.checkCgoInit image₁) := by
  unfold checkCgoInit
  by_cases h : policy.cgoInitSymbols.any (policy.defines image₁) = true
  · obtain ⟨name, hname, hdef⟩ := List.any_eq_true.mp h
    have h₂ : policy.cgoInitSymbols.any (policy.defines image₂) = true :=
      List.any_eq_true.mpr ⟨name, hname, defines_mono hsub hdef⟩
    rw [if_pos h, if_pos h₂]
  · rw [if_neg h]
    split
    · exact List.nil_sublist _
    · exact List.Sublist.refl _

theorem checkRequiredSymbols_sublist (version : Semver.Version) :
    (policy.checkRequiredSymbols image₂ version).Sublist (policy.checkRequiredSymbols image₁ version) := by
  unfold checkRequiredSymbols
  cases policy.requirement? version with
  | none => exact List.Sublist.refl _
  | some r =>
      refine List.Sublist.map _ (List.monotone_filter_right r.symbols fun name hmissing => ?_)
      rw [Bool.not_eq_true'] at hmissing ⊢
      by_contra hdef
      rw [Bool.not_eq_false] at hdef
      exact Bool.noConfusion ((defines_mono hsub hdef).symm.trans hmissing)

theorem checkGoBuild_sublist (m : BuildMetadata) :
    (policy.checkGoBuild image₂ m).Sublist (policy.checkGoBuild image₁ m) := by
  have hversioned : (policy.checkVersioned image₂ m).Sublist (policy.checkVersioned image₁ m) := by
    unfold checkVersioned
    cases Toolchain.parse m.runtimeVersion with
    | error e => exact List.Sublist.refl _
    | ok version =>
        exact ((List.Sublist.refl _).append (checkCgoInit_sublist hsub)).append
          (checkRequiredSymbols_sublist hsub version)
  unfold checkGoBuild
  exact (hversioned.append (List.Sublist.refl _)).append (List.Sublist.refl _)

/-- **More evidence leaves fewer reasons.** The reasons that stay keep their order. -/
theorem evaluate_reasons_sublist (hkind : image₁.kind = image₂.kind)
    (hlink : image₁.staticallyLinked = image₂.staticallyLinked) (huses : policy.usesCrypto image₁ = true)
    (metadata : Option BuildMetadata) :
    (policy.evaluate image₂ metadata).reasons.Sublist (policy.evaluate image₁ metadata).reasons := by
  unfold evaluate Image.recognized
  rw [huses, usesCrypto_mono hsub huses, hkind, hlink, Bool.and_true]
  cases image₂.kind.isImage with
  | false =>
      simp only [Bool.false_eq_true, if_false]
      exact List.Sublist.refl _
  | true =>
      simp only [if_true]
      refine (List.Sublist.refl _).append ?_
      cases metadata with
      | none => exact List.Sublist.refl _
      | some m => exact checkGoBuild_sublist hsub m

end More

/-! ## Other reasons

The reasons that are no gaps ask nothing of the tables, once it is known that the image uses crypto. -/

theorem filter_checkCgoInit (image : Image) : (policy.checkCgoInit image).filter (!·.isGap) = [] := by
  unfold checkCgoInit
  split <;> rfl

theorem filter_checkRequiredSymbols (version : Semver.Version) :
    (policy.checkRequiredSymbols image₁ version).filter (!·.isGap) =
      (policy.checkRequiredSymbols image₂ version).filter (!·.isGap) := by
  have hmap (names : List String) : (names.map Violation.missingRequiredSymbol).filter (!·.isGap) = [] := by
    simp [List.filter_eq_nil_iff, Violation.isGap]
  unfold checkRequiredSymbols
  cases policy.requirement? version with
  | none => rfl
  | some r => simp only [hmap]

theorem filter_checkGoBuild (m : BuildMetadata) :
    (policy.checkGoBuild image₁ m).filter (!·.isGap) = (policy.checkGoBuild image₂ m).filter (!·.isGap) := by
  have hversioned : (policy.checkVersioned image₁ m).filter (!·.isGap) =
      (policy.checkVersioned image₂ m).filter (!·.isGap) := by
    unfold checkVersioned
    cases Toolchain.parse m.runtimeVersion with
    | error e => rfl
    | ok version =>
        simp only [List.filter_append, filter_checkCgoInit]
        rw [filter_checkRequiredSymbols]
  simp only [checkGoBuild, List.filter_append, hversioned]

theorem filter_evaluate (hkind : image₁.kind = image₂.kind)
    (hlink : image₁.staticallyLinked = image₂.staticallyLinked) (huses₁ : policy.usesCrypto image₁ = true)
    (huses₂ : policy.usesCrypto image₂ = true) (metadata : Option BuildMetadata) :
    (policy.evaluate image₁ metadata).reasons.filter (!·.isGap) =
      (policy.evaluate image₂ metadata).reasons.filter (!·.isGap) := by
  unfold evaluate Image.recognized
  rw [huses₁, huses₂, hkind, hlink, Bool.and_true]
  cases image₂.kind.isImage with
  | false => simp only [Bool.false_eq_true, if_false]
  | true =>
      simp only [if_true, List.filter_append]
      cases metadata with
      | none => rfl
      | some m => rw [filter_checkGoBuild]

/-! ## The same evidence -/

/-- Images of one kind and linkage with the same evidence get the same verdict. -/
theorem evaluate_congr (hkind : image₁.kind = image₂.kind)
    (hlink : image₁.staticallyLinked = image₂.staticallyLinked)
    (hsame : policy.evidence image₁ = policy.evidence image₂) (metadata : Option BuildMetadata) :
    policy.evaluate image₁ metadata = policy.evaluate image₂ metadata := by
  have huses : policy.usesCrypto image₁ = policy.usesCrypto image₂ := by
    rw [Bool.eq_iff_iff, usesCrypto_iff, usesCrypto_iff, hsame]
  by_cases h : policy.usesCrypto image₁ = true
  · have hless := evaluate_reasons_sublist hsame.subset hkind hlink h metadata
    have hmore := evaluate_reasons_sublist hsame.symm.subset hkind.symm hlink.symm (huses ▸ h) metadata
    exact congrArg Verdict.mk (hmore.antisymm hless)
  · simp only [evaluate, ← huses, h, Bool.and_false, Bool.false_eq_true, if_false]

/-! ## Changes of the tables -/

/-- Indices of one table of sections stand for those of another: special indices stay special, and all others name
    the same section as before. -/
structure Renumbers (f : Nat → Nat) (old new : Array String) : Prop where
  /-- The index of undefined symbols keeps its meaning. -/
  undefined : ∀ i, f i = undefinedSection ↔ i = undefinedSection
  /-- So do reserved indices. -/
  reserved : ∀ i, reservedSection ≤ f i ↔ reservedSection ≤ i
  /-- The section has the same name, or there is none in both tables. -/
  named : ∀ i, new[f i]? = old[i]?

/-- A symbol that cannot count: undefined, in the reserved range, past the table, or in a section without content. -/
def IsSilent (policy : Policy) (sections : Array String) (s : Symbol) : Prop :=
  s.sectionIndex = undefinedSection ∨ reservedSection ≤ s.sectionIndex ∨ sections.size ≤ s.sectionIndex ∨
    ∃ owner ∈ policy.zeroFillSections, sections[s.sectionIndex]? = some owner

/-- **A change of the tables that brings and takes no evidence.** -/
inductive TableChange (policy : Policy) : Image → Image → Prop where
  /-- The symbols stand in another order, or some of them more or less often. -/
  | rearranged {image : Image} {symbols : List Symbol} (same : ∀ s, s ∈ symbols ↔ s ∈ image.symbols) :
      TableChange policy image { image with symbols := symbols }
  /-- The sections have other indices, and the symbols follow them. -/
  | renumbered {image : Image} {sections : Array String} {f : Nat → Nat} (hf : Renumbers f image.sections sections) :
      TableChange policy image
        { image with
          sections := sections
          symbols := image.symbols.map fun s => { s with sectionIndex := f s.sectionIndex } }
  /-- A symbol that cannot count is added. -/
  | padded {image : Image} {before after : List Symbol} {s : Symbol} (split : image.symbols = before ++ after)
      (silent : IsSilent policy image.sections s) :
      TableChange policy image { image with symbols := before ++ s :: after }

/-- Whether a symbol counts depends on the sections alone. -/
theorem counts_congr {s : Symbol} (h : image₁.sections = image₂.sections) :
    policy.Counts image₁ s ↔ policy.Counts image₂ s := by
  simp only [Counts, Image.owner?, h]

theorem not_counts_of_isSilent {image : Image} {s : Symbol} (h : IsSilent policy image.sections s) :
    ¬policy.Counts image s := by
  rintro ⟨owner, howner, hcontent⟩
  obtain ⟨hdefined, hlow, hsection⟩ := Image.owner?_eq_some_iff.mp howner
  rcases h with h | h | h | ⟨zero, hzero, h⟩
  · exact hdefined h
  · exact absurd hlow (Nat.not_lt.mpr h)
  · rw [Array.getElem?_eq_none h] at hsection
    exact absurd hsection (by simp)
  · have heq : zero = owner := Option.some.inj (h.symm.trans hsection)
    exact hcontent (heq ▸ hzero)

/-- A symbol counts under its new index exactly when it did so before. -/
theorem counts_renumber {s : Symbol} {f : Nat → Nat} (hf : Renumbers f image₁.sections image₂.sections) :
    policy.Counts image₂ { s with sectionIndex := f s.sectionIndex } ↔ policy.Counts image₁ s := by
  have howner : image₂.owner? { s with sectionIndex := f s.sectionIndex } = image₁.owner? s := by
    simp only [Image.owner?, ge_iff_le, hf.undefined, hf.reserved, hf.named]
  simp only [Counts, howner]

namespace TableChange

variable (h : TableChange policy image₁ image₂)

include h

theorem kind_eq : image₂.kind = image₁.kind := by
  cases h <;> rfl

theorem staticallyLinked_eq : image₂.staticallyLinked = image₁.staticallyLinked := by
  cases h <;> rfl

/-- Such a change keeps the evidence. -/
theorem evidence_eq : policy.evidence image₂ = policy.evidence image₁ := by
  ext name
  cases h with
  | @rearranged symbols hsame =>
      constructor
      · rintro ⟨s, hs, hname, hcounts⟩
        exact ⟨s, (hsame s).mp hs, hname, (counts_congr rfl).mp hcounts⟩
      · rintro ⟨s, hs, hname, hcounts⟩
        exact ⟨s, (hsame s).mpr hs, hname, (counts_congr rfl).mp hcounts⟩
  | @renumbered sections f hf =>
      constructor
      · rintro ⟨t, ht, hname, hcounts⟩
        obtain ⟨s, hs, rfl⟩ := List.mem_map.mp ht
        exact ⟨s, hs, hname, (counts_renumber hf).mp hcounts⟩
      · rintro ⟨s, hs, hname, hcounts⟩
        exact ⟨_, List.mem_map_of_mem hs, hname, (counts_renumber hf).mpr hcounts⟩
  | @padded before after s hsplit hsilent =>
      constructor
      · rintro ⟨t, ht, hname, hcounts⟩
        have hcounts' : policy.Counts image₁ t := (counts_congr rfl).mp hcounts
        rcases List.mem_append.mp ht with ht | ht
        · exact ⟨t, hsplit ▸ List.mem_append_left _ ht, hname, hcounts'⟩
        · rcases List.mem_cons.mp ht with rfl | ht
          · exact absurd hcounts' (not_counts_of_isSilent hsilent)
          · exact ⟨t, hsplit ▸ List.mem_append_right _ ht, hname, hcounts'⟩
      · rintro ⟨t, ht, hname, hcounts⟩
        refine ⟨t, ?_, hname, (counts_congr rfl).mp hcounts⟩
        rw [hsplit] at ht
        rcases List.mem_append.mp ht with ht | ht
        · exact List.mem_append_left _ ht
        · exact List.mem_append_right _ (List.mem_cons_of_mem s ht)

end TableChange

/-- Any number of such changes leaves the verdict as it is. -/
theorem evaluate_of_changes (h : Relation.ReflTransGen (TableChange policy) image₁ image₂)
    (metadata : Option BuildMetadata) : policy.evaluate image₂ metadata = policy.evaluate image₁ metadata := by
  induction h with
  | refl => rfl
  | tail _ hchange ih =>
      rw [← ih]
      exact evaluate_congr hchange.kind_eq hchange.staticallyLinked_eq hchange.evidence_eq metadata

/-- **A verdict sees the tables only as evidence.** Images of one kind and linkage with the same evidence get the
    same verdict, and so does an image after changes that keep the evidence. With more evidence a crypto image stays
    one, its reasons are among those from before, and only gaps can be gone. -/
theorem evaluate_of_evidence (policy : Policy) (metadata : Option BuildMetadata) {image₁ image₂ : Image}
    (hkind : image₁.kind = image₂.kind) (hlink : image₁.staticallyLinked = image₂.staticallyLinked) :
    (policy.evidence image₁ = policy.evidence image₂ →
      policy.evaluate image₁ metadata = policy.evaluate image₂ metadata) ∧
    (∀ image, Relation.ReflTransGen (TableChange policy) image₁ image →
      policy.evaluate image metadata = policy.evaluate image₁ metadata) ∧
    (policy.evidence image₁ ⊆ policy.evidence image₂ → policy.usesCrypto image₁ = true →
      policy.usesCrypto image₂ = true ∧
      (policy.evaluate image₂ metadata).reasons.Sublist (policy.evaluate image₁ metadata).reasons ∧
      (policy.evaluate image₂ metadata).reasons.filter (!·.isGap) =
        (policy.evaluate image₁ metadata).reasons.filter (!·.isGap)) := by
  refine ⟨fun hsame => evaluate_congr hkind hlink hsame metadata,
    fun image hchanges => evaluate_of_changes hchanges metadata, fun hsub huses => ?_⟩
  have huses₂ : policy.usesCrypto image₂ = true := usesCrypto_mono hsub huses
  exact ⟨huses₂, evaluate_reasons_sublist hsub hkind hlink huses metadata,
    filter_evaluate hkind.symm hlink.symm huses₂ huses metadata⟩

/-- A cgo symbol in a section without content changes nothing, and neither does a table of symbols that is repeated.
    In a section with content the symbol is more evidence. -/
theorem evaluate_of_evidence_cgo :
    let bare : Image := { kind := .executable, sections := #["", ".text", ".bss"], symbols := [⟨"crypto/aes", 1⟩] }
    let padded : Image := { bare with symbols := [⟨"crypto/aes", 1⟩, ⟨"_cgo_init", 2⟩] }
    let repeated : Image := { padded with symbols := padded.symbols ++ padded.symbols }
    let linked : Image := { bare with symbols := [⟨"_cgo_init", 1⟩, ⟨"crypto/aes", 1⟩] }
    let m : BuildMetadata := { runtimeVersion := "go1.23", settings := {("-tags", "no_openssl")} }
    builtIn.evidence bare = builtIn.evidence padded ∧ builtIn.evaluate bare m = builtIn.evaluate padded m ∧
      builtIn.evaluate repeated m = builtIn.evaluate bare m ∧
      builtIn.evidence bare ⊆ builtIn.evidence linked ∧ builtIn.usesCrypto linked = true ∧
      (builtIn.evaluate linked m).reasons.Sublist (builtIn.evaluate bare m).reasons := by
  intro bare padded repeated linked m
  have hpad : TableChange builtIn bare padded :=
    @TableChange.padded builtIn bare [⟨"crypto/aes", 1⟩] [] _ rfl
      (Or.inr (Or.inr (Or.inr ⟨".bss", by decide, rfl⟩)))
  have hrepeat : TableChange builtIn padded repeated :=
    .rearranged fun s => List.mem_append.trans (or_self_iff)
  have hsub : builtIn.evidence bare ⊆ builtIn.evidence linked := by
    rintro name ⟨s, hs, hname, hcounts⟩
    exact ⟨s, List.mem_cons_of_mem _ hs, hname, (counts_congr rfl).mp hcounts⟩
  obtain ⟨hsame, hchanges, -⟩ := @evaluate_of_evidence builtIn (some m) bare padded rfl rfl
  obtain ⟨-, -, hmore⟩ := @evaluate_of_evidence builtIn (some m) bare linked rfl rfl
  obtain ⟨huses, hless, -⟩ := hmore hsub (by decide)
  exact ⟨hpad.evidence_eq.symm, hsame hpad.evidence_eq.symm,
    hchanges repeated ((Relation.ReflTransGen.single hpad).tail hrepeat), hsub, huses, hless⟩

end Policy

end FipsAudit
