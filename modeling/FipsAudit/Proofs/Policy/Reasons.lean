import FipsAudit.Proofs.Policy.Evidence

/-!
# `FipsAudit.Proofs.Policy.Reasons` — which reasons a verdict holds

The rules of the policy are written down as rules: which reasons stand, in which order, and under which condition
on the evidence and on the build record. The rules know the tables of an image only as a set of names. `evaluate`
derives exactly the list that they allow.

* `BuildMetadata.HasTag`, `BuildMetadata.HasExperiment` — what a build record says about tags and experiments.
* `SymbolReasons`, `ToolchainReasons`, `Reasons` — the rules, from the innermost outwards.
* `evaluate_reasons_iff` — the reasons of a verdict are those that the rules give, and no others.
-/

namespace FipsAudit

open Text Semver

/-! ## What a build record says -/

/-- A build tag that was used: an entry of the setting that holds the tags. -/
def BuildMetadata.HasTag (m : BuildMetadata) (tag : String) : Prop :=
  ∃ value, m.setting? "-tags" = some value ∧ IsPiece ',' tag.toList value.toList

/-- An experiment that was enabled: an entry of the setting that holds the experiments, but for blanks around it. -/
def BuildMetadata.HasExperiment (m : BuildMetadata) (token : String) : Prop :=
  ∃ value, m.setting? "GOEXPERIMENT" = some value ∧
    ∃ entry, IsPiece ',' entry value.toList ∧ trimChars entry = token.toList

namespace Policy

theorem contains_tags_iff {m : BuildMetadata} {tag : String} :
    (((m.setting? buildTagsKey).map entries).getD []).contains tag.toList = true ↔ m.HasTag tag := by
  unfold BuildMetadata.HasTag buildTagsKey
  cases m.setting? "-tags" with
  | none => simp
  | some value => simp [entries, mem_pieces_iff]

theorem any_entry_iff {m : BuildMetadata} {value : String} (token : String)
    (h : m.setting? "GOEXPERIMENT" = some value) :
    ((entries value).any fun entry => decide (trimChars entry = token.toList)) = true ↔ m.HasExperiment token := by
  simp [BuildMetadata.HasExperiment, h, entries, mem_pieces_iff]

instance (m : BuildMetadata) : DecidablePred m.HasTag := fun _ => decidable_of_iff _ contains_tags_iff

instance (m : BuildMetadata) (token : String) : Decidable (m.HasExperiment token) :=
  match h : m.setting? "GOEXPERIMENT" with
  | none => isFalse fun ⟨value, hvalue, _⟩ => absurd (h.symm.trans hvalue) (by simp)
  | some _ => decidable_of_iff _ (any_entry_iff token h)

/-! ## The rules -/

/-- A reason that stands exactly when `p` holds. -/
def reasonIf (p : Prop) [Decidable p] (v : Violation) : List Violation := if p then [v] else []

section Rules

variable (policy : Policy) (E : Set String) [DecidablePred (· ∈ E)]

/-- **The reasons that a toolchain version brings**, by the names in evidence. -/
inductive SymbolReasons (version : Version) : List Violation → Prop where
  /-- No range contains the version. -/
  | uncovered (outside : ∀ r ∈ policy.symbolRequirements, r.versions.contains version = false) :
      SymbolReasons version [.unsupportedVersion version]
  /-- The first range that contains the version asks for symbols. Later ones are not looked at. -/
  | covered {before after : List SymbolRequirement} {r : SymbolRequirement}
      (split : policy.symbolRequirements = before ++ r :: after)
      (first : ∀ q ∈ before, q.versions.contains version = false) (inside : r.versions.contains version = true) :
      SymbolReasons version ((r.symbols.filter (· ∉ E)).map .missingRequiredSymbol)

/-- **The reasons that the toolchain and its runtime bring.** -/
inductive ToolchainReasons (m : BuildMetadata) : List Violation → Prop where
  /-- The toolchain's name is no version. Nothing else is said about the toolchain. -/
  | unparsable {e : Toolchain.VersionError} (unread : Toolchain.parse m.runtimeVersion = .error e) :
      ToolchainReasons m [.unparsableVersion m.runtimeVersion e.message]
  /-- The toolchain's name is a version. -/
  | parsed {version : Version} {symbols : List Violation} (read : Toolchain.parse m.runtimeVersion = .ok version)
      (required : SymbolReasons policy E version symbols) :
      ToolchainReasons m
        (reasonIf (m.setting? "CGO_ENABLED" ≠ some "1") .cgoDisabled ++
          reasonIf (∀ name ∈ policy.cgoInitSymbols, name ∉ E) .missingCgoInit ++ symbols)

/-- **The reasons against an object** of a kind, linked statically or not, with some names in evidence. -/
inductive Reasons (kind : ObjectKind) (static : Bool) : Option BuildMetadata → List Violation → Prop where
  /-- The policy is not about the object. -/
  | exempt {metadata : Option BuildMetadata} (outside : kind.isImage = false ∨ ∀ name ∈ E, ¬policy.IsMarked name) :
      Reasons kind static metadata []
  /-- The object has no build record. -/
  | plain (isImage : kind.isImage = true) (marked : ∃ name ∈ E, policy.IsMarked name) :
      Reasons kind static none (reasonIf (static = true) .staticallyLinked)
  /-- The object has a build record. Tags and experiments count even if the toolchain's name is no version. -/
  | go {m : BuildMetadata} {toolchain : List Violation} (isImage : kind.isImage = true)
      (marked : ∃ name ∈ E, policy.IsMarked name) (built : ToolchainReasons policy E m toolchain) :
      Reasons kind static (some m)
        (reasonIf (static = true) .staticallyLinked ++
          (toolchain ++ (policy.deniedBuildTags.filter (m.HasTag ·)).map .forbiddenBuildTag ++
            reasonIf (m.setting? "GOEXPERIMENT" ≠ none ∧ ¬m.HasExperiment policy.requiredExperiment)
              (.missingExperiment policy.requiredExperiment)))

end Rules

/-! ## The checks follow the rules -/

variable {policy : Policy} {image : Image} {m : BuildMetadata}

theorem checkCgoEnabled_eq :
    checkCgoEnabled m = reasonIf (m.setting? "CGO_ENABLED" ≠ some "1") .cgoDisabled := by
  by_cases h : m.setting? "CGO_ENABLED" = some "1" <;> simp [checkCgoEnabled, cgoEnabledKey, reasonIf, h]

theorem checkCgoInit_eq :
    policy.checkCgoInit image =
      reasonIf (∀ name ∈ policy.cgoInitSymbols, name ∉ policy.evidence image) .missingCgoInit := by
  have hany : policy.cgoInitSymbols.any (policy.defines image) = true ↔
      ¬∀ name ∈ policy.cgoInitSymbols, name ∉ policy.evidence image := by
    simp [List.any_eq_true, defines_iff]
  unfold checkCgoInit reasonIf
  by_cases h : ∀ name ∈ policy.cgoInitSymbols, name ∉ policy.evidence image
  · rw [if_pos h, if_neg (fun hc => hany.mp hc h)]
  · rw [if_neg h, if_pos (hany.mpr h)]

/-- The symbols that are not defined are those that are not in evidence. -/
theorem filter_not_defines (names : List String) :
    names.filter (fun name => !policy.defines image name) = names.filter (· ∉ policy.evidence image) := by
  refine List.filter_congr fun name _ => ?_
  rw [Bool.eq_iff_iff, decide_eq_true_iff, ← defines_iff]
  simp

theorem checkRequiredSymbols_iff {version : Version} {rs : List Violation} :
    policy.checkRequiredSymbols image version = rs ↔ SymbolReasons policy (policy.evidence image) version rs := by
  constructor
  · rintro rfl
    unfold checkRequiredSymbols
    cases hfind : policy.requirement? version with
    | none =>
        have hnone := List.find?_eq_none.mp hfind
        exact .uncovered fun r hr => by simpa using hnone r hr
    | some r =>
        obtain ⟨hinside, before, after, hsplit, hfirst⟩ := List.find?_eq_some_iff_append.mp hfind
        simp only [filter_not_defines]
        exact .covered hsplit (fun q hq => by simpa using hfirst q hq) hinside
  · intro h
    unfold checkRequiredSymbols
    cases h with
    | uncovered houtside =>
        have hfind : policy.requirement? version = none :=
          List.find?_eq_none.mpr fun r hr => by simp [houtside r hr]
        rw [hfind]
    | @covered before after r hsplit hfirst hinside =>
        have hfind : policy.requirement? version = some r :=
          List.find?_eq_some_iff_append.mpr
            ⟨hinside, before, after, hsplit, fun q hq => by simp [hfirst q hq]⟩
        rw [hfind]
        simp only [filter_not_defines]

theorem checkVersioned_iff {rs : List Violation} :
    policy.checkVersioned image m = rs ↔ ToolchainReasons policy (policy.evidence image) m rs := by
  constructor
  · rintro rfl
    unfold checkVersioned
    cases hparse : Toolchain.parse m.runtimeVersion with
    | error e => exact .unparsable hparse
    | ok version =>
        simp only [checkCgoEnabled_eq, checkCgoInit_eq]
        exact .parsed hparse (checkRequiredSymbols_iff.mp rfl)
  · intro h
    unfold checkVersioned
    cases h with
    | unparsable hunread => rw [hunread]
    | parsed hread hrequired =>
        rw [hread, ← checkRequiredSymbols_iff.mpr hrequired]
        simp only [checkCgoEnabled_eq, checkCgoInit_eq]

theorem checkBuildTags_eq :
    policy.checkBuildTags m = (policy.deniedBuildTags.filter (m.HasTag ·)).map .forbiddenBuildTag := by
  unfold checkBuildTags
  refine congrArg (List.map Violation.forbiddenBuildTag) (List.filter_congr fun denied _ => ?_)
  rw [Bool.eq_iff_iff, decide_eq_true_iff]
  exact contains_tags_iff

theorem checkExperiment_eq :
    policy.checkExperiment m =
      reasonIf (m.setting? "GOEXPERIMENT" ≠ none ∧ ¬m.HasExperiment policy.requiredExperiment)
        (.missingExperiment policy.requiredExperiment) := by
  unfold checkExperiment experimentKey reasonIf
  cases hvalue : m.setting? "GOEXPERIMENT" with
  | none => simp
  | some value =>
      have hany := any_entry_iff policy.requiredExperiment hvalue
      by_cases h : m.HasExperiment policy.requiredExperiment
      · simp only [if_pos (hany.mpr h)]
        simp [h]
      · simp only [if_neg (fun hc => h (hany.mp hc))]
        simp [h]

/-- The policy is about an image that is marked, and about nothing else. -/
theorem judged_iff :
    (image.recognized && policy.usesCrypto image) = true ↔
      image.kind.isImage = true ∧ ∃ name ∈ policy.evidence image, policy.IsMarked name := by
  rw [Bool.and_eq_true, usesCrypto_iff, Image.recognized]

/-- **The reasons of a verdict are those that the rules give.** For every image, build record and policy there is
    one list of reasons, with this order and these repetitions. -/
theorem evaluate_reasons_iff {metadata : Option BuildMetadata} {rs : List Violation} :
    (policy.evaluate image metadata).reasons = rs ↔
      Reasons policy (policy.evidence image) image.kind image.staticallyLinked metadata rs := by
  unfold evaluate
  by_cases hjudged : (image.recognized && policy.usesCrypto image) = true
  · rw [if_pos hjudged]
    obtain ⟨hkind, hmarked⟩ := judged_iff.mp hjudged
    have hnotExempt : ¬(image.kind.isImage = false ∨ ∀ name ∈ policy.evidence image, ¬policy.IsMarked name) := by
      rintro (hfalse | hnone)
      · rw [hkind] at hfalse
        exact Bool.noConfusion hfalse
      · obtain ⟨name, hname, hmark⟩ := hmarked
        exact hnone name hname hmark
    constructor
    · rintro rfl
      cases metadata with
      | none => simpa [reasonIf] using Reasons.plain (E := policy.evidence image) hkind hmarked
      | some m =>
          simp only [checkGoBuild, checkBuildTags_eq, checkExperiment_eq]
          exact .go hkind hmarked (checkVersioned_iff.mp rfl)
    · intro h
      cases h with
      | exempt houtside => exact absurd houtside hnotExempt
      | plain => simp [reasonIf]
      | go _ _ hbuilt =>
          rw [← checkVersioned_iff.mpr hbuilt]
          simp only [checkGoBuild, checkBuildTags_eq, checkExperiment_eq, reasonIf]
  · rw [if_neg hjudged]
    constructor
    · rintro rfl
      refine .exempt ?_
      by_contra hcon
      rw [not_or, Bool.not_eq_false] at hcon
      push Not at hcon
      exact hjudged (judged_iff.mpr hcon)
    · intro h
      cases h with
      | exempt => rfl
      | plain hkind hmarked => exact absurd (judged_iff.mpr ⟨hkind, hmarked⟩) hjudged
      | go hkind hmarked => exact absurd (judged_iff.mpr ⟨hkind, hmarked⟩) hjudged

end Policy

end FipsAudit
