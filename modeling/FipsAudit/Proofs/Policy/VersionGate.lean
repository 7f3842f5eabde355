import FipsAudit.Proofs.Policy.Reasons
import Mathlib.Data.Prod.Lex

/-!
# `FipsAudit.Proofs.Policy.VersionGate` — which toolchains the built-in policy supports

The built-in policy has one range of toolchain versions, from a major and minor number on. Such a range leaves out the
patch number, so a version of the first minor number is in it by being equal in the parts named and any other by being
above, and a pre-release is never in it. What is left is an order on pairs of numbers, which releases follow.

* `Version.series`, `Version.numbers` — the numbers of a version in the order of versions.
* `Range.contains_atLeast` — the versions of a range that begins with a major and minor number.
* `filter_isVersionBound_evaluate` — what a verdict says about the version is what the requirements say.
* `evaluate_versionGate` — the built-in policy: a lower bound for releases.
-/

namespace FipsAudit

/-! ## Ranges with a lower bound -/

namespace Semver

/-- The major and minor number. -/
def Version.series (v : Version) : Nat ×ₗ Nat := toLex (v.major, v.minor)

/-- All three numbers. -/
def Version.numbers (v : Version) : Nat ×ₗ Nat ×ₗ Nat := toLex (v.major, toLex (v.minor, v.patch))

/-- Versions that are in order have their major and minor numbers in order. -/
theorem Version.series_mono {v w : Version} (h : v.numbers ≤ w.numbers) : v.series ≤ w.series := by
  simp only [numbers, series, Prod.Lex.toLex_le_toLex] at h ⊢
  omega

variable {major minor : Nat} {v : Version}

/-- The comparator that names a lower bound and no patch number. -/
def Comparator.atLeast (major minor : Nat) : Comparator := { op := .greaterEq, major, minor := some minor }

/-- The range with a lower bound and without an upper one. -/
def Range.atLeast (major minor : Nat) : Range := ⟨[.atLeast major minor]⟩

theorem Comparator.equals_atLeast :
    (atLeast major minor).equals v = true ↔ v.series = toLex (major, minor) ∧ v.pre = "" := by
  simp only [equals, atLeast, Version.series, Option.all_some, Option.all_none, Bool.and_true, Bool.and_eq_true,
    beq_iff_eq, EmbeddingLike.apply_eq_iff_eq, Prod.mk.injEq, eq_comm (a := minor)]

/-- Above the bound is what has a higher major or minor number, the pre-release notwithstanding. -/
theorem Comparator.isAbove_atLeast : (atLeast major minor).isAbove v = true ↔ toLex (major, minor) < v.series := by
  show (if v.major ≠ major then decide (v.major > major)
    else if v.minor ≠ minor then decide (v.minor > minor) else false) = true ↔ _
  rw [Version.series, Prod.Lex.toLex_lt_toLex]
  by_cases hmajor : v.major = major
  · by_cases hminor : v.minor = minor
    · simp [hmajor, hminor]
    · simp [hmajor, hminor]
  · simp [hmajor, Ne.symm hmajor]

/-- **A range with a lower bound contains the releases from the bound on**, and no pre-release. -/
theorem Range.contains_atLeast :
    (atLeast major minor).contains v = true ↔ v.pre = "" ∧ toLex (major, minor) ≤ v.series := by
  -- No patch number is named, so no pre-release is.
  have hunnamed : (Comparator.atLeast major minor).namesPrereleaseOf v = false := by
    simp [Comparator.namesPrereleaseOf, Comparator.atLeast]
  have hadmits : (Comparator.atLeast major minor).admits v = true ↔
      (v.series = toLex (major, minor) ∧ v.pre = "") ∨ toLex (major, minor) < v.series := by
    rw [← Comparator.equals_atLeast, ← Comparator.isAbove_atLeast, ← Bool.or_eq_true]
    rfl
  simp only [contains, atLeast, List.all_cons, List.all_nil, Bool.and_true, List.any_cons, List.any_nil, Bool.or_false,
    hunnamed, Bool.and_eq_true, hadmits, String.isEmpty_iff]
  rw [le_iff_eq_or_lt, eq_comm (a := toLex (major, minor))]
  constructor
  · rintro ⟨⟨hequal, -⟩ | habove, hrelease⟩
    · exact ⟨hrelease, Or.inl hequal⟩
    · exact ⟨hrelease, Or.inr habove⟩
  · rintro ⟨hrelease, hequal | habove⟩
    · exact ⟨Or.inl ⟨hequal, hrelease⟩, hrelease⟩
    · exact ⟨Or.inr habove, hrelease⟩

end Semver

open Semver

/-! ## What a verdict says about the version -/

/-- A reason that depends on the version of the toolchain. -/
def Violation.isVersionBound : Violation → Bool
  | .unsupportedVersion _ | .missingRequiredSymbol _ => true
  | _ => false

/-- The verdict reports that the version of the toolchain is not supported. -/
def Verdict.ReportsVersion (verdict : Verdict) : Prop := ∃ version, .unsupportedVersion version ∈ verdict.reasons

namespace Policy

variable {policy : Policy} {image image' : Image} {m m' : BuildMetadata} {v v' : Version}

/-- An image that the policy is about, with the build record of a toolchain of version `v`. -/
structure BuiltBy (policy : Policy) (image : Image) (m : BuildMetadata) (v : Version) : Prop where
  /-- The image is a program image. -/
  recognized : image.recognized = true
  /-- It uses crypto. -/
  usesCrypto : policy.usesCrypto image = true
  /-- The toolchain's name is read as the version. -/
  toolchain : Toolchain.parse m.runtimeVersion = .ok v

/-- All reasons of the requirements depend on the version. -/
theorem filter_checkRequiredSymbols_eq_self :
    (policy.checkRequiredSymbols image v).filter (·.isVersionBound) = policy.checkRequiredSymbols image v := by
  apply List.filter_eq_self.mpr
  intro reason hreason
  unfold checkRequiredSymbols at hreason
  split at hreason
  · rw [List.mem_singleton.mp hreason]
    rfl
  · obtain ⟨name, -, rfl⟩ := List.mem_map.mp hreason
    rfl

/-- **What a verdict says about the version is what the requirements say.** All other checks give other reasons. -/
theorem filter_isVersionBound_evaluate (h : policy.BuiltBy image m v) :
    (policy.evaluate image (some m)).reasons.filter (·.isVersionBound) = policy.checkRequiredSymbols image v := by
  have hlinkage :
      (if image.staticallyLinked then [Violation.staticallyLinked] else []).filter (·.isVersionBound) = [] := by
    split <;> rfl
  have henabled : (checkCgoEnabled m).filter (·.isVersionBound) = [] := by
    unfold checkCgoEnabled
    split <;> rfl
  have hinit : (policy.checkCgoInit image).filter (·.isVersionBound) = [] := by
    unfold checkCgoInit
    split <;> rfl
  have htags : (policy.checkBuildTags m).filter (·.isVersionBound) = [] := by
    rw [checkBuildTags, List.filter_map, List.map_eq_nil_iff]
    exact List.filter_eq_nil_iff.mpr fun _ _ => Bool.false_ne_true
  have hexperiment : (policy.checkExperiment m).filter (·.isVersionBound) = [] := by
    unfold checkExperiment
    split
    · rfl
    · split <;> rfl
  rw [evaluate, h.recognized, h.usesCrypto, Bool.and_self, if_pos rfl]
  simp only [checkGoBuild, checkVersioned, h.toolchain, List.filter_append, hlinkage, henabled, hinit, htags,
    hexperiment, filter_checkRequiredSymbols_eq_self, List.nil_append, List.append_nil]

/-! ## The built-in policy -/

/-- The symbol that a toolchain with FIPS mode brings along. -/
def bridgeSymbol : String := "vendor/github.com/golang-fips/openssl/v2.dlopen"

/-- The version has no requirement in the built-in policy. -/
def Unsupported (v : Version) : Prop := v.pre ≠ "" ∨ v.series < toLex (1, 23)

instance (v : Version) : Decidable (Unsupported v) := inferInstanceAs (Decidable (_ ∨ _))

theorem contains_atLeast_eq_false (h : Unsupported v) : (Range.atLeast 1 23).contains v = false := by
  rw [Bool.eq_false_iff]
  intro hcontains
  obtain ⟨hrelease, hbound⟩ := Range.contains_atLeast.mp hcontains
  exact h.elim (fun hpre => hpre hrelease) (fun hbelow => absurd hbound (not_le_of_gt hbelow))

theorem contains_atLeast_of_not (h : ¬Unsupported v) : (Range.atLeast 1 23).contains v = true := by
  rw [Unsupported, not_or, not_not, not_lt] at h
  exact Range.contains_atLeast.mpr h

/-- What the built-in policy requires of a version. -/
theorem checkRequiredSymbols_builtIn :
    builtIn.checkRequiredSymbols image v =
      if Unsupported v then [.unsupportedVersion v]
      else reasonIf (bridgeSymbol ∉ builtIn.evidence image) (.missingRequiredSymbol bridgeSymbol) := by
  have htable : builtIn.symbolRequirements = [⟨Range.atLeast 1 23, [bridgeSymbol]⟩] := rfl
  rw [checkRequiredSymbols, requirement?, htable]
  by_cases h : Unsupported v
  · rw [List.find?_cons, contains_atLeast_eq_false h, if_pos h]
    rfl
  · rw [List.find?_cons, contains_atLeast_of_not h, if_neg h]
    simp only [filter_not_defines, reasonIf]
    by_cases hbridge : bridgeSymbol ∉ builtIn.evidence image
    · simp [hbridge]
    · simp [hbridge]

/-- The verdict reports the version exactly if the version has no requirement. -/
theorem reportsVersion_iff (h : builtIn.BuiltBy image m v) :
    (builtIn.evaluate image (some m)).ReportsVersion ↔ Unsupported v := by
  have hmem (version : Version) : .unsupportedVersion version ∈ (builtIn.evaluate image (some m)).reasons ↔
      .unsupportedVersion version ∈ builtIn.checkRequiredSymbols image v := by
    rw [← filter_isVersionBound_evaluate h, List.mem_filter]
    exact (and_iff_left rfl).symm
  simp only [Verdict.ReportsVersion, hmem, checkRequiredSymbols_builtIn]
  by_cases hv : Unsupported v
  · simp [hv]
  · rw [if_neg hv, reasonIf]
    split <;> simp [hv]

/-- **The built-in policy has a lower bound for the toolchain, and it holds for releases.** A verdict reports the
    version of the toolchain exactly if the version is a pre-release or its major and minor number are below 1.23.
    Otherwise the one thing that the version requires is the bridge symbol. So a release that is later than a supported
    one is supported too. -/
theorem evaluate_versionGate (h : builtIn.BuiltBy image m v) :
    ((builtIn.evaluate image (some m)).ReportsVersion ↔ v.pre ≠ "" ∨ toLex (v.major, v.minor) < toLex (1, 23)) ∧
    (builtIn.evaluate image (some m)).reasons.filter (·.isVersionBound) =
      (if v.pre ≠ "" ∨ toLex (v.major, v.minor) < toLex (1, 23) then [.unsupportedVersion v]
      else reasonIf (bridgeSymbol ∉ builtIn.evidence image) (.missingRequiredSymbol bridgeSymbol)) ∧
    ∀ (image' : Image) (m' : BuildMetadata) (v' : Version), builtIn.BuiltBy image' m' v' → v.pre = "" → v'.pre = "" →
      toLex (v.major, toLex (v.minor, v.patch)) ≤ toLex (v'.major, toLex (v'.minor, v'.patch)) →
      ¬(builtIn.evaluate image (some m)).ReportsVersion → ¬(builtIn.evaluate image' (some m')).ReportsVersion := by
  refine ⟨reportsVersion_iff h, (filter_isVersionBound_evaluate h).trans checkRequiredSymbols_builtIn, ?_⟩
  intro image' m' v' h' _ hrelease' hlater hsupported
  rw [reportsVersion_iff h, Unsupported, not_or, not_lt] at hsupported
  rw [reportsVersion_iff h']
  rintro (hpre | hbelow)
  · exact hpre hrelease'
  · exact absurd (hsupported.2.trans (Version.series_mono hlater)) (not_le_of_gt hbelow)

/-- The first release of the range requires the bridge symbol, and the one after it is supported too. The pre-release
    before them is reported, and so is a release below with a high patch number. -/
theorem evaluate_versionGate_firstRelease :
    let image : Image := { kind := .executable, sections := #["", ".text"], symbols := [⟨"crypto/aes", 1⟩] }
    let verdict (toolchain : String) := builtIn.evaluate image (some { runtimeVersion := toolchain })
    (verdict "go1.23").reasons.filter (·.isVersionBound) = [.missingRequiredSymbol bridgeSymbol] ∧
      ¬(verdict "go2").ReportsVersion ∧ (verdict "go1.23rc1 X:strictfipsruntime").ReportsVersion ∧
      (verdict "go1.22.999").ReportsVersion := by
  intro image verdict
  have hbuilt (toolchain : String) (v : Version) (h : Toolchain.parse toolchain = .ok v) :
      builtIn.BuiltBy image { runtimeVersion := toolchain } v := ⟨rfl, by decide, h⟩
  have hfirst := hbuilt "go1.23" ⟨1, 23, 0, "", ""⟩ (by decide)
  have hlater := hbuilt "go2" ⟨2, 0, 0, "", ""⟩ (by decide)
  have hpre := hbuilt "go1.23rc1 X:strictfipsruntime" ⟨1, 23, 0, "rc1", ""⟩ (by decide)
  have hbelow := hbuilt "go1.22.999" ⟨1, 22, 999, "", ""⟩ (by decide)
  obtain ⟨hreports, hrequired, hmonotone⟩ := evaluate_versionGate hfirst
  refine ⟨hrequired, ?_, ?_, ?_⟩
  · apply hmonotone image _ _ hlater rfl rfl (by decide)
    rw [hreports]
    decide
  · exact (evaluate_versionGate hpre).1.mpr (by decide)
  · exact (evaluate_versionGate hbelow).1.mpr (by decide)

end Policy

end FipsAudit
