import FipsAudit.Proofs.Policy.Evidence
import FipsAudit.Validation
import Mathlib

/-!
# `FipsAudit.Proofs.Outcome` — what the outcome of a file means

A file is judged in steps, and each step can end the judgement: the classification, the search for crypto, the build
record, the verdict. `evaluate` has gates of its own for the first two. Here each outcome is given a meaning that
knows no steps. It speaks of the three results that a file has under a policy: its classification, its build record
and the verdict on both. The steps come to exactly that meaning.

* `IsCryptoImage` — the policy is about the file.
* `Outcome.Holds` — what each outcome says about a file.
* `judge_eq_ok_iff`, `judge_eq_error_iff` — the outcome that is found is the one that holds.
* `validate_iff` — the same for a file of a tree, with what follows for build records.
-/

namespace FipsAudit

/-- `data` is a program image that uses crypto: the policy is about it. -/
structure IsCryptoImage (policy : Policy) (data : ByteArray) (image : Image) : Prop where
  /-- The file is an object file with these facts. -/
  inspected : inspect data = .object image
  /-- It is a program image. -/
  recognized : image.recognized = true
  /-- It uses crypto. -/
  usesCrypto : policy.usesCrypto image = true

/-- What an outcome says about the content of a file. -/
def Outcome.Holds (policy : Policy) (data : ByteArray) : Outcome → Prop
  | .skipped .script => inspect data = .notObject .script
  | .skipped .notObject => inspect data = .notObject .unknown
  | .skipped (.notExecutable kind) => ∃ image, inspect data = .object image ∧ image.recognized = false ∧ image.kind = kind
  | .skipped .noCrypto =>
    ∃ image, inspect data = .object image ∧ image.recognized = true ∧ policy.usesCrypto image = false
  | .failed verdict =>
    ∃ image metadata, IsCryptoImage policy data image ∧ (BuildInfo.extract data).result = .ok metadata ∧
      verdict = policy.evaluate image metadata ∧ verdict.reasons ≠ []
  | .passed =>
    ∃ image metadata, IsCryptoImage policy data image ∧ (BuildInfo.extract data).result = .ok metadata ∧
      (policy.evaluate image metadata).reasons = []

variable {policy : Policy} {data : ByteArray} {image : Image}

/-! ## The steps -/

theorem Verdict.ok_iff {v : Verdict} : v.ok = true ↔ v.reasons = [] := List.isEmpty_iff

/-- A crypto image is judged by its build record. -/
theorem judge_of_isCryptoImage (h : IsCryptoImage policy data image) :
    judge policy data = judgeImage policy image data := by
  simp only [judge, h.inspected, Inspection.image?, h.recognized, h.usesCrypto, if_true]

/-- A crypto image whose build record can be read fails or passes by its verdict. -/
theorem judge_of_metadata {metadata : Option BuildMetadata} (h : IsCryptoImage policy data image)
    (hrecord : (BuildInfo.extract data).result = .ok metadata) :
    judge policy data = .ok (.ofVerdict (policy.evaluate image metadata)) := by
  rw [judge_of_isCryptoImage h, judgeImage, hrecord]

/-- **What is found holds**, and no outcome is missing without a crypto image and a faulty build record. -/
theorem holds_of_judge (policy : Policy) (data : ByteArray) :
    (∃ outcome, judge policy data = .ok outcome ∧ outcome.Holds policy data) ∨
      ∃ fault image, judge policy data = .error fault ∧ IsCryptoImage policy data image ∧
        (BuildInfo.extract data).result = .error fault := by
  cases hinspect : inspect data with
  | notObject kind =>
      refine Or.inl ?_
      cases kind with
      | script => exact ⟨.skipped .script, by simp only [judge, hinspect, Inspection.image?], hinspect⟩
      | unknown => exact ⟨.skipped .notObject, by simp only [judge, hinspect, Inspection.image?], hinspect⟩
  | object image =>
      by_cases himage : image.recognized = true
      · by_cases huses : policy.usesCrypto image = true
        · have hcrypto : IsCryptoImage policy data image := ⟨hinspect, himage, huses⟩
          cases hrecord : (BuildInfo.extract data).result with
          | error fault =>
              refine Or.inr ⟨fault, image, ?_, hcrypto, rfl⟩
              rw [judge_of_isCryptoImage hcrypto, judgeImage, hrecord]
          | ok metadata =>
              refine Or.inl ⟨_, judge_of_metadata hcrypto hrecord, ?_⟩
              unfold Outcome.ofVerdict
              by_cases hok : (policy.evaluate image metadata).ok = true
              · rw [if_pos hok]
                exact ⟨image, metadata, hcrypto, hrecord, Verdict.ok_iff.mp hok⟩
              · rw [if_neg hok]
                exact ⟨image, metadata, hcrypto, hrecord, rfl, fun hnone => hok (Verdict.ok_iff.mpr hnone)⟩
        · rw [Bool.not_eq_true] at huses
          refine Or.inl ⟨.skipped .noCrypto, ?_, image, hinspect, himage, huses⟩
          simp only [judge, hinspect, Inspection.image?, himage, huses, if_true, Bool.false_eq_true, if_false]
      · rw [Bool.not_eq_true] at himage
        refine Or.inl ⟨.skipped (.notExecutable image.kind), ?_, image, hinspect, himage, rfl⟩
        simp only [judge, hinspect, Inspection.image?, himage, Bool.false_eq_true, if_false]

/-- **What holds is found.** -/
theorem judge_of_holds {outcome : Outcome} (h : outcome.Holds policy data) : judge policy data = .ok outcome := by
  cases outcome with
  | passed =>
      obtain ⟨image, metadata, hcrypto, hrecord, hnone⟩ := h
      rw [judge_of_metadata hcrypto hrecord, Outcome.ofVerdict, if_pos (Verdict.ok_iff.mpr hnone)]
  | failed verdict =>
      obtain ⟨image, metadata, hcrypto, hrecord, rfl, hsome⟩ := h
      rw [judge_of_metadata hcrypto hrecord, Outcome.ofVerdict, if_neg (fun hok => hsome (Verdict.ok_iff.mp hok))]
  | skipped reason =>
      cases reason with
      | script =>
          have hinspect : inspect data = .notObject .script := h
          simp only [judge, hinspect, Inspection.image?]
      | notObject =>
          have hinspect : inspect data = .notObject .unknown := h
          simp only [judge, hinspect, Inspection.image?]
      | notExecutable kind =>
          obtain ⟨image, hinspect, himage, rfl⟩ := h
          simp only [judge, hinspect, Inspection.image?, himage, Bool.false_eq_true, if_false]
      | noCrypto =>
          obtain ⟨image, hinspect, himage, huses⟩ := h
          simp only [judge, hinspect, Inspection.image?, himage, huses, if_true, Bool.false_eq_true, if_false]

theorem judge_eq_ok_iff {outcome : Outcome} : judge policy data = .ok outcome ↔ outcome.Holds policy data := by
  constructor
  · intro h
    rcases holds_of_judge policy data with ⟨found, hfound, hholds⟩ | ⟨fault, image, herror, -⟩
    · rw [h] at hfound
      exact Except.ok.inj hfound ▸ hholds
    · rw [h] at herror
      exact absurd herror (by simp)
  · exact judge_of_holds

theorem judge_eq_error_iff {fault : BuildInfo.Malformed} :
    judge policy data = .error fault ↔
      ∃ image, IsCryptoImage policy data image ∧ (BuildInfo.extract data).result = .error fault := by
  constructor
  · intro h
    rcases holds_of_judge policy data with ⟨found, hfound, -⟩ | ⟨fault', image, herror, hcrypto, hrecord⟩
    · rw [h] at hfound
      exact absurd hfound (by simp)
    · rw [h] at herror
      exact ⟨image, hcrypto, Except.error.inj herror ▸ hrecord⟩
  · rintro ⟨image, hcrypto, hrecord⟩
    rw [judge_of_isCryptoImage hcrypto, judgeImage, hrecord]

/-! ## What follows -/

/-- The gates of `evaluate` agree with those of the steps: on an object file with a readable build record, success is
    a verdict without reasons, whether the file is judged or left out. -/
theorem isSuccess_of_object (policy : Policy) {metadata : Option BuildMetadata} (hinspect : inspect data = .object image)
    (hrecord : (BuildInfo.extract data).result = .ok metadata) :
    ∃ outcome, judge policy data = .ok outcome ∧
      (outcome.isSuccess = true ↔ (policy.evaluate image metadata).ok = true) := by
  by_cases hjudged : image.recognized = true ∧ policy.usesCrypto image = true
  · refine ⟨_, judge_of_metadata ⟨hinspect, hjudged.1, hjudged.2⟩ hrecord, ?_⟩
    unfold Outcome.ofVerdict
    split
    · rename_i hok
      exact ⟨fun _ => hok, fun _ => rfl⟩
    · rename_i hok
      exact ⟨fun hfalse => Bool.noConfusion hfalse, fun h => absurd h hok⟩
  · have hverdict : policy.evaluate image metadata = .success := by
      unfold Policy.evaluate
      rw [if_neg (fun h => hjudged (Bool.and_eq_true _ _ ▸ h))]
    rw [hverdict]
    by_cases himage : image.recognized = true
    · have huses : policy.usesCrypto image = false := by simpa [himage] using hjudged
      have hholds : (Outcome.skipped .noCrypto).Holds policy data := ⟨image, hinspect, himage, huses⟩
      exact ⟨_, judge_of_holds hholds, fun _ => rfl, fun _ => rfl⟩
    · rw [Bool.not_eq_true] at himage
      have hholds : (Outcome.skipped (.notExecutable image.kind)).Holds policy data := ⟨image, hinspect, himage, rfl⟩
      exact ⟨_, judge_of_holds hholds, fun _ => rfl, fun _ => rfl⟩

/-- A file that the policy is not about is skipped, for a reason that its classification gives: a file that is
    classified the same is skipped for the same reason, whatever its build record. -/
theorem judge_congr_of_not_isCryptoImage {data' : ByteArray} (hsame : inspect data' = inspect data)
    (hout : ∀ image, ¬IsCryptoImage policy data image) :
    judge policy data' = judge policy data ∧ ∃ reason, judge policy data = .ok (.skipped reason) := by
  have hskip (d : ByteArray) (hd : inspect d = inspect data) {reason : SkipReason}
      (hholds : (Outcome.skipped reason).Holds policy data) : judge policy d = .ok (.skipped reason) := by
    refine judge_of_holds ?_
    cases reason <;> simpa only [Outcome.Holds, hd] using hholds
  rcases holds_of_judge policy data with ⟨outcome, hfound, hholds⟩ | ⟨fault, image, -, hcrypto, -⟩
  · cases outcome with
    | passed =>
        obtain ⟨image, metadata, hcrypto, -⟩ := hholds
        exact absurd hcrypto (hout image)
    | failed verdict =>
        obtain ⟨image, metadata, hcrypto, -⟩ := hholds
        exact absurd hcrypto (hout image)
    | skipped reason => exact ⟨(hskip data' hsame hholds).trans hfound.symm, reason, hfound⟩
  · exact absurd hcrypto (hout image)

/-! ## Files of a tree -/

/-- A file that can be read is judged by its content. -/
theorem value_validate {fs : FileSystem} {root path : Path} (hread : fs.read (Path.resolveUnder root path) = .ok data) :
    (validate policy fs root path).value =
      (judge policy data).mapError (.malformed (Path.resolveUnder root path)) := by
  simp only [validate, hread]

/-- **The outcome of a readable file is the one that holds.** It is missing exactly when the file is a crypto image with
    a faulty build record. With a readable record, an object file succeeds exactly when the verdict on it has no
    reasons. The record of a file that the policy is not about does not matter: all files of its classification
    are skipped alike. -/
theorem validate_iff (policy : Policy) {fs : FileSystem} {root path : Path} {data : ByteArray}
    (hread : fs.read (Path.resolveUnder root path) = .ok data) :
    (∀ outcome, (validate policy fs root path).value = .ok outcome ↔ outcome.Holds policy data) ∧
    (∀ e, (validate policy fs root path).value = .error e ↔
      ∃ fault image, e = .malformed (Path.resolveUnder root path) fault ∧ IsCryptoImage policy data image ∧
        (BuildInfo.extract data).result = .error fault) ∧
    (∀ image metadata, inspect data = .object image → (BuildInfo.extract data).result = .ok metadata →
      ∃ outcome, (validate policy fs root path).value = .ok outcome ∧
        (outcome.isSuccess = true ↔ (policy.evaluate image metadata).ok = true)) ∧
    ((∀ image, ¬IsCryptoImage policy data image) →
      (∃ reason, (validate policy fs root path).value = .ok (.skipped reason)) ∧
      ∀ (fs' : FileSystem) (root' path' : Path) (data' : ByteArray),
        fs'.read (Path.resolveUnder root' path') = .ok data' → inspect data' = inspect data →
        (validate policy fs' root' path').value = (validate policy fs root path).value) := by
  rw [value_validate hread]
  refine ⟨fun outcome => ?_, fun e => ?_, fun image metadata hinspect hrecord => ?_, fun hout => ⟨?_, ?_⟩⟩
  · rw [← judge_eq_ok_iff]
    cases judge policy data <;> simp [Except.mapError]
  · constructor
    · intro h
      cases hjudge : judge policy data with
      | ok outcome =>
          rw [hjudge] at h
          exact absurd h (by simp [Except.mapError])
      | error fault =>
          rw [hjudge] at h
          obtain ⟨image, hcrypto, hrecord⟩ := judge_eq_error_iff.mp hjudge
          exact ⟨fault, image, (Except.error.inj h).symm, hcrypto, hrecord⟩
    · rintro ⟨fault, image, rfl, hcrypto, hrecord⟩
      rw [judge_eq_error_iff.mpr ⟨image, hcrypto, hrecord⟩]
      rfl
  · obtain ⟨outcome, hjudge, hsuccess⟩ := isSuccess_of_object policy hinspect hrecord
    exact ⟨outcome, by rw [hjudge]; rfl, hsuccess⟩
  · obtain ⟨-, reason, hskip⟩ := judge_congr_of_not_isCryptoImage rfl hout
    exact ⟨reason, by rw [hskip]; rfl⟩
  · intro fs' root' path' data' hread' hsame
    obtain ⟨hjudge, reason, hskip⟩ := judge_congr_of_not_isCryptoImage hsame hout
    rw [value_validate hread', hjudge, hskip]
    rfl

/-- A program of 264 bytes that names no loader and defines one crypto symbol. -/
def staticProgram : ByteArray :=
  let zeros (n : Nat) : List UInt8 := List.replicate n 0
  -- The header: an executable with four sections at offset 104, their names in the last one.
  let header := [0x7f, 0x45, 0x4c, 0x46, 1, 1, 1] ++ zeros 9 ++ [2, 0, 3, 0, 1, 0, 0, 0] ++ zeros 8 ++
    [104, 0, 0, 0] ++ zeros 4 ++ [52, 0, 32, 0, 0, 0, 40, 0, 4, 0, 3, 0]
  let symbols := zeros 16 ++ [7, 0, 0, 0] ++ zeros 10 ++ [1, 0]
  let names := ("\x00.text\x00crypto/aes\x00".toList.map fun c => UInt8.ofNat c.toNat) ++ zeros 2
  let sectionHeader (name type offset size link entrySize : UInt8) :=
    [name, 0, 0, 0, type, 0, 0, 0] ++ zeros 8 ++ [offset, 0, 0, 0, size, 0, 0, 0, link, 0, 0, 0] ++ zeros 8 ++
      [entrySize, 0, 0, 0]
  ⟨(header ++ symbols ++ names ++ sectionHeader 0 0 0 0 0 0 ++ sectionHeader 1 1 0 0 0 0 ++ sectionHeader 0 2 52 32 3 16 ++
    sectionHeader 0 3 84 18 0 0).toArray⟩

/-- The first four bytes of an object file, and one more. -/
def stub (b : UInt8) : ByteArray := ⟨#[0x7f, 0x45, 0x4c, 0x46, b]⟩

/-- A tree of three programs: `/a`, `/b` and `/c`. -/
def threeFiles (a b c : ByteArray) : FileSystem where
  entries := [([[0x61]], .file 0o755 a), ([[0x62]], .file 0o755 b), ([[0x63]], .file 0o755 c)]

/-- Of a crypto program and two stubs, the program fails for its linkage, and the stubs are skipped alike. -/
theorem validate_iff_static :
    let fs := threeFiles staticProgram (stub 0) (stub 1)
    let outcome (name : UInt8) := (validate .builtIn fs .rootDirectory ⟨[0x2f, name]⟩).value
    outcome 0x61 = .ok (.failed ⟨[.staticallyLinked]⟩) ∧ outcome 0x62 = .ok (.skipped (.notExecutable .malformed)) ∧
      (∃ o, outcome 0x62 = .ok o ∧
        (o.isSuccess = true ↔ (Policy.builtIn.evaluate (.bare .malformed) none).ok = true)) ∧
      outcome 0x63 = outcome 0x62 := by
  intro fs outcome
  let image : Image :=
    { kind := .executable, staticallyLinked := true, sections := #["", ".text", "", ""], symbols := [⟨"crypto/aes", 1⟩] }
  have hread₁ (a b c : ByteArray) :
      (threeFiles a b c).read (Path.resolveUnder .rootDirectory ⟨[0x2f, 0x61]⟩) = .ok a := by cbv
  have hread₂ (a b c : ByteArray) :
      (threeFiles a b c).read (Path.resolveUnder .rootDirectory ⟨[0x2f, 0x62]⟩) = .ok b := by cbv
  have hread₃ (a b c : ByteArray) :
      (threeFiles a b c).read (Path.resolveUnder .rootDirectory ⟨[0x2f, 0x63]⟩) = .ok c := by cbv
  have hcrypto : IsCryptoImage .builtIn staticProgram image := ⟨by decide +kernel, by decide, by decide⟩
  have hrecord : (BuildInfo.extract staticProgram).result = .ok none := by
    have hnone : ((BuildInfo.extract staticProgram).result.toOption.map Option.isNone) = some true := by
      decide +kernel
    cases hresult : (BuildInfo.extract staticProgram).result with
    | error e => simp [hresult, Except.toOption] at hnone
    | ok metadata => cases metadata <;> simp_all [Except.toOption]
  have hstub : inspect (stub 0) = .object (.bare .malformed) := by decide +kernel
  have hout (i : Image) : ¬IsCryptoImage .builtIn (stub 0) i := by
    rintro ⟨hinspected, hrecognized, -⟩
    rw [← Inspection.object.inj (hstub.symm.trans hinspected)] at hrecognized
    exact Bool.noConfusion hrecognized
  obtain ⟨hok, -⟩ := validate_iff .builtIn (hread₁ staticProgram (stub 0) (stub 1))
  obtain ⟨hok', -, hsuccess, hskipped⟩ := validate_iff .builtIn (hread₂ staticProgram (stub 0) (stub 1))
  refine ⟨(hok _).mpr ⟨image, none, hcrypto, hrecord, by decide, by decide⟩,
    (hok' _).mpr ⟨_, hstub, by decide, by decide⟩, hsuccess _ none hstub (by rfl), ?_⟩
  exact (hskipped hout).2 fs .rootDirectory ⟨[0x2f, 0x63]⟩ (stub 1) (hread₃ staticProgram (stub 0) (stub 1))
    (by decide +kernel)

end FipsAudit
