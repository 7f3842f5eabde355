import FipsAudit.BuildInfo
import FipsAudit.FileSystem.Resolve
import FipsAudit.Inspection
import FipsAudit.Log
import FipsAudit.Rules

/-!
# `FipsAudit.Validation` — the outcome of one file

Files that the policy is not about are skipped: scripts, files that are no object files or no program images, and
programs that use no crypto. All others pass or fail, unless they cannot be read or their build record is faulty.

* `Outcome` — passed, skipped or failed.
* `ValidationError` — why there is no outcome.
* `judge` — the outcome of a file by its content.
* `validate` — the outcome of a file under a root.
-/

namespace FipsAudit

/-- Why a file is left out of the policy. -/
inductive SkipReason where
  | script
  | notObject
  | notExecutable (kind : ObjectKind)
  | noCrypto
deriving DecidableEq, Repr

/-- The wording of a reason. -/
def SkipReason.text : SkipReason → String
  | .script => "shell script"
  | .notObject => "not an ELF file"
  | .notExecutable kind => s!"not an ELF executable: {kind.text}"
  | .noCrypto => "no crypto"

/-- What the policy says about a file. -/
inductive Outcome where
  | passed
  | skipped (reason : SkipReason)
  | failed (verdict : Verdict)
deriving DecidableEq, Repr

/-- Whether the file does not fail. Skipping counts as success. -/
def Outcome.isSuccess : Outcome → Bool
  | .failed _ => false
  | _ => true

/-- The outcome that a verdict stands for. -/
def Outcome.ofVerdict (v : Verdict) : Outcome := if v.ok then .passed else .failed v

/-- Why a file has no outcome. -/
inductive ValidationError where
  /-- The file cannot be read. -/
  | unreadable (path : Path) (cause : IoError)
  /-- The build record of the file is faulty. -/
  | malformed (path : Path) (fault : BuildInfo.Malformed)
deriving DecidableEq, Repr

/-- The wording of a failure to read a file. -/
def unreadableText (path : Path) (cause : IoError) : String := s!"failed to read {path.text}: {cause.message}"

/-- The wording of a faulty build record, by what is wrong with it. -/
def malformedText (reason : String) : String := s!"malformed Go build info: {reason}"

/-- The wording of a faulty build record in the file at `path`. -/
def malformedAtText (path : Path) (reason : String) : String := s!"{path.text}: {malformedText reason}"

/-- The wording of a missing outcome. -/
def ValidationError.message : ValidationError → String
  | .unreadable path cause => unreadableText path cause
  | .malformed path fault => malformedAtText path fault.message

/-! ## By content -/

/-- The reason for which a file is skipped by its classification, or else its image. -/
def Inspection.image? : Inspection → Except SkipReason Image
  | .notObject .script => .error .script
  | .notObject .unknown => .error .notObject
  | .object image => if image.recognized then .ok image else .error (.notExecutable image.kind)

/-- The outcome of a program image that uses crypto, by its build record. -/
def judgeImage (policy : Policy) (image : Image) (data : ByteArray) : Except BuildInfo.Malformed Outcome :=
  match (BuildInfo.extract data).result with
  | .error e => .error e
  | .ok metadata => .ok (.ofVerdict (policy.evaluate image metadata))

/-- The outcome of a file by its content. -/
def judge (policy : Policy) (data : ByteArray) : Except BuildInfo.Malformed Outcome :=
  match (inspect data).image? with
  | .error reason => .ok (.skipped reason)
  | .ok image => if policy.usesCrypto image then judgeImage policy image data else .ok (.skipped .noCrypto)

/-! ## Notes -/

/-- The note on a skipped file. -/
def skipNote (path : Path) (reason : SkipReason) : Note := .debug s!"{path.text}: skipped ({reason.text})"

/-- The notes on a program image that uses crypto. -/
def imageNotes (policy : Policy) (path : Path) (image : Image) (data : ByteArray) : List Note :=
  let extraction := BuildInfo.extract data
  extraction.notes ++
    match extraction.result with
    | .error _ => []
    | .ok none =>
      .debug s!"{path.text}: skipping Go checks (not a Go binary)" :: policy.evaluationNotes image
    | .ok (some _) => policy.evaluationNotes image

/-- The notes on a file that was read. -/
def fileNotes (policy : Policy) (path : Path) (data : ByteArray) : List Note :=
  let inspection := inspect data
  inspection.notes ++
    match inspection.image? with
    | .error reason => [skipNote path reason]
    | .ok image =>
      policy.cryptoNotes image ++
        if policy.usesCrypto image then imageNotes policy path image data else [skipNote path .noCrypto]

/-! ## By path -/

/-- The outcome of the file at `path`, taken inside `root`. -/
def validate (policy : Policy) (fs : FileSystem) (root path : Path) : Logged (Except ValidationError Outcome) :=
  let full := Path.resolveUnder root path
  match fs.read full with
  | .error cause => ⟨.error (.unreadable full cause), []⟩
  | .ok data => ⟨(judge policy data).mapError (.malformed full), fileNotes policy full data⟩

end FipsAudit
