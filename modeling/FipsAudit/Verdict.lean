import FipsAudit.Semver.Version
import FipsAudit.Text.Blank
import FipsAudit.Text.Quoted

/-!
# `FipsAudit.Verdict` — reasons for failing the policy

A verdict is the list of everything that was found wrong, in the order of evaluation and without merging equal
reasons. Nothing found means success.

* `Violation` — one reason; `Violation.message` is its wording.
* `Verdict.ok` — no reasons.
-/

namespace FipsAudit

open Text

/-- One reason why a binary or a file system root fails the policy. -/
inductive Violation where
  /-- The image names no loader. -/
  | staticallyLinked
  /-- The toolchain's name is no version. -/
  | unparsableVersion (raw error : String)
  /-- The binary was built without cgo. -/
  | cgoDisabled
  /-- None of the symbols of the cgo runtime is defined. -/
  | missingCgoInit
  /-- No requirement covers the toolchain's version. -/
  | unsupportedVersion (version : Semver.Version)
  /-- A symbol that the toolchain's version requires is not defined. -/
  | missingRequiredSymbol (symbol : String)
  /-- A build tag that the policy forbids was used. -/
  | forbiddenBuildTag (tag : String)
  /-- The experiments were recorded, and the required one is not among them. -/
  | missingExperiment (token : String)
  /-- The root has no crypto library. -/
  | libraryNotFound
  /-- The library exports no sign of FIPS mode. -/
  | notFipsCapable (library : String)
  /-- The tool that lists symbols failed. -/
  | symbolListingFailed (library stderr : String)
deriving DecidableEq, Repr

/-- The wording of a reason. -/
def Violation.message : Violation → String
  | .staticallyLinked => "statically linked"
  | .unparsableVersion raw error => s!"failed to parse Go version {quoted raw}: {error}"
  | .cgoDisabled => "not compiled with CGO_ENABLED=1"
  | .missingCgoInit => "missing cgo_init symbol"
  | .unsupportedVersion version =>
    s!"uses Go version {version.text}, which is not yet supported by fips-validator"
  | .missingRequiredSymbol symbol => s!"missing required symbol {quoted symbol}"
  | .forbiddenBuildTag tag => s!"uses forbidden build tag {tag}"
  | .missingExperiment token => "missing required GOEXPERIMENT value '" ++ token ++ "'"
  | .libraryNotFound => "libcrypto not found (missing package openssl-libs?)"
  | .notFipsCapable library => s!"{library} is not FIPS-capable"
  | .symbolListingFailed library stderr => s!"failed to list symbols of {library}: {trim stderr}"

/-- Everything found wrong, in order of evaluation. -/
structure Verdict where
  /-- The reasons, oldest first. -/
  reasons : List Violation := []
deriving DecidableEq, Repr

namespace Verdict

/-- The verdict without reasons. -/
def success : Verdict := {}

/-- Whether nothing was found wrong. -/
def ok (v : Verdict) : Bool := v.reasons.isEmpty

/-- The verdict with one more reason. -/
def push (v : Verdict) (violation : Violation) : Verdict := ⟨v.reasons ++ [violation]⟩

/-- The verdict with more reasons. -/
def extend (v : Verdict) (violations : List Violation) : Verdict := ⟨v.reasons ++ violations⟩

/-- The wordings, in order. -/
def messages (v : Verdict) : List String := v.reasons.map Violation.message

end Verdict

end FipsAudit
