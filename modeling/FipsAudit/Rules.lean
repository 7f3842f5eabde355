import FipsAudit.Image
import FipsAudit.Log
import FipsAudit.Metadata
import FipsAudit.Policy.Basic
import FipsAudit.Toolchain
import FipsAudit.Verdict

/-!
# `FipsAudit.Rules` — judging one binary

Only program images that use crypto are judged. The checks are independent of each other: each adds its own
reasons, so that one run gives the whole list of what has to be mended. The checks on symbols need the version
of the toolchain; those on tags and experiments do not.

* `Policy.cryptoSymbol?` — the first crypto symbol outside the zero-fill sections.
* `Policy.defines` — a symbol is defined, outside the zero-fill sections.
* `Policy.evaluate` — the verdict on an image and its build record.
-/

namespace FipsAudit.Policy

open Text Semver

/-- Whether an owned symbol is evidence: its section has content. -/
def isEvidence (policy : Policy) (owned : Symbol × String) : Bool := !policy.isZeroFill owned.2

/-- The first crypto symbol that is evidence, with its section. -/
def cryptoSymbol? (policy : Policy) (image : Image) : Option (Symbol × String) :=
  image.ownedSymbols.find? fun owned =>
    occursIn policy.cryptoSymbolMarker.toList owned.1.name.toList && policy.isEvidence owned

/-- Whether the image uses crypto. -/
def usesCrypto (policy : Policy) (image : Image) : Bool := (policy.cryptoSymbol? image).isSome

/-- What the log says about the use of crypto: the symbol that shows it. -/
def cryptoNotes (policy : Policy) (image : Image) : List Note :=
  match policy.cryptoSymbol? image with
  | some (symbol, owner) => [.debug s!"found crypto symbol {quoted symbol.name} in section {quoted owner}"]
  | none => []

/-- Whether the image defines `name` outside the zero-fill sections. -/
def defines (policy : Policy) (image : Image) (name : String) : Bool :=
  image.ownedSymbols.any fun owned => owned.1.name == name && policy.isEvidence owned

/-! ## Settings -/

/-- The setting that records whether cgo was enabled. -/
def cgoEnabledKey : String := "CGO_ENABLED"

/-- The setting that holds the build tags. -/
def buildTagsKey : String := "-tags"

/-- The setting that holds the experiments. -/
def experimentKey : String := "GOEXPERIMENT"

/-- The entries of a comma-separated setting. -/
def entries (value : String) : List (List Char) := pieces ',' value.toList

/-! ## The checks -/

/-- Cgo must be recorded as enabled. -/
def checkCgoEnabled (m : BuildMetadata) : List Violation :=
  if m.setting? cgoEnabledKey = some "1" then [] else [.cgoDisabled]

/-- The cgo runtime must be linked in. -/
def checkCgoInit (policy : Policy) (image : Image) : List Violation :=
  if policy.cgoInitSymbols.any (policy.defines image) then [] else [.missingCgoInit]

/-- The symbols that the toolchain's version requires must be defined. -/
def checkRequiredSymbols (policy : Policy) (image : Image) (version : Version) : List Violation :=
  match policy.requirement? version with
  | none => [.unsupportedVersion version]
  | some r => (r.symbols.filter (fun name => !policy.defines image name)).map .missingRequiredSymbol

/-- No denied build tag may be an entry of the tags. -/
def checkBuildTags (policy : Policy) (m : BuildMetadata) : List Violation :=
  let tags := ((m.setting? buildTagsKey).map entries).getD []
  (policy.deniedBuildTags.filter (fun denied => tags.contains denied.toList)).map .forbiddenBuildTag

/-- Where experiments are recorded, the required one must be an entry. -/
def checkExperiment (policy : Policy) (m : BuildMetadata) : List Violation :=
  -- Toolchains without experiments record none, and are not held to them.
  match m.setting? experimentKey with
  | none => []
  | some value =>
    if (entries value).any (fun token => trimChars token = policy.requiredExperiment.toList) then []
    else [.missingExperiment policy.requiredExperiment]

/-- The checks that need the toolchain's version, or the reason why there is none. -/
def checkVersioned (policy : Policy) (image : Image) (m : BuildMetadata) : List Violation :=
  match Toolchain.parse m.runtimeVersion with
  | .ok version => checkCgoEnabled m ++ policy.checkCgoInit image ++ policy.checkRequiredSymbols image version
  | .error e => [.unparsableVersion m.runtimeVersion e.message]

/-- All checks on a Go binary. -/
def checkGoBuild (policy : Policy) (image : Image) (m : BuildMetadata) : List Violation :=
  policy.checkVersioned image m ++ policy.checkBuildTags m ++ policy.checkExperiment m

/-- The verdict on an image with its build record, if it has one. -/
def evaluate (policy : Policy) (image : Image) (metadata : Option BuildMetadata) : Verdict :=
  if image.recognized && policy.usesCrypto image then
    ⟨(if image.staticallyLinked then [.staticallyLinked] else []) ++
      match metadata with
      | none => []
      | some m => policy.checkGoBuild image m⟩
  else .success

/-- What the log says about an evaluation. -/
def evaluationNotes (policy : Policy) (image : Image) : List Note :=
  if image.recognized then policy.cryptoNotes image else []

end FipsAudit.Policy
