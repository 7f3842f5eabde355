import FipsAudit.Semver.Version
import FipsAudit.Text.Blank
import FipsAudit.Text.Quoted

/-!
# `FipsAudit.Toolchain` — the version of a Go toolchain

A toolchain calls itself `go1.23.4`, `go1.23`, `go1.24rc1 X:strictfipsruntime`. Read as a semantic version, the
leading `go` and everything from the first space on are dropped, missing numbers are zero, and what follows the
numbers is the pre-release.

* `Toolchain.parse` — the version, or why there is none.
* `VersionError.message` — the wording of the faults.
-/

namespace FipsAudit.Toolchain

open FipsAudit.Text FipsAudit.Semver

/-- Why a toolchain string names no version. -/
inductive VersionError where
  /-- No digits or dots where the numbers should be; carries the string as given. -/
  | missingNumber (raw : String)
  /-- A part that is empty or too large. -/
  | badComponent (part : String)
  /-- More than three parts. -/
  | tooManyComponents (core : String)
  /-- The rest is no pre-release. -/
  | badPrerelease (suffix : String)
deriving DecidableEq, Repr

/-- The wording of a fault. -/
def VersionError.message : VersionError → String
  | .missingNumber raw => s!"no numeric version in {quoted raw}"
  | .badComponent part => s!"invalid version component {quoted part}"
  | .tooManyComponents core => s!"too many version components in {quoted core}"
  | .badPrerelease suffix => s!"invalid pre-release {quoted suffix}"

/-- `l` without the leading `pre`, or `l` itself when it does not begin so. -/
def dropLeading (pre l : List Char) : List Char := (after? pre l).getD l

/-- The part of a toolchain string that names the version. -/
def versionPart (raw : List Char) : List Char :=
  (dropLeading ['g', 'o'] (trimChars raw)).takeWhile (· ≠ ' ')

/-- Digits and dots make up the numbers. -/
def isCoreChar (c : Char) : Bool := c.isDigit || c == '.'

/-- The value of a part: a nonempty run of digits below the component limit. -/
def component? (part : List Char) : Option Nat :=
  if part.isEmpty || !isNumeric part then none
  else if natOfDigits part < componentLimit then some (natOfDigits part)
  else none

/-- The values of all parts, or the first part without one. -/
def components : List (List Char) → Except (List Char) (List Nat)
  | [] => .ok []
  | p :: ps =>
    match component? p with
    | none => .error p
    | some n => (components ps).map (n :: ·)

/-- Reads a toolchain string as a semantic version. -/
def parse (raw : String) : Except VersionError Version :=
  let w := versionPart raw.toList
  let core := w.takeWhile isCoreChar
  let suffix := w.dropWhile isCoreChar
  if core.isEmpty then .error (.missingNumber raw)
  else
    let parts := pieces '.' core
    if parts.length > 3 then .error (.tooManyComponents (String.ofList core))
    else
      match components parts with
      | .error p => .error (.badComponent (String.ofList p))
      | .ok ns =>
        let pre := dropLeading ['-'] suffix
        if validPrerelease pre then
          .ok { major := ns.getD 0 0, minor := ns.getD 1 0, patch := ns.getD 2 0, pre := String.ofList pre }
        else .error (.badPrerelease (String.ofList pre))

end FipsAudit.Toolchain
