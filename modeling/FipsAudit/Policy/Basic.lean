import FipsAudit.Semver.Range

/-!
# `FipsAudit.Policy.Basic` — the policy tables

What counts as crypto, what a binary must and must not contain, and where and how the crypto library of a root
is looked for. Every table has a built-in value.

* `Policy` — the ten tables.
* `Policy.requirement?` — the symbols that a toolchain version requires: the first range that contains it.
-/

namespace FipsAudit

/-- Symbols that a Go binary must define when its toolchain's version lies in a range. -/
structure SymbolRequirement where
  /-- The toolchain versions concerned. -/
  versions : Semver.Range
  /-- The symbols that must be defined. -/
  symbols : List String
deriving DecidableEq, Repr

/-- The tables by which binaries and library directories are judged. -/
structure Policy where
  /-- A symbol whose name contains this text is a crypto symbol. -/
  cryptoSymbolMarker : String := "crypto"
  /-- Sections whose symbols are no evidence: their content is all zeros. -/
  zeroFillSections : List String := [".bss"]
  /-- Any one of these symbols shows that the cgo runtime is linked in. -/
  cgoInitSymbols : List String := ["_cgo_init", "_cgo_topofstack"]
  /-- Required symbols by toolchain version; the first match counts. -/
  symbolRequirements : List SymbolRequirement :=
    [{ versions := ⟨[{ op := .greaterEq, major := 1, minor := some 23 }]⟩
       symbols := ["vendor/github.com/golang-fips/openssl/v2.dlopen"] }]
  /-- Build tags that must not be used. -/
  deniedBuildTags : List String := ["no_openssl"]
  /-- The experiment that must be enabled where experiments are recorded. -/
  requiredExperiment : String := "strictfipsruntime"
  /-- Where a root keeps its libraries. -/
  libraryDirs : List String := ["/lib64", "/usr/lib64", "/lib", "/usr/lib"]
  /-- The pattern of crypto library file names. -/
  cryptoLibraryPattern : String := "^libcrypto.*\\.so($|\\..*)"
  /-- Any one of these texts in a symbol listing shows FIPS mode. -/
  fipsIndicatorSymbols : List String :=
    ["FIPS_mode", "fips_mode", "EVP_default_properties_is_fips_enabled"]
  /-- The tool that lists the symbols of a library. -/
  nmCommand : String := "nm"
deriving DecidableEq, Repr

namespace Policy

/-- The built-in policy. -/
def builtIn : Policy := {}

/-- The first requirement whose range contains `version`. -/
def requirement? (policy : Policy) (version : Semver.Version) : Option SymbolRequirement :=
  policy.symbolRequirements.find? (·.versions.contains version)

/-- Whether the symbols of `sectionName` are no evidence. -/
def isZeroFill (policy : Policy) (sectionName : String) : Bool := policy.zeroFillSections.contains sectionName

end Policy

end FipsAudit
