import FipsAudit.Json.Reader
import FipsAudit.Json.Value
import FipsAudit.Policy.Basic
import FipsAudit.Semver.Parser

/-!
# `FipsAudit.Policy.Document` — policies as JSON documents

A policy file names the tables that it changes. All others keep their built-in values, and members with other
names are no fault.

* `Policy.ofDocument` — the policy of a document, or its first fault.
* `Policy.document` — the document of a policy, with all tables.
-/

namespace FipsAudit

open Json

/-- A range of versions, as a string. -/
def Json.Reader.range : Reader Semver.Range :=
  .parsed "semver version" fun s => (Semver.Range.parse s).mapError (·.message)

/-- An array of strings. -/
def Json.Reader.strings : Reader (List String) := .list .string

namespace SymbolRequirement

/-- The names of the members. -/
def versionsKey : String := "versions"

/-- The name of the list of symbols. -/
def symbolsKey : String := "symbols"

/-- How a requirement is written. Both members have to be there. -/
def shape : Record SymbolRequirement where
  title := "struct SymbolRequirement"
  members := [.of versionsKey .range fun v r => { r with versions := v },
    .of symbolsKey .strings fun v r => { r with symbols := v }]
  complete := true

/-- Reads a requirement. -/
def reader : Reader SymbolRequirement := .record shape { versions := ⟨[]⟩, symbols := [] }

/-- The value that is written for a requirement. -/
def value (r : SymbolRequirement) : Value :=
  .object [(versionsKey, .text r.versions.text), (symbolsKey, .texts r.symbols)]

end SymbolRequirement

namespace Policy

/-! ## The names of the tables -/

/-- The name of `cryptoSymbolMarker`. -/
def markerKey : String := "crypto_symbol_marker"

/-- The name of `zeroFillSections`. -/
def zeroFillKey : String := "zero_fill_sections"

/-- The name of `cgoInitSymbols`. -/
def cgoInitKey : String := "cgo_init_symbols"

/-- The name of `symbolRequirements`. -/
def requirementsKey : String := "symbol_requirements"

/-- The name of `deniedBuildTags`. -/
def deniedTagsKey : String := "denied_build_tags"

/-- The name of `requiredExperiment`. -/
def requiredExperimentKey : String := "required_experiment"

/-- The name of `libraryDirs`. -/
def libraryDirsKey : String := "library_dirs"

/-- The name of `cryptoLibraryPattern`. -/
def libraryPatternKey : String := "crypto_library_pattern"

/-- The name of `fipsIndicatorSymbols`. -/
def indicatorsKey : String := "fips_indicator_symbols"

/-- The name of `nmCommand`. -/
def nmCommandKey : String := "nm_command"

/-! ## Reading and writing -/

/-- How a policy is written. -/
def shape : Record Policy where
  title := "struct ValidatorConfig"
  members := [.of markerKey .string fun v p => { p with cryptoSymbolMarker := v },
    .of zeroFillKey .strings fun v p => { p with zeroFillSections := v },
    .of cgoInitKey .strings fun v p => { p with cgoInitSymbols := v },
    .of requirementsKey (.list SymbolRequirement.reader) fun v p => { p with symbolRequirements := v },
    .of deniedTagsKey .strings fun v p => { p with deniedBuildTags := v },
    .of requiredExperimentKey .string fun v p => { p with requiredExperiment := v },
    .of libraryDirsKey .strings fun v p => { p with libraryDirs := v },
    .of libraryPatternKey .string fun v p => { p with cryptoLibraryPattern := v },
    .of indicatorsKey .strings fun v p => { p with fipsIndicatorSymbols := v },
    .of nmCommandKey .string fun v p => { p with nmCommand := v }]
  complete := false

/-- The policy of a document. -/
def ofDocument (document : String) : Except Fault Policy :=
  readDocument (.record shape builtIn) document.toList

/-- The tables of a policy by name, in the order of declaration. -/
def members (p : Policy) : List (String × Value) :=
  [(markerKey, .text p.cryptoSymbolMarker),
    (zeroFillKey, .texts p.zeroFillSections),
    (cgoInitKey, .texts p.cgoInitSymbols),
    (requirementsKey, .list (p.symbolRequirements.map SymbolRequirement.value)),
    (deniedTagsKey, .texts p.deniedBuildTags),
    (requiredExperimentKey, .text p.requiredExperiment),
    (libraryDirsKey, .texts p.libraryDirs),
    (libraryPatternKey, .text p.cryptoLibraryPattern),
    (indicatorsKey, .texts p.fipsIndicatorSymbols),
    (nmCommandKey, .text p.nmCommand)]

/-- The document of a policy. -/
def document (p : Policy) : String := (Value.object p.members).pretty

end Policy

end FipsAudit
