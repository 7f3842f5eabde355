import Std.Data.ExtTreeMap

/-!
# `FipsAudit.Metadata` — how a Go program was built

The Go linker records the toolchain, the path of the main package, the main module and the build settings.
Settings form a map: each key has one value.
-/

namespace FipsAudit

/-- Build settings by key. -/
abbrev Settings := Std.ExtTreeMap String String

/-- The build record of a Go program. -/
structure BuildMetadata where
  /-- The toolchain's name for itself, as recorded. -/
  runtimeVersion : String
  /-- The path of the main package, if recorded. -/
  path : Option String := none
  /-- The path of the main module, if recorded. -/
  mainModule : Option String := none
  /-- The build settings. -/
  settings : Settings := {}

/-- The value of a build setting. -/
def BuildMetadata.setting? (m : BuildMetadata) (key : String) : Option String := m.settings[key]?

end FipsAudit
