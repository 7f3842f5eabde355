import FipsAudit.Pattern.Parser
import FipsAudit.Policy.Basic
import FipsAudit.Session
import FipsAudit.Verdict

/-!
# `FipsAudit.LibraryScan` — the crypto library of a root

A root has to ship a crypto library with FIPS mode. Libraries are regular files whose names match a pattern, in
the library directories of the policy; directories that are missing or are symbolic links are passed over. A tool
lists the symbols of each library, and one of the indicator texts must be in the listing.

* `FileSystem.libraries` — the libraries of a root, by directory and then by name.
* `checkLibrary` — what is wrong with one library.
* `scanLibraries` — the libraries with the verdict on them.
-/

namespace FipsAudit

open Text

/-! ## Finding libraries -/

/-- The path of `name` in a library directory, as text. -/
def libraryPath (directory name : String) : String := ((Path.ofString directory).join (.ofString name)).text

/-- The name of an entry that is a regular file, if it is text. -/
def regularName? (entry : Name × Node) : Option String :=
  if entry.2.isFile then Utf8.decode? entry.1 else none

/-- The names of regular files that match, in order. -/
def matchingNames (pattern : Pattern) (entries : List (Name × Node)) : List String :=
  ((entries.filterMap regularName?).filter pattern.isMatch).mergeSort

namespace FileSystem

/-- The entries of a library directory of `root`; none if it is missing, a symbolic link or no directory. -/
def libraryEntries (fs : FileSystem) (root : Path) (directory : String) : List (Name × Node) :=
  let path := Path.resolveUnder root (.ofString directory)
  match fs.linkStatus path with
  | .ok node => if node.isLink then [] else ((fs.list path).toOption).getD []
  | .error _ => []

/-- The libraries of `root`: directory by directory, in each by name. -/
def libraries (fs : FileSystem) (root : Path) (directories : List String) (pattern : Pattern) : List String :=
  directories.flatMap fun directory =>
    (matchingNames pattern (fs.libraryEntries root directory)).map (libraryPath directory)

end FileSystem

/-! ## Checking libraries -/

/-- Why a library scan has no result. -/
inductive LibraryScanError where
  | pattern (fault : Pattern.Fault)
  | listing (library : String) (cause : RunError)
deriving DecidableEq, Repr

namespace LibraryScanError

/-- The wording of a failed scan. -/
def message : LibraryScanError → String
  | .pattern fault => s!"invalid crypto library pattern: {fault.message}"
  | .listing library cause => s!"failed to list symbols of {library}: {cause.message}"

/-- The wording of a failed scan, then those of its causes. -/
def chain (e : LibraryScanError) : List String :=
  e.message ::
    match e with
    | .pattern fault => [fault.message]
    | .listing _ cause => cause.chain

end LibraryScanError

/-- What a library scan delivers. -/
structure LibraryReport where
  /-- The libraries found, by their paths inside the root. -/
  libraries : List String
  /-- What is wrong with them. -/
  verdict : Verdict
deriving DecidableEq, Repr

/-- The first indicator of FIPS mode in a symbol listing. -/
def Policy.indicator? (policy : Policy) (listing : String) : Option String :=
  policy.fipsIndicatorSymbols.find? fun symbol => occursIn symbol.toList listing.toList

/-- The call that lists the symbols of a library. -/
def listingCall (policy : Policy) (root : Path) (library : String) : Call where
  program := policy.nmCommand
  arguments := ["-D", (Path.resolveUnder root (.ofString library)).text]

/-- What the output of the tool says against a library. -/
def judgeListing (policy : Policy) (library : String) (output : Output) : Option Violation :=
  if output.success then
    match policy.indicator? (Utf8.decodeLossy output.stdout) with
    | some _ => none
    | none => some (.notFipsCapable library)
  else some (.symbolListingFailed library output.complaint)

/-- What the log says about the output of the tool: the indicator that was found. -/
def listingNotes (policy : Policy) (library : String) (output : Output) : List Note :=
  if output.success then
    match policy.indicator? (Utf8.decodeLossy output.stdout) with
    | some symbol => [.debug s!"{library} exports FIPS indicator {symbol}"]
    | none => []
  else []

/-- What is wrong with one library. -/
def checkLibrary (policy : Policy) (root : Path) (library : String) : Run LibraryScanError (Option Violation) := do
  match ← Run.call (listingCall policy root library) with
  | .error cause => throw (.listing library cause)
  | .ok output =>
    Run.leave (listingNotes policy library output)
    return judgeListing policy library output

/-- What is wrong with libraries, one after the other. -/
def checkLibraries (policy : Policy) (root : Path) : List String → Run LibraryScanError (List Violation)
  | [] => return []
  | library :: rest => do
    let first ← checkLibrary policy root library
    return first.toList ++ (← checkLibraries policy root rest)

/-- The libraries of a root with the verdict on them. -/
def scanLibraries (policy : Policy) (root : Path) : Run LibraryScanError LibraryReport := do
  match Pattern.parse policy.cryptoLibraryPattern with
  | .error fault => throw (.pattern fault)
  | .ok pattern =>
    -- All libraries are found before the first one is checked.
    let libraries := (← Run.files).libraries root policy.libraryDirs pattern
    let violations ← checkLibraries policy root libraries
    return ⟨libraries, ⟨(if libraries.isEmpty then [.libraryNotFound] else []) ++ violations⟩⟩

end FipsAudit
