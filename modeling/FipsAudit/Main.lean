import FipsAudit.CommandLine
import FipsAudit.FileSystem.Archive
import FipsAudit.Host.Machine
import FipsAudit.Text.Instant
import Std.Time.DateTime.Timestamp

/-!
# `FipsAudit.Main` — the program

The files that the program sees are those of an archive on its input; relative paths start at the archive's root.
Scripts run on the small machine of `FipsAudit.Host`, where no other tool is installed.

* `main` — answers the words of the command line.
-/

namespace FipsAudit

/-- Whether a note is shown: warnings and errors always, the others when details are asked for. -/
def Note.isShown (debug : Bool) (n : Note) : Bool :=
  debug || n.level == .warn || n.level == .error

/-- Whether the words ask for details. -/
def asksForDetails (words : List String) : Bool :=
  match Request.parse words with
  | some (.audit options _) => options.debug
  | _ => false

/-- Whether the words ask for an audit, which needs files. -/
def needsFiles (words : List String) : Bool :=
  match Request.parse words with
  | some (.audit _ _) => true
  | _ => false

/-- The scratch directory of a run. -/
def scratchDirectory : Path := .ofString "/tmp/fips-validator-scratch"

/-- The surroundings of a run. -/
def surroundings (archive : ByteArray) (time : String) : Session where
  files := .ofArchive archive
  tools := Host.Machine.standard.tools
  scratch := .ok scratchDirectory
  time := time

/-- What is shown on the side: the notes, and why there is no verdict. -/
def sideText (words : List String) (answer : Answer) (notes : List Note) : String :=
  let shown := (notes.filter (Note.isShown (asksForDetails words))).map Note.line
  let misuse := if answer.exitCode = 2 then [usage] else []
  String.join ((shown ++ answer.complaint.toList ++ misuse).map (· ++ "\n"))

/-- The present time as text. -/
def presentTime : IO String := do
  let now ← Std.Time.Timestamp.now
  let total := now.toNanosecondsSinceUnixEpoch.toInt.toNat
  return Text.instantText (total / 1000000000) (total % 1000000000)

/-- All bytes of a stream after those of `before`. -/
partial def readAll (input : IO.FS.Stream) (before : ByteArray) : IO ByteArray := do
  let next ← input.read 65536
  if next.isEmpty then return before else readAll input (before ++ next)

/-- Answers words: prints, and delivers the exit code. -/
def serve (words : List String) : IO UInt32 := do
  let archive ← if needsFiles words then readAll (← IO.getStdin) ByteArray.empty else pure ByteArray.empty
  let session := surroundings archive (← presentTime)
  let (result, session) := (answer words).run.run session
  match result with
  | .ok a =>
    IO.print session.printed
    IO.eprint (sideText words a session.notes)
    return UInt32.ofNat a.exitCode

end FipsAudit

/-- The program. -/
def main (words : List String) : IO UInt32 := FipsAudit.serve words
