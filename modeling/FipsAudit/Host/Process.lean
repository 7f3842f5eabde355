import FipsAudit.FileSystem.Resolve

/-!
# `FipsAudit.Host.Process` — what a process does

A process starts with words, with bytes to read and with the files as they are. It writes to its two streams, may
make files, takes some time, and ends by itself or by a signal.

* `Trace` — what a process did.
* `Execute` — how a process is started from within another one.
-/

namespace FipsAudit.Host

/-- The streams that a process writes to. -/
inductive Stream where
  /-- What it prints. -/
  | out
  /-- What it complains about. -/
  | err
deriving DecidableEq, Repr

/-- How a process ends. -/
inductive Ending where
  /-- By itself, with an exit code. -/
  | exit (code : Nat)
  /-- By a signal. -/
  | signal (number : Nat)
deriving DecidableEq, Repr

namespace Ending

/-- The number of exit codes. -/
def codes : Nat := 256

/-- The exit code, or minus one after a signal. -/
def exitCode : Ending → Int
  | .exit code => code % codes
  | .signal _ => -1

/-- The exit code as a shell sees it. -/
def status : Ending → Nat
  | .exit code => code % codes
  | .signal number => 128 + number

end Ending

/-- What a process did. -/
structure Trace where
  /-- What it wrote, in order. -/
  written : List (Stream × List UInt8) := []
  /-- The files that it made, by absolute path, in order. -/
  made : List (Path × Node) := []
  /-- How many milliseconds it took. -/
  elapsed : Nat := 0
  /-- How it ended. -/
  ending : Ending := .exit 0

namespace Trace

/-- All that was written to one stream. -/
def stream (t : Trace) (s : Stream) : List UInt8 := (t.written.filter (·.1 == s)).flatMap (·.2)

/-- A process that prints and ends. -/
def printing (bytes : List UInt8) : Trace := { written := [(.out, bytes)] }

/-- A process that complains and fails. -/
def failing (complaint : String) (code : Nat := 1) : Trace :=
  { written := [(.err, Text.Utf8.encode complaint)], ending := .exit code }

/-- One process after another; the second one's ending counts. -/
def andThen (t u : Trace) : Trace :=
  { written := t.written ++ u.written
    made := t.made ++ u.made
    elapsed := t.elapsed + u.elapsed
    ending := u.ending }

/-- The files after what a process made. -/
def applyTo (t : Trace) (fs : FileSystem) : FileSystem := t.made.foldl (fun fs e => fs.create e.1 e.2) fs

end Trace

/-- How a process is started: from the files, its words, and the bytes that it can read. -/
abbrev Execute := FileSystem → List String → List UInt8 → Except IoError Trace

end FipsAudit.Host
