import FipsAudit.FileSystem.Resolve
import FipsAudit.Log

/-!
# `FipsAudit.Session` — a run and its surroundings

A run reads files, has external tools do work, leaves notes for the log and prints. All of that happens in a
session: the files as they are, the tools as they answer, and everything done so far. A tool may answer
differently each time; its answer may depend on how many tools ran before, on the call, and on the files.

* `Call`, `Reply` — a command that is run, and what becomes of it.
* `Session` — the surroundings and the record of the run.
* `Run` — an operation in a session that may fail.
* `Run.call`, `Run.note`, `Run.print` — the basic operations.
-/

namespace FipsAudit

/-! ## Tools -/

/-- A command to be run. -/
structure Call where
  /-- The directory to run it in, if not the present one. -/
  directory : Option Path := none
  /-- The program's name. -/
  program : String
  /-- The arguments after the name. -/
  arguments : List String
deriving DecidableEq, Repr

/-- What a command that ran to its end left behind. -/
structure Output where
  /-- What it printed. -/
  stdout : List UInt8 := []
  /-- What it complained about. -/
  stderr : List UInt8 := []
  /-- Its exit code, or minus one if a signal ended it. -/
  exitCode : Int := 0
deriving DecidableEq, Repr

/-- Whether the command reports success. -/
def Output.success (o : Output) : Bool := o.exitCode == 0

/-- What the command complained about, as text. -/
def Output.complaint (o : Output) : String := Text.Utf8.decodeLossy o.stderr

/-- Why a command has no output. -/
inductive Failure where
  /-- It could not be started. -/
  | spawn (cause : IoError)
  /-- It was lost while it ran. -/
  | wait (cause : IoError)
  /-- It was canceled. -/
  | canceled
deriving DecidableEq, Repr

/-- A command that has no output. -/
structure RunError where
  /-- The program's name. -/
  program : String
  /-- What went wrong. -/
  failure : Failure
deriving DecidableEq, Repr

/-- The wording of a failed command. -/
def RunError.message (e : RunError) : String :=
  match e.failure with
  | .spawn cause => s!"failed to spawn {e.program}: {cause.message}"
  | .wait cause => s!"failed to wait for {e.program}: {cause.message}"
  | .canceled => s!"{e.program} was canceled"

/-- The wording of a failed command, then that of its cause. -/
def RunError.chain (e : RunError) : List String :=
  e.message ::
    match e.failure with
    | .spawn cause | .wait cause => [cause.message]
    | .canceled => []

/-- What becomes of a call. -/
structure Reply where
  /-- The output. -/
  result : Except Failure Output
  /-- The entries that the command makes, by path from its directory. -/
  creates : List (Path × Node) := []
  /-- The notes that running it leaves. -/
  notes : List Note := []

/-- The tools: what becomes of a call, given the number of calls before it and the files. -/
abbrev Tools := Nat → Call → FileSystem → Reply

/-! ## Sessions -/

/-- A run's surroundings, and what it did so far. -/
structure Session where
  /-- The files. -/
  files : FileSystem
  /-- The tools. -/
  tools : Tools
  /-- The path of a new scratch directory, or why there is none. -/
  scratch : Except IoError Path := .error .notFound
  /-- The time of the start. -/
  time : String := ""
  /-- The calls, oldest first. -/
  calls : List Call := []
  /-- The notes, oldest first. -/
  notes : List Note := []
  /-- What was printed. -/
  printed : String := ""

/-- An operation in a session that may fail. What it did before it failed stays done. -/
abbrev Run (ε α : Type) := ExceptT ε (StateM Session) α

namespace Run

variable {ε α : Type}

/-- Leaves notes. -/
def leave (notes : List Note) : Run ε Unit := modify fun s => { s with notes := s.notes ++ notes }

/-- Leaves one note. -/
def note (n : Note) : Run ε Unit := leave [n]

/-- Prints a text. -/
def print (text : String) : Run ε Unit := modify fun s => { s with printed := s.printed ++ text }

/-- A result with its notes. -/
def logged (x : Logged α) : Run ε α := do
  leave x.notes
  return x.value

/-- The files. -/
def files : Run ε FileSystem := return (← get).files

/-- Changes the files. -/
def changeFiles (f : FileSystem → FileSystem) : Run ε Unit := modify fun s => { s with files := f s.files }

/-- The tree with new entries, by path from `directory`. -/
def createIn (directory : Option Path) (fs : FileSystem) (entries : List (Path × Node)) : FileSystem :=
  entries.foldl (fun fs e => fs.create ((directory.map (·.join e.1)).getD e.1) e.2) fs

/-- Has a tool run a call. -/
def call (c : Call) : Run ε (Except RunError Output) := do
  let s ← get
  let reply := s.tools s.calls.length c s.files
  set { s with
    calls := s.calls ++ [c]
    notes := s.notes ++ reply.notes
    files := createIn c.directory s.files reply.creates }
  return reply.result.mapError (⟨c.program, ·⟩)

/-- An operation with another kind of failure. -/
def adapt {ε' : Type} (f : ε' → ε) (x : Run ε' α) : Run ε α := ExceptT.adapt f x

/-- The result or the failure of an operation; the operation itself does not fail. -/
def attempt {ε' : Type} (x : Run ε' α) : Run ε (Except ε' α) := ExceptT.lift x.run

end Run

end FipsAudit
