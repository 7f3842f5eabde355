import FipsAudit.Host.Interpreter
import FipsAudit.Session

/-!
# `FipsAudit.Host.Machine` — running commands

A machine finds programs by name or by path. The shell and the small tools are programs, and so is a file that
begins with an interpreter line. A command can be called off, before it starts or while it runs.

* `Machine.execute` — runs a program.
* `Machine.reply` — what becomes of a call.
* `Machine.tools` — the machine as the tools of a session.
-/

namespace FipsAudit.Host

open Text

/-- A machine. -/
structure Machine where
  /-- The programs in the directories of programs, by name. -/
  programs : List String := []
  /-- Where programs are looked for by name: directories, as they begin paths. -/
  searchPath : List String := []

/-- The directories of programs, as they begin paths. -/
def programDirectories : List String := ["/bin/", "/usr/bin/"]

/-- The name of the shell. -/
def shellName : String := "sh"

/-- A machine with the shell and the small tools, which are found by name. -/
def Machine.standard : Machine where
  programs := shellName :: toolNames
  searchPath := programDirectories

/-- The same machine where nothing is found by name. -/
def Machine.withoutSearch : Machine := { Machine.standard with searchPath := [] }

/-- A program that can be run. -/
inductive Program where
  /-- An installed one. -/
  | installed (name : String)
  /-- A file, by the words of its interpreter. -/
  | interpreted (interpreter : List String)
deriving DecidableEq, Repr

/-- The program that a path in a directory of programs names. -/
def Machine.installed? (m : Machine) (path : String) : Option String :=
  programDirectories.findSome? fun d =>
    match after? d.toList path.toList with
    | some name => if m.programs.contains (String.ofList name) then some (String.ofList name) else none
    | none => none

/-- The program that a name means. -/
def Machine.named? (m : Machine) (name : String) : Option String :=
  m.searchPath.findSome? fun d => m.installed? (d ++ name)

/-- The interpreter that the first line of a file names: a program, and one argument at most. -/
def interpreterLine? (content : List UInt8) : Option (List String) :=
  match content with
  | 0x23 :: 0x21 :: rest =>
    let line := Utf8.decodeLossyChars (rest.takeWhile (· ≠ 10))
    let line := strip (fun c => c == ' ' || c == '\t') line
    let program := line.takeWhile fun c => c ≠ ' ' && c ≠ '\t'
    let argument := (line.dropWhile fun c => c ≠ ' ' && c ≠ '\t').dropWhile fun c => c == ' ' || c == '\t'
    if program.isEmpty then none
    else some (String.ofList program :: if argument.isEmpty then [] else [String.ofList argument])
  | _ => none

/-- The program that a path leads to. -/
def Machine.programAt (m : Machine) (fs : FileSystem) (path : String) : Except IoError Program :=
  match m.installed? path with
  | some name => .ok (.installed name)
  | none =>
    match fs.status (.ofString path) with
    | .error e => .error e
    | .ok (.file mode content) =>
      if !(Node.file mode content).isExecutable then .error .permissionDenied
      else
        match interpreterLine? content.data.toList with
        | some interpreter => .ok (.interpreted interpreter)
        | none => .error .execFormat
    | .ok _ => .error .permissionDenied

/-- The program that a word means: a path if there is a slash in it, and else a name. -/
def Machine.program (m : Machine) (fs : FileSystem) (word : String) : Except IoError Program :=
  if word.toList.contains '/' then m.programAt fs word
  else
    match m.named? word with
    | some name => .ok (.installed name)
    | none => .error .notFound

/-- Runs the program of the first word. Interpreters may be interpreted themselves, and scripts may run others, as
    deep as `depth`. -/
def Machine.execute (m : Machine) : (depth : Nat) → Execute
  | 0, _, _, _ => .error .tooManyLinks
  | _, _, [], _ => .error .notFound
  | depth + 1, fs, word :: args, stdin =>
    match m.program fs word with
    | .error e => .error e
    -- The interpreter gets the path of the file as its first argument.
    | .ok (.interpreted words) => m.execute depth fs (words ++ word :: args) stdin
    | .ok (.installed name) =>
      if name = shellName then .ok (interpreter (m.execute depth) fs args stdin)
      else
        match tool? name with
        | some tool => .ok (tool fs args stdin)
        | none => .error .notFound

/-- How deep programs may run others. -/
def maxDepth : Nat := 64

/-- The files as a command sees them that is to run in a directory. -/
def startFiles (fs : FileSystem) (directory : Option Path) : Except IoError FileSystem :=
  match directory with
  | none => .ok fs
  | some d =>
    match fs.resolve true d with
    | .error e => .error e
    | .ok (l, .directory) => .ok { fs with workingDirectory := l }
    | .ok _ => .error .notDirectory

/-- Runs the command of a call. -/
def Machine.run (m : Machine) (fs : FileSystem) (c : Call) : Except IoError Trace :=
  let words := c.program :: c.arguments
  if words.any fun w => w.toList.contains '\x00' then .error .zeroInArgument
  else
    match startFiles fs c.directory with
    | .error e => .error e
    | .ok fs => m.execute maxDepth fs words []

/-- What the log says about a call. -/
def callNote (c : Call) : Note := .debug (s!"running {c.program} " ++ " ".intercalate c.arguments)

/-- The output that a process leaves behind. -/
def Trace.output (t : Trace) : Output :=
  { stdout := t.stream .out, stderr := t.stream .err, exitCode := t.ending.exitCode }

/-- Whether a process is called off when that happens `calledOff` milliseconds after its start. -/
def Trace.isCanceled (t : Trace) (calledOff : Option Nat) : Bool := calledOff.any (· ≤ t.elapsed)

/-- What becomes of a call that is called off `calledOff` milliseconds after its start, if ever; zero means that
    it is called off before. -/
def Machine.reply (m : Machine) (calledOff : Option Nat) (fs : FileSystem) (c : Call) : Reply :=
  let notes := [callNote c]
  if calledOff = some 0 then { result := .error .canceled, notes }
  else
    match m.run fs c with
    | .error e => { result := .error (.spawn e), notes }
    | .ok t =>
      if t.isCanceled calledOff then { result := .error .canceled, notes }
      else { result := .ok t.output, creates := t.made, notes }

/-- The machine as the tools of a session. -/
def Machine.tools (m : Machine) : Tools := fun _ c fs => m.reply none fs c

end FipsAudit.Host
