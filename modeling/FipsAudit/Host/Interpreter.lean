import FipsAudit.Host.Tools
import FipsAudit.Shell.Script

/-!
# `FipsAudit.Host.Interpreter` — running shell scripts

A script runs pipeline by pipeline. Parameters are replaced by their values, redirections say where the streams of
a command go, and some commands are done by the shell itself because they change it.

* `Shell` — the state between commands.
* `expand` — the fields of a word.
* `Shell.script` — runs a script.
-/

namespace FipsAudit.Host

open Text FipsAudit.Shell

/-- The state of a shell between commands. -/
structure Shell where
  /-- What the shell calls itself. -/
  name : String
  /-- Its arguments. -/
  arguments : List String := []
  /-- The files. -/
  files : FileSystem
  /-- The exit code of the last pipeline. -/
  status : Nat := 0
  /-- What was done so far. -/
  trace : Trace := {}
  /-- How the shell ended, if it did. -/
  ended : Option Ending := none

/-! ## Words -/

/-- The process number by which a shell knows itself. -/
def ownNumber : String := "2"

/-- The values of a parameter. -/
def Shell.values (sh : Shell) (name : List Char) : List String :=
  match name with
  | ['@'] | ['*'] => sh.arguments
  | ['#'] => [String.ofList (decimal sh.arguments.length)]
  | ['?'] => [String.ofList (decimal sh.status)]
  | ['$'] => [ownNumber]
  | ['0'] => [sh.name]
  | ds => if ds.all Char.isDigit then [(sh.arguments[natOfDigits ds - 1]?).getD ""] else [""]

/-- Fields in the making: those that are complete, the last first, and the one at hand. -/
structure Fields where
  /-- The complete fields. -/
  done : List (List Char) := []
  /-- The field at hand. -/
  current : Option (List Char) := none

namespace Fields

/-- Characters added to the field at hand. -/
def add (f : Fields) (s : List Char) : Fields := { f with current := some (f.current.getD [] ++ s) }

/-- The field at hand ends. -/
def close (f : Fields) : Fields := { done := f.current.toList ++ f.done }

/-- One character of a value outside of quotes: blanks end fields. -/
def addUnquoted (f : Fields) (c : Char) : Fields :=
  if c = ' ' || c = '\t' || c = '\n' then f.close else f.add [c]

/-- Values of which each but the first begins a new field. -/
def addAll (f : Fields) (put : Fields → String → Fields) : List String → Fields
  | [] => f
  | [v] => put f v
  | v :: vs => (put f v).close.addAll put vs

/-- One piece of a word. All arguments between double quotes give a field each, or none. -/
def piece (sh : Shell) (f : Fields) : Piece → Fields
  | .char c => f.add [c]
  | .quotes => f.add []
  | .parameter name false => f.addAll (fun f v => v.toList.foldl addUnquoted f) (sh.values name)
  | .parameter ['*'] true => f.add (" ".intercalate sh.arguments).toList
  | .parameter name true => f.addAll (fun f v => f.add v.toList) (sh.values name)

end Fields

/-- Whether a word is all arguments between double quotes and nothing else. -/
def isAllArguments (w : Word) : Bool := w == [.quotes, .parameter ['@'] true]

/-- The fields of a word. -/
def Shell.expand (sh : Shell) (w : Word) : List String :=
  if isAllArguments w then sh.arguments
  else (w.foldl (Fields.piece sh) {}).close.done.reverse.map String.ofList

/-! ## Redirections -/

/-- Where a stream goes. -/
inductive Sink where
  /-- To a stream of the shell. -/
  | stream (s : Stream)
  /-- To a file, at its end or from its beginning. -/
  | file (path : Path) (append : Bool)
  /-- Nowhere. -/
  | nowhere
deriving DecidableEq

/-- The descriptors of a command. -/
structure Descriptors where
  /-- Where its input comes from. -/
  input : List UInt8
  /-- Where what it prints goes. -/
  out : Sink := .stream .out
  /-- Where its complaints go. -/
  err : Sink := .stream .err

/-- The descriptor that is written to with another target. -/
def Descriptors.set (d : Descriptors) (n : Nat) (s : Sink) : Descriptors :=
  match n with
  | 1 => { d with out := s }
  | 2 => { d with err := s }
  | _ => d

/-- The target of a descriptor that is written to. -/
def Descriptors.get (d : Descriptors) (n : Nat) : Sink := if n = 2 then d.err else d.out

/-- The descriptors after a redirection. -/
def Shell.redirect (sh : Shell) (d : Descriptors) (r : Redirect) : Except String Descriptors :=
  let target := " ".intercalate (sh.expand r.target)
  let sink (append : Bool) : Sink := if target = nothing then .nowhere else .file (.ofString target) append
  match r.action with
  | .copy => .ok (d.set r.descriptor (d.get (natOfDigits target.toList)))
  | .output => .ok (d.set r.descriptor (sink false))
  | .append => .ok (d.set r.descriptor (sink true))
  | .input =>
    match contentOf sh.files d.input 0 target with
    | .ok bytes => .ok { d with input := bytes }
    | .error _ => .error s!"cannot open {target}: No such file"

/-- The descriptors after all redirections. -/
def Shell.redirectAll (sh : Shell) (d : Descriptors) : List Redirect → Except String Descriptors
  | [] => .ok d
  | r :: rs => do
    let d ← sh.redirect d r
    sh.redirectAll d rs

/-- The bytes that a sink gets. -/
def gathered (d : Descriptors) (s : Sink) (t : Trace) : List UInt8 :=
  (t.written.filter fun w => (if w.1 = .err then d.err else d.out) = s).flatMap (·.2)

/-- The files that the sinks of a command make. -/
def sinkFiles (fs : FileSystem) (d : Descriptors) (t : Trace) : List (Path × Node) :=
  ([d.out, d.err].eraseDups).filterMap fun s =>
    match s with
    | .file path append =>
      let path := fs.currentDirectory.join path
      let before := if append then ((fs.read path).toOption.getD ByteArray.empty) else ByteArray.empty
      some (path, .file 0o644 (before ++ ⟨(gathered d s t).toArray⟩))
    | _ => none

/-- The trace of a command as the shell around it shows it. -/
def redirected (fs : FileSystem) (d : Descriptors) (t : Trace) : Trace :=
  { t with
    written := t.written.filterMap fun w =>
      match if w.1 = .err then d.err else d.out with
      | .stream s => some (s, w.2)
      | _ => none
    made := t.made ++ sinkFiles fs d t }

/-! ## Commands -/

/-- The number of a signal by name or number. -/
def signalNumber (s : String) : Nat :=
  match s with
  | "HUP" => 1
  | "INT" => 2
  | "QUIT" => 3
  | "KILL" => 9
  | "TERM" => 15
  | s => natOfDigits s.toList

/-- What the shell does itself: its trace, the directory that it goes to, and how it ends, if it does. -/
structure Builtin where
  /-- The trace. -/
  trace : Trace := {}
  /-- The new working directory. -/
  directory : Option Location := none
  /-- How the shell ends. -/
  ends : Option Ending := none

/-- Sends a signal to the shell itself. -/
def killSelf (signal target : String) : Builtin :=
  let number := signalNumber signal
  if target = ownNumber && number ≠ 0 then { ends := some (.signal number) }
  else if target = ownNumber then {}
  else { trace := .failing "kill: No such process\n" }

/-- The exit code that an argument names. -/
def exitOf (sh : Shell) : List String → Ending
  | [] => .exit sh.status
  | n :: _ => .exit (natOfDigits n.toList)

/-- The commands that the shell does itself. -/
def Shell.builtin? (sh : Shell) (words : List String) : Option Builtin :=
  match words with
  | [":"] | [] => some {}
  | "exit" :: args => some { ends := some (exitOf sh args) }
  | ["kill", "-s", signal, target] => some (killSelf signal target)
  | ["kill", target] => some (killSelf "TERM" target)
  | ["kill", signal, target] => some (killSelf (signal.drop 1).toString target)
  | ["cd", directory] =>
    match sh.files.resolve true (.ofString directory) with
    | .ok (l, .directory) => some { directory := some l }
    | _ => some { trace := .failing s!"{sh.name}: 1: cd: can't cd to {directory}\n" 2 }
  | "echo" :: args => some { trace := echo true sh.files args [] }
  | "printf" :: args => some { trace := printf sh.files args [] }
  | "true" :: _ | "trap" :: _ => some {}
  | "false" :: _ => some { trace := { ending := .exit 1 } }
  | "pwd" :: args => some { trace := pwd sh.files args [] }
  | "test" :: args => some { trace := test sh.files args [] }
  | "[" :: args => some { trace := bracket sh.files args [] }
  | _ => none

/-- The exit code and wording for a program that cannot be started. -/
def notStarted (sh : Shell) (program : String) : IoError → Trace
  | .notFound => .failing s!"{sh.name}: 1: {program}: not found\n" 127
  | e => .failing s!"{sh.name}: 1: {program}: {plainText e}\n" 126

/-- Runs a program with its arguments. -/
def Shell.external (exec : Execute) (sh : Shell) (words : List String) (input : List UInt8) : Trace :=
  match exec sh.files words input with
  | .ok t => t
  | .error e => notStarted sh (words.head?.getD "") e

/-- The shell after a trace in it. -/
def Shell.record (sh : Shell) (t : Trace) : Shell :=
  { sh with files := t.applyTo sh.files, status := t.ending.status, trace := sh.trace.andThen t }

/-- The shell after one of its own commands. -/
def Shell.recordBuiltin (sh : Shell) (d : Descriptors) (b : Builtin) : Shell :=
  let after := sh.record (redirected sh.files d b.trace)
  { after with
    files := { after.files with workingDirectory := b.directory.getD after.files.workingDirectory }
    ended := b.ends }

/-- Runs one command with `input` to read. A program that takes the shell's place ends it. -/
def Shell.command (exec : Execute) (sh : Shell) (c : Command) (input : List UInt8) : Shell :=
  match sh.redirectAll { input } c.redirects with
  | .error complaint => sh.record (.failing s!"{sh.name}: 1: {complaint}\n" 2)
  | .ok d =>
    let run (words : List String) : Shell := sh.record (redirected sh.files d (sh.external exec words d.input))
    match c.words.flatMap sh.expand with
    -- The program takes the place of the shell, so nothing runs after it.
    | "exec" :: word :: words =>
      let after := run (word :: words)
      { after with ended := some after.trace.ending }
    | words =>
      match sh.builtin? words with
      | none => run words
      | some b => sh.recordBuiltin d b

/-- A shell for a part of a pipeline. -/
def Shell.child (sh : Shell) : Shell := { sh with trace := {} }

/-- How a shell that is at its end ended. -/
def Shell.ending (sh : Shell) : Ending := sh.ended.getD (.exit sh.status)

/-- What a part of a pipeline did, without what it printed for the next part. -/
def Trace.passed (t : Trace) : Trace := { t with written := t.written.filter (·.1 == .err) }

/-- Runs the commands of a pipeline; `input` is what the first one reads. -/
def Shell.pipe (exec : Execute) (sh : Shell) (input : List UInt8) : Pipeline → Trace
  | [] => {}
  | [c] =>
    let last := sh.child.command exec c input
    { last.trace with ending := last.ending }
  | c :: cs =>
    -- Every part runs in a shell of its own and changes nothing in this one.
    let first := (sh.child.command exec c input).trace
    (Trace.passed first).andThen (sh.pipe exec (first.stream .out) cs)

/-- Runs a pipeline. A single command runs in the shell itself. -/
def Shell.pipeline (exec : Execute) (sh : Shell) (input : List UInt8) (p : Pipeline) : Shell :=
  match p with
  | [c] => sh.command exec c input
  | cs => sh.record (sh.pipe exec input cs)

/-- Whether a pipeline runs under its condition. -/
def Shell.meets (sh : Shell) : Condition → Bool
  | .always => true
  | .onSuccess => sh.status == 0
  | .onFailure => sh.status != 0

/-- Runs a script up to its end or to the end of the shell. -/
def Shell.script (exec : Execute) (sh : Shell) (input : List UInt8) : Script → Shell
  | [] => sh
  | (condition, p) :: rest =>
    if sh.ended.isSome then sh
    else if sh.meets condition then (sh.pipeline exec input p).script exec input rest
    else sh.script exec input rest

/-- What a shell does with a script. -/
def Shell.run (exec : Execute) (sh : Shell) (text : List Char) (input : List UInt8) : Trace :=
  match Script.parse? text with
  | none => .failing s!"{sh.name}: 1: Syntax error\n" 2
  | some s =>
    let after := sh.script exec input s
    { after.trace with ending := after.ending }

/-- The shell as a program: its script is an argument, a file, or its input. -/
def interpreter (exec : Execute) : Tool := fun fs args stdin =>
  match args with
  | "-c" :: text :: name :: args => Shell.run exec { name, arguments := args, files := fs } text.toList stdin
  | ["-c", text] => Shell.run exec { name := "sh", files := fs } text.toList stdin
  | file :: args =>
    match fs.read (.ofString file) with
    | .ok content =>
      Shell.run exec { name := file, arguments := args, files := fs }
        (Utf8.decodeLossyChars content.data.toList) stdin
    | .error _ => .failing s!"sh: 0: cannot open {file}: No such file\n" 2
  | [] => Shell.run exec { name := "sh", files := fs } (Utf8.decodeLossyChars stdin) []

end FipsAudit.Host
