import FipsAudit.Host.Format
import FipsAudit.Host.Process
import FipsAudit.Text.Pieces

/-!
# `FipsAudit.Host.Tools` — small tools

Tools that read files and their input and print something.

* `printf`, `echo`, `seq` — texts from arguments.
* `cat`, `head`, `tail`, `wc`, `tr` — texts from files and from the input.
* `ls`, `test` — what there is in the files.
* `sleep`, `yes` — time that passes.
* `tool?` — the tool of a name.
-/

namespace FipsAudit.Host

open Text

/-- What a tool does, by the files, its arguments and its input. -/
abbrev Tool := FileSystem → List String → List UInt8 → Trace

/-! ## Texts from arguments -/

/-- Prints its arguments in a format. -/
def printf : Tool := fun _ args _ =>
  match args with
  | [] => .failing "printf: missing operand\n"
  | format :: args =>
    match written? format args with
    | some bytes => .printing bytes
    | none => .failing s!"printf: {format}: invalid directive\n"

/-- Prints its arguments with blanks between them, with escapes or without. -/
def echo (escapes : Bool) : Tool := fun _ args _ =>
  let (args, lineEnd) : List String × List UInt8 :=
    match args with
    | "-n" :: rest => (rest, [])
    | _ => (args, [10])
  let text := " ".intercalate args
  .printing ((if escapes then unescape 0 text.toList else Utf8.encode text) ++ lineEnd)

/-- Prints the numbers from one to another, one a line; from one on if only the last is named. -/
def seq : Tool := fun _ args _ =>
  let lines (first last : Nat) : Trace :=
    .printing ((List.range (last + 1 - first)).flatMap fun i => Utf8.encodeChars (decimal (first + i)) ++ [10])
  match args.map fun n => natOfDigits n.toList with
  | [last] => lines 1 last
  | [first, last] => lines first last
  | _ => .failing "seq: missing operand\n"

/-! ## Texts from files -/

/-- The file that has no end and holds zeros. -/
def zeros : String := "/dev/zero"

/-- The file that is empty. -/
def nothing : String := "/dev/null"

/-- The content of a file, a lone hyphen for the input; `limit` bytes are enough. -/
def contentOf (fs : FileSystem) (stdin : List UInt8) (limit : Nat) (file : String) : Except IoError (List UInt8) :=
  if file = "-" then .ok stdin
  else if file = nothing then .ok []
  else if file = zeros then .ok (List.replicate limit 0)
  else (fs.read (.ofString file)).map (·.data.toList)

/-- The system's wording of a refusal without its number. -/
def plainText : IoError → String
  | .system code => systemText code
  | e => e.message

/-- The trace of `f` on each file, or on the input if there is none. -/
def overFiles (tool : String) (fs : FileSystem) (stdin : List UInt8) (limit : Nat) (files : List String)
    (f : List UInt8 → List UInt8) : Trace :=
  let steps := (if files.isEmpty then ["-"] else files).map fun file =>
    match contentOf fs stdin limit file with
    | .ok bytes => ((Stream.out, f bytes), false)
    | .error e => ((Stream.err, Utf8.encode s!"{tool}: {file}: {plainText e}\n"), true)
  { written := steps.map (·.1), ending := .exit (if steps.any (·.2) then 1 else 0) }

/-- Prints files. -/
def cat : Tool := fun fs args stdin => overFiles "cat" fs stdin 0 args id

/-- The first `n` lines. -/
def takeLines : (n : Nat) → List UInt8 → List UInt8
  | 0, _ => []
  | _, [] => []
  | n + 1, b :: bytes => if b = 10 then b :: takeLines n bytes else b :: takeLines (n + 1) bytes

/-- Prints the beginnings of files, by bytes or by lines. -/
def head : Tool := fun fs args stdin =>
  match args with
  | "-c" :: n :: files =>
    let n := natOfDigits n.toList
    overFiles "head" fs stdin n files (·.take n)
  | "-n" :: n :: files => overFiles "head" fs stdin 0 files (takeLines (natOfDigits n.toList))
  | files => overFiles "head" fs stdin 0 files (takeLines 10)

/-- How many lines bytes have; an end of a line that is missing at their end counts. -/
def countLines (bytes : List UInt8) : Nat :=
  bytes.count 10 + if bytes.getLast?.all (· = 10) then 0 else 1

/-- What follows the first `n` lines. -/
def dropLines : (n : Nat) → List UInt8 → List UInt8
  | 0, bytes => bytes
  | _, [] => []
  | n + 1, b :: bytes => if b = 10 then dropLines n bytes else dropLines (n + 1) bytes

/-- The last `n` lines. -/
def lastLines (n : Nat) (bytes : List UInt8) : List UInt8 := dropLines (countLines bytes - n) bytes

/-- Prints the ends of files, by bytes or by lines. -/
def tail : Tool := fun fs args stdin =>
  match args with
  | "-c" :: n :: files =>
    overFiles "tail" fs stdin 0 files fun bytes => bytes.drop (bytes.length - natOfDigits n.toList)
  | "-n" :: n :: files => overFiles "tail" fs stdin 0 files (lastLines (natOfDigits n.toList))
  | files => overFiles "tail" fs stdin 0 files (lastLines 10)

/-- Prints how many bytes or lines the input or a file has, and which file that is. -/
def wc : Tool := fun fs args stdin =>
  let counting (count : List UInt8 → Nat) (files : List String) : Trace :=
    overFiles "wc" fs stdin 0 files fun bytes =>
      Utf8.encodeChars (decimal (count bytes)) ++ files.flatMap (32 :: Utf8.encode ·) ++ [10]
  match args with
  | "-c" :: files => counting List.length files
  | "-l" :: files => counting (List.count 10) files
  | _ => .failing "wc: missing operand\n"

/-! ## Directories -/

/-- One name a line, in the order of their bytes; names that begin with a dot are left out. -/
def nameLines (names : List Name) : List UInt8 :=
  let shown := names.filter (·.head? ≠ some Path.dot)
  (shown.mergeSort fun a b => !(decide (b < a))).flatMap (· ++ [10])

/-- Lists a directory, the working directory if none is named, or names a file that is there. -/
def ls : Tool := fun fs args _ =>
  let named := args.filter (· ≠ "-1")
  let path := named.head?.getD "."
  match fs.list (.ofString path) with
  | .ok entries => .printing (nameLines (entries.map (·.1)))
  | .error .notDirectory => .printing (Utf8.encode path ++ [10])
  | .error e => .failing s!"ls: cannot access '{path}': {plainText e}\n" 2

/-! ## Conditions -/

/-- Whether a condition on a file or a text holds; `none` for a condition that is not known. -/
def unaryHolds? (fs : FileSystem) (condition operand : String) : Option Bool :=
  let path := Path.ofString operand
  match condition with
  | "-n" => some (operand ≠ "")
  | "-z" => some (operand = "")
  | "-e" => some (fs.status path).toBool
  | "-f" => some (fs.isFile path)
  | "-d" => some (fs.isDirectory path)
  | "-x" => some ((fs.status path).toOption.any fun n => n.isExecutable || n.isDirectory)
  | "-s" => some ((fs.read path).toOption.any (·.size ≠ 0))
  | "-L" => some ((fs.linkStatus path).toOption.any Node.isLink)
  | _ => none

/-- Whether a comparison holds; `none` for one that is not known. -/
def binaryHolds? (left comparison right : String) : Option Bool :=
  let m := natOfDigits left.toList
  let n := natOfDigits right.toList
  match comparison with
  | "=" => some (left = right)
  | "!=" => some (left ≠ right)
  | "-eq" => some (m = n)
  | "-ne" => some (m ≠ n)
  | "-lt" => some (m < n)
  | "-le" => some (m ≤ n)
  | "-gt" => some (n < m)
  | "-ge" => some (n ≤ m)
  | _ => none

/-- Whether a condition in words holds. -/
def conditionHolds? (fs : FileSystem) : List String → Option Bool
  | [] => some false
  | "!" :: rest => (conditionHolds? fs rest).map (!·)
  | [text] => some (text ≠ "")
  | [condition, operand] => unaryHolds? fs condition operand
  | [left, comparison, right] => binaryHolds? left comparison right
  | _ => none

/-- Ends with an exit code that says whether a condition holds. -/
def test : Tool := fun fs args _ =>
  match conditionHolds? fs args with
  | some holds => { ending := .exit (if holds then 0 else 1) }
  | none => .failing "test: unexpected operator\n" 2

/-- A condition between brackets. -/
def bracket : Tool := fun fs args stdin =>
  if args.getLast? = some "]" then test fs args.dropLast stdin else .failing "[: missing ]\n" 2

/-- The bytes that are listed, where a hyphen between two bytes stands for all from one to the other. -/
def expandRanges : List UInt8 → List UInt8
  | a :: 0x2d :: b :: rest =>
    (List.range (b.toNat + 1 - a.toNat)).map (fun i => UInt8.ofNat (a.toNat + i)) ++ expandRanges rest
  | a :: rest => a :: expandRanges rest
  | [] => []

/-- The bytes of a set: escapes, and ranges with a hyphen. -/
def byteSet (s : String) : List UInt8 := expandRanges (unescape 0 s.toList)

/-- The byte that stands in place of `b`: the one at its place in the other set, whose last byte counts for all
    later places. -/
def replaced (source target : List UInt8) (b : UInt8) : UInt8 :=
  match source.idxOf? b with
  | none => b
  | some i => (target[i]?).getD ((target.getLast?).getD b)

/-- Prints the input with bytes replaced or left out. -/
def tr : Tool := fun _ args stdin =>
  match args with
  | ["-d", set] =>
    let set := byteSet set
    .printing (stdin.filter fun b => !set.contains b)
  | [source, target] =>
    let source := byteSet source
    let target := byteSet target
    .printing (stdin.map (replaced source target))
  | _ => .failing "tr: missing operand\n"

/-! ## Time -/

/-- The milliseconds of a number of seconds with decimals. -/
def milliseconds (s : String) : Nat :=
  match (pieces '.' s.toList) with
  | [whole] => 1000 * natOfDigits whole
  | whole :: part :: _ => 1000 * natOfDigits whole + natOfDigits ((part ++ ['0', '0', '0']).take 3)
  | [] => 0

/-- Lets time pass. -/
def sleep : Tool := fun _ args _ => { elapsed := (args.map milliseconds).foldr (· + ·) 0 }

/-- How often a line is repeated that is repeated without end: more often than it is read. -/
def manyTimes : Nat := 500000

/-- Prints a line again and again, until no one reads it any more. -/
def yes : Tool := fun _ args _ =>
  let line := if args.isEmpty then "y" else " ".intercalate args
  { Trace.printing (List.replicate manyTimes (Utf8.encode (line ++ "\n"))).flatten with elapsed := 1000 * manyTimes }

/-! ## By name -/

/-- A tool that only ends, with the given exit code. -/
def ending (code : Nat) : Tool := fun _ _ _ => { ending := .exit code }

/-- Prints the working directory. -/
def pwd : Tool := fun fs _ _ => .printing (fs.currentDirectory.bytes ++ [10])

/-- The tools by name. -/
def tools : List (String × Tool) :=
  [("printf", printf), ("echo", echo false), ("seq", seq), ("cat", cat), ("head", head), ("tail", tail), ("wc", wc),
    ("tr", tr), ("ls", ls), ("test", test), ("[", bracket), ("sleep", sleep), ("yes", yes), ("true", ending 0),
    ("false", ending 1), ("pwd", pwd)]

/-- The names of the tools. -/
def toolNames : List String := tools.map (·.1)

/-- The tool of a name. -/
def tool? (name : String) : Option Tool := tools.lookup name

end FipsAudit.Host
