import FipsAudit.Text.Pieces

/-!
# `FipsAudit.Request` — requests by words

The words after the program's name say what to audit. Options begin with a hyphen; most may stand before and after
the name of the audit. The first word that is not understood ends the reading, and so does a request for help or
for the version.

* `Request` — an audit with its options, or a question about the program.
* `Request.parse` — what the words ask for.
-/

namespace FipsAudit

/-! ## Requests -/

/-- What to audit. -/
inductive Target where
  | binary (path : String)
  | rpm (path : String)
  | image (reference : String)
  | rootfs (root : String) (skipLibraries : Bool)
deriving DecidableEq, Repr

/-- The options that every audit takes. -/
structure Options where
  /-- Whether details are logged. -/
  debug : Bool := false
  /-- The policy file. -/
  config : Option String := none
  /-- Whether the outcome is one document. -/
  json : Bool := false
deriving DecidableEq, Repr

/-- What the words ask for. -/
inductive Request where
  | audit (options : Options) (target : Target)
  | version
  | help
deriving DecidableEq, Repr

namespace Request

/-- Why reading ends before the last word: nothing more is needed, or a word is not understood. -/
inductive Stop where
  | answered (request : Request)
  | misused
deriving DecidableEq, Repr

/-! ## Words -/

/-- The audits by name. -/
inductive Subcommand where
  | binary
  | rpm
  | image
  | rootfs
deriving DecidableEq, Repr

/-- The audit of a name. -/
def Subcommand.ofName? : String → Option Subcommand
  | "binary" => some .binary
  | "rpm" => some .rpm
  | "image" => some .image
  | "rootfs" => some .rootfs
  | _ => none

/-- What a word is by its spelling. -/
inductive Word where
  /-- Two hyphens: no options from here on. -/
  | escape
  /-- Two hyphens with a name, and what stands after an equals sign. -/
  | long (name : String) (value : Option String)
  /-- A hyphen with letters. -/
  | short (letters : List Char)
  /-- Anything else, a lone hyphen too. -/
  | plain (text : String)
deriving DecidableEq, Repr

/-- What a word is by its spelling. -/
def Word.ofString (s : String) : Word :=
  match s.toList with
  | ['-', '-'] => .escape
  | '-' :: '-' :: cs =>
    match Text.cutAt? '=' cs with
    | some (name, value) => .long (String.ofList name) (some (String.ofList value))
    | none => .long (String.ofList cs) none
  | '-' :: c :: cs => .short (c :: cs)
  | _ => .plain s

/-! ## Reading -/

/-- The options on one side of the audit's name: each is given once at most. -/
structure Given where
  /-- Details are asked for. -/
  debug : Bool := false
  /-- The policy file that is asked for. -/
  config : Option String := none
  /-- A document is asked for. -/
  json : Bool := false
  /-- The libraries are to be left out. -/
  skipLibraries : Bool := false
  /-- The target. -/
  operand : Option String := none

/-- Which words are understood: those before the name of the audit, or those after it. -/
abbrev Place := Option Subcommand

/-- What is given after a switch, which may be set once and takes no value. -/
def once (isSet : Bool) (value : Option String) (g : Given) : Except Stop Given :=
  if isSet || value.isSome then .error .misused else .ok g

/-- A long option other than that of the policy file. -/
def Given.long (g : Given) (place : Place) (name : String) (value : Option String) : Except Stop Given :=
  match name, place with
  | "debug", _ => once g.debug value { g with debug := true }
  | "json", _ => once g.json value { g with json := true }
  | "skip-libcrypto", some .rootfs => once g.skipLibraries value { g with skipLibraries := true }
  | "help", _ => .error (if value.isSome then .misused else .answered .help)
  | "version", none => .error (if value.isSome then .misused else .answered .version)
  | _, _ => .error .misused

/-- The letters of a short word: the first decides. -/
def shortStop (place : Place) : List Char → Stop
  | 'h' :: _ => .answered .help
  | 'V' :: _ => if place.isNone then .answered .version else .misused
  | _ => .misused

/-- Sets the policy file, which may be set once and has a name. -/
def Given.setConfig (g : Given) (path : String) : Except Stop Given :=
  if g.config.isSome || path.isEmpty then .error .misused else .ok { g with config := some path }

/-- Takes a word as the target. Before the name of the audit there is none. -/
def Given.setOperand (g : Given) (place : Place) (text : String) : Except Stop Given :=
  if place.isNone || g.operand.isSome then .error .misused else .ok { g with operand := some text }

/-- What reading on one side of the audit's name delivers: what was given, and the name with the words after it. -/
structure Side where
  /-- What was given. -/
  given : Given
  /-- The audit, and the words that follow its name. -/
  next : Option (Subcommand × List String) := none

/-- Reads words after two hyphens: all of them are targets. -/
def Given.operands (g : Given) (place : Place) : List String → Except Stop Side
  | [] => .ok { given := g }
  | w :: ws => do
    let g ← g.setOperand place w
    g.operands place ws

/-- The word that asks for help with what follows it. -/
def helpName : String := "help"

/-- What words ask for that follow the word for help: help with one audit, or in general. -/
def helpStop : List String → Stop
  | [] => .answered .help
  | [name] => if (Subcommand.ofName? name).isSome || name = helpName then .answered .help else .misused
  | _ => .misused

/-- Reads the words of one side; `pathDue` says that the next one has to be the name of the policy file. -/
def Given.read (g : Given) (place : Place) (pathDue : Bool) : List String → Except Stop Side
  | [] => if pathDue then .error .misused else .ok { given := g }
  | w :: ws =>
    match pathDue, Word.ofString w with
    | true, .plain path | false, .long "config" (some path) => do
      let g ← g.setConfig path
      g.read place false ws
    | true, _ => .error .misused
    | false, .escape => g.operands place ws
    | false, .long "config" none => g.read place true ws
    | false, .long name value => do
      let g ← g.long place name value
      g.read place false ws
    | false, .short letters => .error (shortStop place letters)
    | false, .plain text =>
      if place = none then
        match Subcommand.ofName? text with
        | some c => .ok { given := g, next := some (c, ws) }
        | none => .error (if text = helpName then helpStop ws else .misused)
      else do
        let g ← g.setOperand place text
        g.read place false ws

/-- The options of both sides; what stands after the name of the audit counts more. -/
def Given.options (before after : Given) : Options where
  debug := before.debug || after.debug
  config := after.config.or before.config
  json := before.json || after.json

/-- The target of an audit. -/
def Subcommand.target (c : Subcommand) (g : Given) (operand : String) : Target :=
  match c with
  | .binary => .binary operand
  | .rpm => .rpm operand
  | .image => .image operand
  | .rootfs => .rootfs operand g.skipLibraries

/-- The request, or the reason why reading ended early. -/
def read (words : List String) : Except Stop Request := do
  let side ← Given.read {} none false words
  match side.next with
  | none => throw .misused
  | some (c, rest) =>
    let after := (← Given.read {} (some c) false rest).given
    match after.operand with
    | none => throw .misused
    | some operand => return .audit (side.given.options after) (c.target after operand)

/-- What the words ask for; `none` when they are misused. -/
def parse (words : List String) : Option Request :=
  match read words with
  | .ok request => some request
  | .error (.answered request) => some request
  | .error .misused => none

end Request

end FipsAudit
