import FipsAudit.Shell.Token

/-!
# `FipsAudit.Shell.Script` — the commands of a shell script

A script is a list of pipelines, each under a condition on the one before; a pipeline is a list of commands, each
of which reads what the one before prints; a command is a list of words with redirections.

* `Command`, `Pipeline`, `Script` — the commands.
* `ofTokens?` — the script of a list of tokens.
* `parse?` — the script of a text.
-/

namespace FipsAudit.Shell

/-- A redirection with its target. -/
structure Redirect where
  /-- The descriptor that is redirected. -/
  descriptor : Nat
  /-- What becomes of it. -/
  action : Redirection
  /-- The file or descriptor that it is about. -/
  target : Word
deriving DecidableEq, Repr

/-- A command. -/
structure Command where
  /-- The program and its arguments. -/
  words : List Word := []
  /-- The redirections, in order. -/
  redirects : List Redirect := []
deriving DecidableEq, Repr

/-- Commands of which each reads what the one before prints. -/
abbrev Pipeline := List Command

/-- When a pipeline runs. -/
inductive Condition where
  | always
  | onSuccess
  | onFailure
deriving DecidableEq, Repr

/-- Pipelines, each with its condition. -/
abbrev Script := List (Condition × Pipeline)

/-- A script in the making; all lists are in reverse. -/
structure Builder where
  /-- The words of the command at hand. -/
  words : List Word := []
  /-- Its redirections. -/
  redirects : List Redirect := []
  /-- The redirection that needs a target. -/
  pending : Option (Nat × Redirection) := none
  /-- The commands before it in the pipeline. -/
  commands : List Command := []
  /-- The condition of the pipeline. -/
  condition : Condition := .always
  /-- The pipelines before. -/
  done : List (Condition × Pipeline) := []

namespace Builder

/-- Whether the command at hand is empty. -/
def isEmpty (b : Builder) : Bool := b.words.isEmpty && b.redirects.isEmpty

/-- The command at hand ends; an empty one is a fault. -/
def endCommand? (b : Builder) : Option Builder :=
  if b.isEmpty || b.pending.isSome then none
  else
    some { b with
      words := []
      redirects := []
      commands := ⟨b.words.reverse, b.redirects.reverse⟩ :: b.commands }

/-- The pipeline at hand ends, and one under `next` begins. -/
def endPipeline? (b : Builder) (next : Condition) : Option Builder :=
  b.endCommand?.map fun b =>
    { b with commands := [], condition := next, done := (b.condition, b.commands.reverse) :: b.done }

/-- Whether nothing has begun after the last end of a pipeline that runs in any case. -/
def isIdle (b : Builder) : Bool :=
  b.isEmpty && b.pending.isNone && b.commands.isEmpty && b.condition == .always

/-- One token. Empty lines, and line ends where a command is still due, do not count. -/
def step? (b : Builder) : Token → Option Builder
  | .word w =>
    match b.pending with
    | some (descriptor, action) =>
      some { b with pending := none, redirects := ⟨descriptor, action, w⟩ :: b.redirects }
    | none => some { b with words := w :: b.words }
  | .redirect descriptor action =>
    if b.pending.isSome then none else some { b with pending := some (descriptor, action) }
  | .sign .pipe => b.endCommand?
  | .sign .and => b.endPipeline? .onSuccess
  | .sign .or => b.endPipeline? .onFailure
  | .sign .semicolon => b.endPipeline? .always
  | .sign .newline => if b.isEmpty && b.pending.isNone then some b else b.endPipeline? .always

/-- The script at the end of the tokens. -/
def finish? (b : Builder) : Option Script :=
  if b.isIdle then some b.done.reverse else (b.endPipeline? .always).map (·.done.reverse)

end Builder

/-- The script of a list of tokens. -/
def Script.ofTokens? (ts : List Token) : Option Script :=
  (ts.foldlM (fun (b : Builder) t => b.step? t) {}).bind Builder.finish?

/-- The script of a text. -/
def Script.parse? (text : List Char) : Option Script := (tokens? text).bind Script.ofTokens?

end FipsAudit.Shell
