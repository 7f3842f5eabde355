import FipsAudit.Text.Number

/-!
# `FipsAudit.Shell.Token` — the words and signs of a shell script

A script is read character by character. Between single quotes every character stands for itself; between double
quotes all but the dollar and some that follow a backslash; elsewhere blanks end words, and signs separate
commands. The reader is a machine that takes one character a step.

* `Word` — a word in pieces: characters, and parameters to be replaced by their values.
* `Lexer.step` — one character.
* `tokens?` — the tokens of a script; `none` for quotes that are left open, and for forms outside this grammar.
-/

namespace FipsAudit.Shell

open Text

/-! ## Tokens -/

/-- Part of a word. -/
inductive Piece where
  /-- A character that stands for itself. -/
  | char (c : Char)
  /-- Quotes begin. They make a word even if nothing is between them. -/
  | quotes
  /-- The value of a parameter. Between double quotes it stays in one word. -/
  | parameter (name : List Char) (quoted : Bool)
deriving DecidableEq, Repr

/-- A word in pieces. -/
abbrev Word := List Piece

/-- The text of a word without parameters. -/
def Word.literal? : Word → Option (List Char)
  | [] => some []
  | .char c :: ps => (Word.literal? ps).map (c :: ·)
  | .quotes :: ps => Word.literal? ps
  | .parameter _ _ :: _ => none

/-- What a redirection does with a descriptor. -/
inductive Redirection where
  | input
  | output
  | append
  /-- It becomes the same as another descriptor. -/
  | copy
deriving DecidableEq, Repr

/-- A sign between commands. -/
inductive Sign where
  | semicolon
  | newline
  | and
  | or
  | pipe
deriving DecidableEq, Repr

/-- A token of a script. -/
inductive Token where
  | word (w : Word)
  | sign (s : Sign)
  /-- A redirection of a descriptor, whose target is the next word. -/
  | redirect (descriptor : Nat) (r : Redirection)
deriving DecidableEq, Repr

/-! ## The reader -/

/-- What the next character is read as. -/
inductive Mode where
  | plain
  /-- Something after a backslash, outside or inside double quotes. -/
  | escaped (quoted : Bool)
  | single
  | double
  /-- The beginning of a parameter. -/
  | dollar (quoted : Bool)
  /-- A letter of a parameter's name, which is held in reverse. -/
  | name (letters : List Char) (quoted : Bool)
  /-- A letter of a parameter's name between braces. -/
  | braced (letters : List Char) (quoted : Bool)
  /-- Perhaps the second character of a sign. -/
  | sign (first : Char)
  /-- Perhaps the second character of a redirection. -/
  | redirect (first : Char) (descriptor : Option Nat)
  | comment
  /-- Nothing: something before was not understood. -/
  | broken
deriving DecidableEq, Repr

/-- The reader between characters. -/
structure Lexer where
  /-- What the next character is read as. -/
  mode : Mode := .plain
  /-- The word at hand, the last piece first. -/
  word : Option Word := none
  /-- The tokens so far, the last one first. -/
  tokens : List Token := []
deriving DecidableEq, Repr

namespace Lexer

/-- One more piece of the word at hand. -/
def push (l : Lexer) (p : Piece) : Lexer := { l with word := some (p :: l.word.getD []) }

/-- The next character is read as `mode` says. -/
def become (l : Lexer) (mode : Mode) : Lexer := { l with mode }

/-- The word at hand ends. -/
def endWord (l : Lexer) : Lexer :=
  match l.word with
  | none => l
  | some w => { l with word := none, tokens := .word w.reverse :: l.tokens }

/-- One more token, after the word at hand. -/
def emit (l : Lexer) (t : Token) : Lexer :=
  let l := l.endWord
  { l with mode := .plain, tokens := t :: l.tokens }

/-- The mode outside a parameter. -/
def outer (quoted : Bool) : Mode := if quoted then .double else .plain

/-- The characters that begin names. -/
def isNameStart (c : Char) : Bool := c.isAlpha || c == '_'

/-- The parameters whose name is one character other than a letter. -/
def isSpecial (c : Char) : Bool := c.isDigit || ['@', '*', '#', '?', '$'].contains c

/-- The digits that a word consists of, as a number. A word with quotes is no number. -/
def digits? (w : Option Word) : Option Nat :=
  match w with
  | none => none
  | some w =>
    match Word.literal? w.reverse with
    | some (d :: ds) =>
      if w.contains .quotes || !(d :: ds).all Char.isDigit then none else some (natOfDigits (d :: ds))
    | _ => none

/-- The beginning of a redirection; a number right before it is the descriptor. -/
def beginRedirect (l : Lexer) (c : Char) : Lexer :=
  match digits? l.word with
  | some n => { l with word := none, mode := .redirect c (some n) }
  | none => l.become (.redirect c none)

/-- A character outside of quotes. -/
def plain (l : Lexer) (c : Char) : Lexer :=
  match c with
  | ' ' | '\t' => l.endWord
  | '\n' => l.emit (.sign .newline)
  | '\'' => (l.push .quotes).become .single
  | '"' => (l.push .quotes).become .double
  | '\\' => l.become (.escaped false)
  | '$' => l.become (.dollar false)
  | ';' => l.emit (.sign .semicolon)
  | '|' => l.endWord.become (.sign '|')
  | '&' => l.endWord.become (.sign '&')
  | '<' => l.beginRedirect '<'
  | '>' => l.beginRedirect '>'
  | '#' => if l.word.isNone then l.become .comment else l.push (.char '#')
  | '(' | ')' | '`' => l.become .broken
  | c => l.push (.char c)

/-- A character between double quotes. -/
def double (l : Lexer) (c : Char) : Lexer :=
  match c with
  | '"' => l.become .plain
  | '\\' => l.become (.escaped true)
  | '$' => l.become (.dollar true)
  | '`' => l.become .broken
  | c => l.push (.char c)

/-- A character where a parameter may have ended. -/
def resume (l : Lexer) (quoted : Bool) (c : Char) : Lexer :=
  let l := l.become (outer quoted)
  if quoted then l.double c else l.plain c

/-- The characters that a backslash between double quotes escapes. -/
def escapable : List Char := ['$', '`', '"', '\\']

/-- A character after a backslash. Between double quotes only some lose the backslash; a line end vanishes with
    it. -/
def escaped (l : Lexer) (quoted : Bool) (c : Char) : Lexer :=
  let l := l.become (outer quoted)
  if c = '\n' then l
  -- A backslash that escapes nothing stays.
  else if quoted && !escapable.contains c then (l.push (.char '\\')).push (.char c)
  else l.push (.char c)

/-- The first character after a dollar. -/
def dollar (l : Lexer) (quoted : Bool) (c : Char) : Lexer :=
  if isNameStart c then l.become (.name [c] quoted)
  else if isSpecial c then (l.push (.parameter [c] quoted)).become (outer quoted)
  else if c = '\x7b' then l.become (.braced [] quoted)
  else if c = '(' then l.become .broken
  else (l.push (.char '$')).resume quoted c

/-- A character after the first of a sign. -/
def sign (l : Lexer) (first c : Char) : Lexer :=
  if first = '|' then
    if c = '|' then l.emit (.sign .or) else (l.emit (.sign .pipe)).plain c
  else if c = '&' then l.emit (.sign .and)
  else l.become .broken

/-- The redirection of one character, with the descriptor that it is about. -/
def redirection (first : Char) (descriptor : Option Nat) : Token :=
  if first = '<' then .redirect (descriptor.getD 0) .input else .redirect (descriptor.getD 1) .output

/-- A character after the first of a redirection. -/
def redirect (l : Lexer) (first : Char) (descriptor : Option Nat) (c : Char) : Lexer :=
  if c = '&' then l.emit (.redirect (descriptor.getD (if first = '<' then 0 else 1)) .copy)
  else if first = '>' && c = '>' then l.emit (.redirect (descriptor.getD 1) .append)
  else (l.emit (redirection first descriptor)).plain c

/-- One character. -/
def step (l : Lexer) (c : Char) : Lexer :=
  match l.mode with
  | .plain => l.plain c
  | .escaped quoted => l.escaped quoted c
  | .single => if c = '\'' then l.become .plain else l.push (.char c)
  | .double => l.double c
  | .dollar quoted => l.dollar quoted c
  | .name letters quoted =>
    if isNameStart c || c.isDigit then l.become (.name (c :: letters) quoted)
    else (l.push (.parameter letters.reverse quoted)).resume quoted c
  | .braced letters quoted =>
    if c = '\x7d' then (l.push (.parameter letters.reverse quoted)).become (outer quoted)
    else l.become (.braced (c :: letters) quoted)
  | .sign first => l.sign first c
  | .redirect first descriptor => l.redirect first descriptor c
  | .comment => if c = '\n' then l.emit (.sign .newline) else l
  | .broken => l

/-- The tokens at the end of the script. -/
def finish? (l : Lexer) : Option (List Token) :=
  match l.mode with
  | .plain | .comment => some l.endWord.tokens.reverse
  | .escaped false => some (l.push (.char '\\')).endWord.tokens.reverse
  | .dollar false => some (l.push (.char '$')).endWord.tokens.reverse
  | .name letters false => some (l.push (.parameter letters.reverse false)).endWord.tokens.reverse
  | .sign '|' => some (l.emit (.sign .pipe)).tokens.reverse
  | .redirect first descriptor => some (l.emit (redirection first descriptor)).tokens.reverse
  | _ => none

end Lexer

/-- The tokens of a script. -/
def tokens? (script : List Char) : Option (List Token) := (script.foldl Lexer.step {}).finish?

end FipsAudit.Shell
