import FipsAudit.Pattern.Basic
import FipsAudit.Text.Number

/-!
# `FipsAudit.Pattern.Escape` — escapes of patterns

What stands after a backslash: a character by itself or by number, a class of characters, or a condition on the
position. Outside text mode only characters below 128 make up classes, so that matches end between characters.

* `Flags` — the modes that patterns switch.
* `Primitive` — what one character or escape means.
* `escape?` — reads an escape.
-/

namespace FipsAudit.Pattern

open Text Text.Unicode

/-- The modes of a pattern. -/
structure Flags where
  /-- Letters match all their case variants. -/
  ignoreCase : Bool := false
  /-- The beginning and the end are those of lines. -/
  multiLine : Bool := false
  /-- The dot matches line breaks. -/
  dotAll : Bool := false
  /-- Lines end with carriage returns too. -/
  crlf : Bool := false
  /-- Characters are those of text, not bytes. -/
  textual : Bool := true
  /-- Blanks and comments do not count. -/
  extended : Bool := false
deriving DecidableEq, Repr

/-- What one character or escape means. -/
inductive Primitive where
  /-- A character; `byte` says that it was written as a byte, by two digits. -/
  | literal (c : Char) (byte : Bool)
  /-- A class. -/
  | cls (c : CharClass)
  /-- A condition. -/
  | look (l : Look)
  /-- Any character. -/
  | dot

/-! ## Blanks -/

/-- What follows blanks and comments; `comment` says that `s` begins inside a comment. -/
def afterBlanks : (comment : Bool) → (s : List Char) → List Char
  | _, [] => []
  | true, c :: r => afterBlanks (c != '\n') r
  | false, c :: r =>
    if isBlank c then afterBlanks false r else if c = '#' then afterBlanks true r else c :: r

/-- What follows blanks and comments where they do not count. -/
def gap (f : Flags) (s : List Char) : List Char := if f.extended then afterBlanks false s else s

/-! ## Characters by number -/

/-- Exactly `n` hexadecimal digits after those of `value`. -/
def fixedHex (f : Flags) : (n value : Nat) → List Char → Option (Nat × List Char)
  | 0, value, s => some (value, s)
  | n + 1, value, s =>
    match s with
    | [] => none
    | c :: r => (hexValue? c).bind fun d => fixedHex f n (16 * value + d) (gap f r)

/-- Hexadecimal digits up to a closing brace; `value` is that of the digits before, if there were any. -/
def bracedHex (f : Flags) (value : Option Nat) : List Char → Option (Nat × List Char)
  | [] => none
  | c :: r =>
    if c = '\x7d' then value.map (·, gap f r)
    else if f.extended && isBlank c then bracedHex f value r
    else (hexValue? c).bind fun d => bracedHex f (some (16 * value.getD 0 + d)) r

/-- A character by its number, after the letter that says how many digits it has without braces. -/
def numbered? (f : Flags) (digits : Nat) (s : List Char) : Option (Primitive × List Char) :=
  match gap f s with
  | '\x7b' :: r => (bracedHex f none r).bind fun (n, rest) => (charOfNat? n).map (.literal · false, rest)
  | s => (fixedHex f digits 0 s).bind fun (n, rest) => (charOfNat? n).map (.literal · (digits == 2), rest)

/-! ## Classes -/

/-- A class with its case variants where case does not count. -/
def Flags.fold (f : Flags) (c : CharClass) : CharClass :=
  if f.ignoreCase then (if f.textual then .folded c else .asciiFolded c) else c

/-- A character beyond the bytes of ASCII, which stands for all of them. -/
def beyond : Char := '\x80'

/-- The class, or its complement. Outside text mode it may hold nothing beyond ASCII. -/
def Flags.close? (f : Flags) (negated : Bool) (c : CharClass) : Option CharClass :=
  let c := if negated then .negated c else c
  if !f.textual && c.contains beyond then none else some c

/-- The class of a letter: digits, blanks or characters of words. -/
def letterClass (f : Flags) (c : Char) : CharClass :=
  if f.textual then
    match c with
    | 'd' => .named (.categories "Nd")
    | 's' => .named .blank
    | _ => .named .word
  else
    match c with
    | 'd' => .ofRanges [('0', '9')]
    | 's' => .ofRanges [('\t', '\r'), (' ', ' ')]
    | _ => .ofRanges [('0', '9'), ('A', 'Z'), ('_', '_'), ('a', 'z')]

/-- What precedes and follows the first `mark`, if it occurs. -/
def cutText? (mark : List Char) : List Char → Option (List Char × List Char)
  | [] => none
  | c :: r =>
    match after? mark (c :: r) with
    | some rest => some ([], rest)
    | none => (cutText? mark r).map fun p => (c :: p.1, p.2)

/-- The set that a braced name stands for, and whether its complement is meant. -/
def namedSet? (name : List Char) : Option (CharSet × Bool) :=
  match cutText? ['!', '='] name with
  | some (p, v) => (CharSet.valued? p v).map (·, true)
  | none =>
    match (cutText? [':'] name).or (cutText? ['='] name) with
    | some (p, v) => (CharSet.valued? p v).map (·, false)
    | none => (CharSet.named? name).map (·, false)

/-- A class by name, after its letter. -/
def propertyClass? (f : Flags) (negated : Bool) (s : List Char) : Option (Primitive × List Char) := do
  let (set, inverse, rest) ←
    match gap f s with
    | '\x7b' :: r => do
      let name := (r.takeWhile (· != '\x7d')).filter fun c => !(f.extended && isBlank c)
      let rest ← after? ['\x7d'] (r.dropWhile (· != '\x7d'))
      let (set, inverse) ← namedSet? name
      pure (set, inverse, rest)
    | c :: r => if c = '\\' then none else (CharSet.named? [c]).map (·, false, gap f r)
    | [] => none
  if !f.textual then none
  else
    let c := f.fold (.named set)
    return (.cls (if negated != inverse then .negated c else c), rest)

/-! ## Conditions -/

/-- The condition that a braced name after `b` stands for. -/
def namedLook? (ascii : Bool) (name : List Char) : Option Look :=
  if name = "start".toList then some (.wordStart ascii)
  else if name = "end".toList then some (.wordEnd ascii)
  else if name = "start-half".toList then some (.wordStartHalf ascii)
  else if name = "end-half".toList then some (.wordEndHalf ascii)
  else none

/-- The characters of the names of conditions. -/
def isLookChar (c : Char) : Bool := c.isAlpha || c == '-'

/-- The letters of a name, between which blanks may stand that do not count, and what follows them. -/
def lookName (f : Flags) : (fuel : Nat) → List Char → List Char × List Char
  | 0, s => ([], s)
  | fuel + 1, s =>
    match s with
    | c :: r =>
      if isLookChar c then
        let (name, rest) := lookName f fuel (gap f r)
        (c :: name, rest)
      else ([], s)
    | [] => ([], [])

/-- A word boundary after its letter, perhaps of a special kind. A brace that does not begin a name is left to be
    read as a repetition. -/
def wordBoundary? (f : Flags) (s : List Char) : Option (Primitive × List Char) :=
  let plain := some (Primitive.look (.wordBoundary !f.textual), s)
  match s with
  | '\x7b' :: r =>
    match gap f r with
    | [] => none
    | c :: t =>
      if !isLookChar c then plain
      else
        let (name, rest) := lookName f (t.length + 1) (c :: t)
        (after? ['\x7d'] rest).bind fun rest => (namedLook? (!f.textual) name).map (.look ·, rest)
  | _ => plain

/-! ## Escapes -/

/-- Characters that mean something in patterns. -/
def isMeta (c : Char) : Bool := "\\.+*?()|[]\x7b\x7d^$#&-~".toList.contains c

/-- Characters that a backslash may stand before without changing them. -/
def isEscapable (c : Char) : Bool := isMeta c || (c.toNat < 0x80 && !c.isAlphanum && c != '<' && c != '>')

/-- The control character that a letter stands for. -/
def control? : Char → Option Char
  | 'a' => some '\x07'
  | 'f' => some '\x0c'
  | 't' => some '\t'
  | 'n' => some '\n'
  | 'r' => some '\r'
  | 'v' => some '\x0b'
  | _ => none

/-- The condition that a letter or an angle stands for. -/
def letterLook? (f : Flags) : Char → Option Look
  | 'A' => some .start
  | 'z' => some .finish
  | 'B' => some (.notWordBoundary !f.textual)
  | '<' => some (.wordStart !f.textual)
  | '>' => some (.wordEnd !f.textual)
  | _ => none

/-- Reads an escape after its backslash. -/
def escape? (f : Flags) (s : List Char) : Option (Primitive × List Char) :=
  match s with
  | [] => none
  | c :: r =>
    if c = 'x' then numbered? f 2 r
    else if c = 'u' then numbered? f 4 r
    else if c = 'U' then numbered? f 8 r
    else if c = 'p' ∨ c = 'P' then propertyClass? f (c = 'P') r
    else if c = 'b' then wordBoundary? f r
    else if ['d', 's', 'w', 'D', 'S', 'W'].contains c then
      (f.close? c.isUpper (letterClass f c.toLower)).map (.cls ·, r)
    else if isEscapable c then some (.literal c false, r)
    else
      match control? c with
      | some d => some (.literal d false, r)
      | none => (letterLook? f c).map (.look ·, r)

end FipsAudit.Pattern
