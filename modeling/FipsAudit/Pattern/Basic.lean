import FipsAudit.Text.Unicode.Folding
import FipsAudit.Text.Unicode.Name

/-!
# `FipsAudit.Pattern.Basic` — regular patterns

A pattern describes where a match that begins at some position of a text may end. It is run on all positions of a
set at once, so the work is bounded by the size of the pattern and the length of the text.

* `CharClass` — sets of characters, built from ranges and named sets.
* `Look` — conditions on a position.
* `Pattern.advance` — the positions where matches end that begin at given positions.
* `Pattern.isMatch` — whether the pattern matches anywhere in a text.
-/

namespace FipsAudit

open Text.Unicode

/-! ## Characters -/

/-- A set of characters. -/
inductive CharClass where
  | empty
  | range (low high : Nat)
  | named (set : CharSet)
  | negated (c : CharClass)
  | union (a b : CharClass)
  | intersection (a b : CharClass)
  | difference (a b : CharClass)
  | symmetricDifference (a b : CharClass)
  /-- The characters with a case variant in the set. -/
  | folded (c : CharClass)
  /-- The same among the letters below 128. -/
  | asciiFolded (c : CharClass)

namespace CharClass

/-- The variants by case of a character, among the characters below 128. -/
def asciiVariants (c : Char) : List Char := if c.toNat < 0x80 then [c.toLower, c.toUpper] else [c]

/-- Membership. -/
def contains : CharClass → Char → Bool
  | empty, _ => false
  | range low high, c => low ≤ c.toNat && c.toNat ≤ high
  | named set, c => set.contains c
  | negated a, c => !a.contains c
  | union a b, c => a.contains c || b.contains c
  | intersection a b, c => a.contains c && b.contains c
  | difference a b, c => a.contains c && !b.contains c
  | symmetricDifference a b, c => a.contains c != b.contains c
  | folded a, c => (variants c).any a.contains
  | asciiFolded a, c => (asciiVariants c).any a.contains

/-- One character. -/
def single (c : Char) : CharClass := range c.toNat c.toNat

/-- The union of a list of ranges. -/
def ofRanges (l : List (Char × Char)) : CharClass :=
  l.foldr (fun r c => union (range r.1.toNat r.2.toNat) c) empty

end CharClass

/-! ## Positions -/

/-- A condition on a position of a text. -/
inductive Look where
  /-- The beginning of the text. -/
  | start
  /-- The end of the text. -/
  | finish
  /-- The beginning of a line; lines end with a line feed, or with a carriage return or both where `crlf` is set. -/
  | lineStart (crlf : Bool)
  /-- The end of a line. -/
  | lineEnd (crlf : Bool)
  /-- Between a word and something else. -/
  | wordBoundary (ascii : Bool)
  /-- Not between a word and something else. -/
  | notWordBoundary (ascii : Bool)
  /-- Before a word. -/
  | wordStart (ascii : Bool)
  /-- After a word. -/
  | wordEnd (ascii : Bool)
  /-- Not after a character of a word. -/
  | wordStartHalf (ascii : Bool)
  /-- Not before a character of a word. -/
  | wordEndHalf (ascii : Bool)
deriving DecidableEq, Repr

/-- The characters of words below 128. -/
def isAsciiWord (c : Char) : Bool := c.isAlphanum || c == '_'

namespace Look

/-- Whether the character beside a position belongs to a word. -/
def inWord (ascii : Bool) (c : Option Char) : Bool := c.any (if ascii then isAsciiWord else isWord)

/-- Whether the condition holds between `before` and `after`. -/
def holdsBetween (before after : Option Char) : Look → Bool
  | start => before.isNone
  | finish => after.isNone
  | lineStart false => before.all (· == '\n')
  | lineStart true => before.all (fun c => c == '\n' || (c == '\r' && after != some '\n'))
  | lineEnd false => after.all (· == '\n')
  | lineEnd true => after.all (fun c => c == '\r' || (c == '\n' && before != some '\r'))
  | wordBoundary ascii => inWord ascii before != inWord ascii after
  | notWordBoundary ascii => inWord ascii before == inWord ascii after
  | wordStart ascii => !inWord ascii before && inWord ascii after
  | wordEnd ascii => inWord ascii before && !inWord ascii after
  | wordStartHalf ascii => !inWord ascii before
  | wordEndHalf ascii => !inWord ascii after

/-- Whether the condition holds at position `i` of a text. -/
def holds (text : Array Char) (i : Nat) (l : Look) : Bool :=
  l.holdsBetween (if i = 0 then none else text[i - 1]?) text[i]?

end Look

/-! ## Patterns -/

/-- A pattern. -/
inductive Pattern where
  /-- Nothing at all. -/
  | empty
  /-- One character of a class. -/
  | char (c : CharClass)
  /-- Nothing, where a condition holds. -/
  | look (l : Look)
  /-- One after the other. -/
  | seq (a b : Pattern)
  /-- Either. -/
  | alt (a b : Pattern)
  /-- As often as the bounds say. -/
  | rep (p : Pattern) (least : Nat) (most : Option Nat)

namespace Pattern

/-- The union of two ascending lists of positions. -/
def unite (s t : List Nat) : List Nat := (List.merge s t).eraseReps

/-- `f` applied `n` times. -/
def exactly (f : List Nat → List Nat) : (n : Nat) → List Nat → List Nat
  | 0, s => s
  | n + 1, s => if s.isEmpty then [] else exactly f n (f s)

/-- Everything that `f` reaches in at most `n` steps. -/
def reach (f : List Nat → List Nat) : (n : Nat) → List Nat → List Nat
  | 0, s => s
  | n + 1, s =>
    let t := unite s (f s)
    if t = s then s else reach f n t

/-- The positions where matches end that begin at one of the given positions. More repetitions than the text has
    positions reach nothing new. -/
def advance (text : Array Char) : Pattern → List Nat → List Nat
  | empty, s => s
  | char c, s => (s.filter fun i => text[i]?.any c.contains).map (· + 1)
  | look l, s => s.filter (l.holds text)
  | seq a b, s => b.advance text (a.advance text s)
  | alt a b, s => unite (a.advance text s) (b.advance text s)
  | rep p least most, s =>
    let bound := text.size + 1
    reach (p.advance text) (match most with
      | none => bound
      | some most => min (most - least) bound) (exactly (p.advance text) (min least bound) s)

/-- Whether the pattern matches anywhere in the text. -/
def isMatch (p : Pattern) (text : String) : Bool :=
  let chars := text.toList.toArray
  !(p.advance chars (List.range (chars.size + 1))).isEmpty

end Pattern

end FipsAudit
