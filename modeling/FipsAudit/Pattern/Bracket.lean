import FipsAudit.Pattern.Escape

/-!
# `FipsAudit.Pattern.Bracket` — classes between brackets

A class in brackets lists characters, ranges, escapes and further classes in brackets, whose union it is. Unions
are combined from left to right by `&&`, `--` and `~~`. Brackets may be nested; how deep they are counts towards
the nesting limit of patterns.

* `Part` — a class with its depth.
* `bracket?` — reads a class after its opening bracket.
-/

namespace FipsAudit.Pattern

open Text

/-- A class with the depth of its nesting. -/
structure Part where
  /-- The class. -/
  cls : CharClass
  /-- How deep it is nested. -/
  depth : Nat := 0

/-- The union of parts, the newest first. -/
def Part.join (parts : List Part) : Part :=
  match parts with
  | [] => ⟨.empty, 0⟩
  | [p] => p
  | p :: ps => ps.foldl (fun u q => ⟨.union u.cls q.cls, max u.depth (q.depth + 1)⟩) ⟨p.cls, p.depth + 1⟩

/-- The operations between unions. -/
inductive SetOperation where
  | intersection
  | difference
  | symmetricDifference
deriving DecidableEq, Repr

/-- The operation that two equal characters stand for. -/
def SetOperation.ofChar? : Char → Option SetOperation
  | '&' => some .intersection
  | '-' => some .difference
  | '~' => some .symmetricDifference
  | _ => none

/-- An operation on two classes. -/
def SetOperation.apply : SetOperation → CharClass → CharClass → CharClass
  | intersection => .intersection
  | difference => .difference
  | symmetricDifference => .symmetricDifference

/-- An open bracket. -/
structure OpenBracket where
  /-- Whether the complement is meant. -/
  negated : Bool
  /-- What stands before the last operation, with the operation. -/
  left : Option (Part × SetOperation) := none
  /-- The parts of the union that is being read, the newest first. -/
  parts : List Part := []

namespace OpenBracket

/-- One more part of the union. -/
def add (b : OpenBracket) (p : Part) : OpenBracket := { b with parts := p :: b.parts }

/-- The class so far. -/
def content (f : Flags) (b : OpenBracket) : Part :=
  let right := Part.join b.parts
  match b.left with
  | none => right
  | some (left, op) => ⟨op.apply (f.fold left.cls) (f.fold right.cls), max left.depth right.depth + 1⟩

/-- Begins a new union after an operation. -/
def operate (f : Flags) (b : OpenBracket) (op : SetOperation) : OpenBracket :=
  { b with left := some (b.content f, op), parts := [] }

/-- The class of a bracket that closes. -/
def close? (f : Flags) (b : OpenBracket) : Option Part :=
  let c := b.content f
  (f.close? b.negated (f.fold c.cls)).map (⟨·, c.depth + 1⟩)

end OpenBracket

/-! ## Named classes -/

/-- The ranges of a class that is named between colons. -/
def posixRanges? (name : List Char) : Option (List (Char × Char)) :=
  match String.ofList name with
  | "alnum" => some [('0', '9'), ('A', 'Z'), ('a', 'z')]
  | "alpha" => some [('A', 'Z'), ('a', 'z')]
  | "ascii" => some [('\x00', '\x7f')]
  | "blank" => some [('\t', '\t'), (' ', ' ')]
  | "cntrl" => some [('\x00', '\x1f'), ('\x7f', '\x7f')]
  | "digit" => some [('0', '9')]
  | "graph" => some [('!', '~')]
  | "lower" => some [('a', 'z')]
  | "print" => some [(' ', '~')]
  | "punct" => some [('!', '/'), (':', '@'), ('[', '\x60'), ('\x7b', '~')]
  | "space" => some [('\t', '\r'), (' ', ' ')]
  | "upper" => some [('A', 'Z')]
  | "word" => some [('0', '9'), ('A', 'Z'), ('_', '_'), ('a', 'z')]
  | "xdigit" => some [('0', '9'), ('A', 'F'), ('a', 'f')]
  | _ => none

/-- A class named between colons, after its opening bracket. -/
def posixClass? (s : List Char) : Option (CharClass × List Char) := do
  let s ← after? [':'] s
  let (negated, s) := match s with
    | '^' :: r => (true, r)
    | s => (false, s)
  let rest ← after? [':', ']'] (s.dropWhile (· != ':'))
  let ranges ← posixRanges? (s.takeWhile (· != ':'))
  let c := CharClass.ofRanges ranges
  return (if negated then .negated c else c, rest)

/-! ## Parts -/

/-- Reads one character or escape. -/
def bracketItem? (f : Flags) (s : List Char) : Option (Primitive × List Char) :=
  match s with
  | [] => none
  | c :: r => if c = '\\' then escape? f r else some (.literal c false, r)

/-- A character as a member of classes. Outside text mode it has to be a byte of ASCII. -/
def memberChar? (f : Flags) (c : Char) : Option Char := if f.textual || c.toNat < 0x80 then some c else none

/-- Reads a character, a range or an escape. -/
def bracketPart? (f : Flags) (s : List Char) : Option (Part × List Char) := do
  let (first, rest) ← bracketItem? f s
  let rest := gap f rest
  let next := rest.head?
  let beyond := (gap f rest.tail).head?
  if next.isNone then none
  else if next != some '-' || beyond == some ']' || beyond == some '-' then
    match first with
    | .literal c _ => return (⟨.single (← memberChar? f c), 0⟩, rest)
    | .cls c => return (⟨c, 0⟩, rest)
    | _ => none
  else
    let (last, rest) ← bracketItem? f (gap f rest.tail)
    match first, last with
    | .literal a _, .literal b _ =>
      let a ← memberChar? f a
      let b ← memberChar? f b
      if a.toNat ≤ b.toNat then return (⟨.range a.toNat b.toNat, 0⟩, rest) else none
    | _, _ => none

/-! ## Brackets -/

/-- Hyphens at the beginning of a class, and what follows them; after the last one something has to follow. -/
def leadingHyphens (f : Flags) : (fuel : Nat) → List Part → List Char → List Part × List Char
  | 0, parts, s => (parts, s)
  | fuel + 1, parts, s =>
    match s with
    | '-' :: r => leadingHyphens f fuel (⟨.single '-', 0⟩ :: parts) (gap f r)
    | s => (parts, s)

/-- Reads the beginning of a class after its bracket: the mark of complements, then hyphens or a closing bracket
    that are meant as characters. -/
def openBracket (f : Flags) (s : List Char) : OpenBracket × List Char :=
  let s := gap f s
  let (negated, s) := match s with
    | '^' :: r => (true, gap f r)
    | s => (false, s)
  let (parts, s) := leadingHyphens f s.length [] s
  match parts, s with
  | [], ']' :: r => ({ negated, parts := [⟨.single ']', 0⟩] }, gap f r)
  | parts, s => ({ negated, parts }, s)

/-- Reads on in the innermost open bracket `b`, inside those of `outer`. -/
def inBrackets (f : Flags) : (fuel : Nat) → (outer : List OpenBracket) → (b : OpenBracket) → List Char →
    Option (Part × List Char)
  | 0, _, _, _ => none
  | fuel + 1, outer, b, s =>
    match gap f s with
    | [] => none
    | '[' :: r =>
      match posixClass? r with
      | some (c, rest) => inBrackets f fuel outer (b.add ⟨c, 0⟩) rest
      | none =>
        let (inner, rest) := openBracket f r
        inBrackets f fuel (b :: outer) inner rest
    | ']' :: r =>
      match b.close? f, outer with
      | none, _ => none
      | some p, [] => some (p, r)
      | some p, parent :: outer => inBrackets f fuel outer (parent.add p) r
    | c :: r =>
      match SetOperation.ofChar? c, r with
      | some op, d :: t =>
        if c = d then inBrackets f fuel outer (b.operate f op) t
        else (bracketPart? f (c :: r)).bind fun (p, rest) => inBrackets f fuel outer (b.add p) rest
      | _, _ => (bracketPart? f (c :: r)).bind fun (p, rest) => inBrackets f fuel outer (b.add p) rest

/-- Reads a class after its opening bracket. -/
def bracket? (f : Flags) (s : List Char) : Option (Part × List Char) :=
  let (b, rest) := openBracket f s
  inBrackets f (s.length + 1) [] b rest

end FipsAudit.Pattern
