import FipsAudit.Semver.Range
import FipsAudit.Text.Quoted

/-!
# `FipsAudit.Semver.Parser` — reading versions and ranges

Readers that consume the front of a character list and return what is left. A range is comparators between
commas, at most thirty-two; a lone star is the range of all releases. Blanks are the space character alone.

* `Version.parse` — a full version, or the first fault.
* `Range.parse` — a range, or the first fault with the part in which it lies.
* `ParseError.message` — the wording of the faults.
-/

namespace FipsAudit.Semver

open FipsAudit.Text

/-- The part of a version that is being read. -/
inductive Part where
  | major
  | minor
  | patch
  | pre
  | build
deriving DecidableEq, Repr

/-- The part's name in messages. -/
def Part.text : Part → String
  | .major => "major version number"
  | .minor => "minor version number"
  | .patch => "patch version number"
  | .pre => "pre-release identifier"
  | .build => "build metadata"

/-- Why a text is no version or range. -/
inductive ParseError where
  | unexpectedEnd (part : Part)
  | unexpectedChar (part : Part) (c : Char)
  /-- A character that cannot follow the part. -/
  | unexpectedCharAfter (part : Part) (c : Char)
  | expectedComma (after : Part) (found : Char)
  | leadingZero (part : Part)
  /-- A number beyond the component limit. -/
  | overflow (part : Part)
  | emptySegment (part : Part)
  /-- A star beside other comparators. -/
  | starNotAlone (star : Char)
  | afterStar
  | tooMany
deriving DecidableEq, Repr

/-- The wording of a fault. -/
def ParseError.message : ParseError → String
  | .unexpectedEnd p => s!"unexpected end of input while parsing {p.text}"
  | .unexpectedChar p c => s!"unexpected character {quotedChar c} while parsing {p.text}"
  | .unexpectedCharAfter p c => s!"unexpected character {quotedChar c} after {p.text}"
  | .expectedComma p c => s!"expected comma after {p.text}, found {quotedChar c}"
  | .leadingZero p => s!"invalid leading zero in {p.text}"
  | .overflow p => s!"value of {p.text} exceeds u64::MAX"
  | .emptySegment p => s!"empty identifier segment in {p.text}"
  | .starNotAlone c =>
    s!"wildcard req ({String.ofList [c]}) must be the only comparator in the version req"
  | .afterStar => "unexpected character after wildcard in version req"
  | .tooMany => "excessive number of version comparators"

/-! ## Numbers and identifiers -/

/-- A number at the front of `s`. -/
def number (part : Part) (s : List Char) : Except ParseError (Nat × List Char) :=
  let digits := s.takeWhile Char.isDigit
  let rest := s.dropWhile Char.isDigit
  if digits.isEmpty then
    match s with
    | [] => .error (.unexpectedEnd part)
    | c :: _ => .error (.unexpectedChar part c)
  else if hasLeadingZero digits then .error (.leadingZero part)
  else if natOfDigits digits < componentLimit then .ok (natOfDigits digits, rest)
  else .error (.overflow part)

/-- The first fault among identifiers; only a pre-release forbids leading zeros. -/
def identifierFault (part : Part) : List (List Char) → Option ParseError
  | [] => none
  | s :: ss =>
    if s.isEmpty then some (.emptySegment part)
    else if part = .pre ∧ hasLeadingZero s then some (.leadingZero part)
    else identifierFault part ss

/-- Identifiers joined by dots at the front of `s`, possibly none. -/
def identifiers (part : Part) (s : List Char) : Except ParseError (List Char × List Char) :=
  let run := s.takeWhile (fun c => isIdentifierChar c || c == '.')
  let rest := s.dropWhile (fun c => isIdentifierChar c || c == '.')
  if run.isEmpty then .ok ([], rest)
  else
    match identifierFault part (pieces '.' run) with
    | some e => .error e
    | none => .ok (run, rest)

/-- Identifiers after the mark of their part; without the mark there are none. -/
def markedIdentifiers (part : Part) (mark : Char) (s : List Char) : Except ParseError (List Char × List Char) :=
  match s with
  | c :: r =>
    if c = mark then do
      let (run, rest) ← identifiers part r
      if run.isEmpty then .error (.emptySegment part) else .ok (run, rest)
    else .ok ([], s)
  | [] => .ok ([], [])

/-- The dot after a part. -/
def dot (part : Part) (s : List Char) : Except ParseError (List Char) :=
  match s with
  | '.' :: r => .ok r
  | c :: _ => .error (.unexpectedCharAfter part c)
  | [] => .error (.unexpectedEnd part)

/-- The three numbers, the pre-release and the metadata of a version that fills the whole text. -/
def Version.parse (s : String) : Except ParseError Version := do
  let (major, s) ← number .major s.toList
  let s ← dot .major s
  let (minor, s) ← number .minor s
  let s ← dot .minor s
  let (patch, s) ← number .patch s
  let (pre, s) ← markedIdentifiers .pre '-' s
  let (build, s) ← markedIdentifiers .build '+' s
  match s with
  | [] => .ok { major, minor, patch, pre := String.ofList pre, build := String.ofList build }
  | c :: _ =>
    .error (.unexpectedCharAfter (if !build.isEmpty then .build else if !pre.isEmpty then .pre else .patch) c)

/-! ## Ranges -/

/-- The text without leading spaces. -/
def skipSpaces (s : List Char) : List Char := s.dropWhile (· == ' ')

/-- A star, in any of its three spellings, and what follows it. -/
def star? : List Char → Option (Char × List Char)
  | c :: r => if c = '*' ∨ c = 'x' ∨ c = 'X' then some (c, r) else none
  | [] => none

/-- An operator at the front of `s`; `none` when there is no sign. -/
def operator? : List Char → Option (Operator × List Char)
  | '=' :: r => some (.exact, r)
  | '>' :: '=' :: r => some (.greaterEq, r)
  | '>' :: r => some (.greater, r)
  | '<' :: '=' :: r => some (.lessEq, r)
  | '<' :: r => some (.less, r)
  | '~' :: r => some (.tilde, r)
  | '^' :: r => some (.caret, r)
  | _ => none

/-- A number or star after a dot: `none` when there is no dot, `some none` for a star. -/
def dotted (part : Part) (s : List Char) : Except ParseError (Option (Option Nat) × List Char) :=
  match s with
  | '.' :: r =>
    match star? r with
    | some (_, rest) => .ok (some none, rest)
    | none => do
      let (n, rest) ← number part r
      .ok (some (some n), rest)
  | _ => .ok (none, s)

/-- A comparator, the part at which it ended, and what follows its blanks. -/
def comparator (s : List Char) : Except ParseError (Comparator × Part × List Char) := do
  let sign := operator? s
  let s := skipSpaces ((sign.map (·.2)).getD s)
  let (major, s) ← number .major s
  let (minor, s) ← dotted .minor s
  let (patch, s) ←
    match minor, s with
    | some none, '.' :: r =>
      match star? r with
      | some (_, rest) => pure (some none, rest)
      | none => throw .afterStar
    | _, _ => dotted .patch s
  let starred := minor == some none || patch == some none
  let op := match sign with
    | some (op, _) => op
    | none => if starred then .wildcard else .caret
  let minorNumber := minor.getD none
  let patchNumber := patch.getD none
  let part : Part := if patch.isSome then .patch else if minor.isSome then .minor else .major
  if patchNumber.isSome then
    let (pre, s') ← markedIdentifiers .pre '-' s
    let (build, s'') ← markedIdentifiers .build '+' s'
    let part := if !build.isEmpty then .build else if !pre.isEmpty then .pre else part
    return ({ op, major, minor := minorNumber, patch := patchNumber, pre := String.ofList pre }, part, skipSpaces s'')
  else
    return ({ op, major, minor := minorNumber, patch := patchNumber }, part, skipSpaces s)

/-- A star where a comparator should be, followed by the end of the comparator, is a fault of its own. -/
def starFault (s : List Char) (e : ParseError) : ParseError :=
  match star? s with
  | some (c, r) =>
    match skipSpaces r with
    | [] | ',' :: _ => .starNotAlone c
    | _ => e
  | none => e

/-- The most comparators that a range may have. -/
def comparatorLimit : Nat := 32

/-- Comparators between commas, at most `room` of them. -/
def comparatorList : (room : Nat) → List Char → Except ParseError (List Comparator)
  | room, s =>
    match comparator s with
    | .error e => .error (starFault s e)
    | .ok (c, part, rest) =>
      match rest with
      | [] => .ok [c]
      | ',' :: rest =>
        match room with
        | 0 | 1 => .error .tooMany
        | room + 2 => do
          let cs ← comparatorList (room + 1) (skipSpaces rest)
          .ok (c :: cs)
      | found :: _ => .error (.expectedComma part found)

/-- A range that fills the whole text. -/
def Range.parse (s : String) : Except ParseError Range :=
  let s := skipSpaces s.toList
  match star? s with
  | some (c, r) =>
    match skipSpaces r with
    | [] => .ok ⟨[]⟩
    | ',' :: _ => .error (.starNotAlone c)
    | _ => .error .afterStar
  | none => return ⟨← comparatorList comparatorLimit s⟩

end FipsAudit.Semver
