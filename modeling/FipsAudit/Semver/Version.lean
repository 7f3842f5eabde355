import FipsAudit.Text.Number
import FipsAudit.Text.Pieces

/-!
# `FipsAudit.Semver.Version` — semantic versions

A version is three numbers, an optional pre-release and optional build metadata. Pre-release and metadata are
dot-separated identifiers over letters, digits and the hyphen; a numeric pre-release identifier has no leading
zero.

* `Version` — the components; an absent pre-release or metadata is the empty text.
* `validPrerelease` — which texts are pre-releases.
* `comparePrerelease` — precedence: none is highest, then identifier by identifier.
* `Version.text` — the written form.
-/

namespace FipsAudit.Semver

open FipsAudit.Text

/-- The least number that a version component cannot hold. -/
def componentLimit : Nat := 0x10000000000000000

/-- A semantic version. -/
structure Version where
  /-- The first number. -/
  major : Nat
  /-- The second number. -/
  minor : Nat
  /-- The third number. -/
  patch : Nat
  /-- The pre-release, empty for a release. -/
  pre : String := ""
  /-- The build metadata, empty when absent. -/
  build : String := ""
deriving DecidableEq, Repr

/-! ## Identifiers -/

/-- The characters of identifiers. -/
def isIdentifierChar (c : Char) : Bool :=
  c.isAlphanum || c == '-'

/-- A run of digits only. -/
def isNumeric (s : List Char) : Bool := s.all Char.isDigit

/-- More than one digit, the first a zero. -/
def hasLeadingZero (s : List Char) : Bool :=
  isNumeric s && s.length > 1 && s.head? == some '0'

/-- One identifier of a pre-release. -/
def validIdentifier (s : List Char) : Bool :=
  !s.isEmpty && s.all isIdentifierChar && !hasLeadingZero s

/-- Whether `s` is empty or a list of identifiers joined by dots. -/
def validPrerelease (s : List Char) : Bool :=
  s.isEmpty || (pieces '.' s).all validIdentifier

/-! ## Precedence -/

/-- The order of two texts by their characters. -/
def compareChars : List Char → List Char → Ordering
  | [], [] => .eq
  | [], _ :: _ => .lt
  | _ :: _, [] => .gt
  | a :: as, b :: bs => (compare a.toNat b.toNat).then (compareChars as bs)

/-- Identifiers: numeric ones come first, by value; the others by their characters. -/
def compareIdentifier (a b : List Char) : Ordering :=
  match isNumeric a, isNumeric b with
  | false, true => .gt
  | true, false => .lt
  | false, false => compareChars a b
  | true, true => (compare a.length b.length).then (compareChars a b)

/-- Identifier lists: the first difference decides, then the longer list is higher. -/
def compareIdentifiers : List (List Char) → List (List Char) → Ordering
  | [], [] => .eq
  | [], _ :: _ => .lt
  | _ :: _, [] => .gt
  | a :: as, b :: bs => (compareIdentifier a b).then (compareIdentifiers as bs)

/-- Pre-releases: none is higher than any. -/
def comparePrerelease (a b : String) : Ordering :=
  match a.isEmpty, b.isEmpty with
  | true, true => .eq
  | true, false => .gt
  | false, true => .lt
  | false, false => compareIdentifiers (pieces '.' a.toList) (pieces '.' b.toList)

/-! ## Text -/

/-- `s` after the character `mark`, or nothing when `s` is empty. -/
def marked (mark : Char) (s : String) : List Char :=
  if s.isEmpty then [] else mark :: s.toList

/-- The written form as characters. -/
def Version.chars (v : Version) : List Char :=
  decimal v.major ++ '.' :: decimal v.minor ++ '.' :: decimal v.patch ++ marked '-' v.pre ++ marked '+' v.build

/-- The written form: three numbers, then `-pre` and `+build` where present. -/
def Version.text (v : Version) : String := String.ofList v.chars

end FipsAudit.Semver
