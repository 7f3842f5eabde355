import FipsAudit.Semver.Version

/-!
# `FipsAudit.Semver.Range` — version requirements

A range is a conjunction of comparators. A comparator names a version in part: the parts that it leaves out
match anything, in the way its operator says.

* `Comparator.admits` — one comparator against one version, the pre-release included.
* `Range.contains` — all comparators, and for a pre-release version one comparator that names the same three
  numbers and a pre-release too: a pre-release is never matched by accident.
* `Range.text` — the written form.
-/

namespace FipsAudit.Semver

open FipsAudit.Text

/-- How a comparator relates a version to the one it names. -/
inductive Operator where
  /-- `=`: equal in every part named. -/
  | exact
  /-- `>` -/
  | greater
  /-- `>=` -/
  | greaterEq
  /-- `<` -/
  | less
  /-- `<=` -/
  | lessEq
  /-- `~`: at least, with the same major and minor number. -/
  | tilde
  /-- `^`: at least, with the same leftmost nonzero number. -/
  | caret
  /-- Written with `*` in place of the missing parts: equal in every part named. -/
  | wildcard
deriving DecidableEq, Repr

/-- The operator's sign. -/
def Operator.text : Operator → String
  | .exact => "="
  | .greater => ">"
  | .greaterEq => ">="
  | .less => "<"
  | .lessEq => "<="
  | .tilde => "~"
  | .caret => "^"
  | .wildcard => ""

/-- One condition on a version. -/
structure Comparator where
  /-- The relation. -/
  op : Operator
  /-- The major number. -/
  major : Nat
  /-- The minor number, if named. -/
  minor : Option Nat := none
  /-- The patch number, if named. -/
  patch : Option Nat := none
  /-- The pre-release, empty when none is named. -/
  pre : String := ""
deriving DecidableEq, Repr

namespace Comparator

/-- Equal in every part named; the pre-release counts as named. -/
def equals (c : Comparator) (v : Version) : Bool :=
  v.major == c.major && c.minor.all (· == v.minor) && c.patch.all (· == v.patch) && v.pre == c.pre

/-- Beyond the named version, in the sense of `beyond` on numbers and `beyondPre` on pre-releases: the first
    named part that differs decides, and a part not named admits nothing beyond it. -/
def isBeyond (beyond : Nat → Nat → Bool) (beyondPre : Ordering) (c : Comparator) (v : Version) : Bool :=
  if v.major ≠ c.major then beyond v.major c.major
  else match c.minor with
  | none => false
  | some minor =>
    if v.minor ≠ minor then beyond v.minor minor
    else match c.patch with
    | none => false
    | some patch =>
      if v.patch ≠ patch then beyond v.patch patch
      else comparePrerelease v.pre c.pre == beyondPre

/-- Above the named version. -/
def isAbove (c : Comparator) (v : Version) : Bool := c.isBeyond (fun a b => a > b) .gt v

/-- Below the named version. -/
def isBelow (c : Comparator) (v : Version) : Bool := c.isBeyond (fun a b => a < b) .lt v

/-- The pre-release of `v` is at least the named one. -/
def preAtLeast (c : Comparator) (v : Version) : Bool := comparePrerelease v.pre c.pre != .lt

/-- At least the named version, with the same major and minor number. -/
def admitsTilde (c : Comparator) (v : Version) : Bool :=
  v.major == c.major && c.minor.all (· == v.minor) &&
    match c.patch with
    | some patch => if v.patch ≠ patch then v.patch > patch else c.preAtLeast v
    | none => c.preAtLeast v

/-- At least the named version, with the same leftmost nonzero number. -/
def admitsCaret (c : Comparator) (v : Version) : Bool :=
  v.major == c.major &&
    match c.minor, c.patch with
    | none, _ => true
    | some minor, none => if c.major > 0 then v.minor ≥ minor else v.minor == minor
    | some minor, some patch =>
      if c.major > 0 then
        if v.minor ≠ minor then v.minor > minor
        else if v.patch ≠ patch then v.patch > patch
        else c.preAtLeast v
      else if minor > 0 then
        if v.minor ≠ minor then false
        else if v.patch ≠ patch then v.patch > patch
        else c.preAtLeast v
      else if v.minor ≠ minor ∨ v.patch ≠ patch then false
      else c.preAtLeast v

/-- Whether the version satisfies the comparator. -/
def admits (c : Comparator) (v : Version) : Bool :=
  match c.op with
  | .exact | .wildcard => c.equals v
  | .greater => c.isAbove v
  | .greaterEq => c.equals v || c.isAbove v
  | .less => c.isBelow v
  | .lessEq => c.equals v || c.isBelow v
  | .tilde => c.admitsTilde v
  | .caret => c.admitsCaret v

/-- The comparator names a pre-release of the same three numbers. -/
def namesPrereleaseOf (c : Comparator) (v : Version) : Bool :=
  c.major == v.major && c.minor == some v.minor && c.patch == some v.patch && !c.pre.isEmpty

/-- The written form: the sign, the parts named, and `.*` for a wildcard. -/
def text (c : Comparator) : String :=
  let star := if c.op = .wildcard then ".*" else ""
  c.op.text ++ String.ofList (decimal c.major) ++
    match c.minor, c.patch with
    | none, _ => star
    | some minor, none => "." ++ String.ofList (decimal minor) ++ star
    | some minor, some patch =>
      "." ++ String.ofList (decimal minor) ++ "." ++ String.ofList (decimal patch) ++ String.ofList (marked '-' c.pre)

end Comparator

/-- A conjunction of comparators. -/
structure Range where
  /-- The comparators; none at all admits every release. -/
  comparators : List Comparator
deriving DecidableEq, Repr

namespace Range

/-- Whether the version lies in the range. -/
def contains (r : Range) (v : Version) : Bool :=
  r.comparators.all (·.admits v) && (v.pre.isEmpty || r.comparators.any (·.namesPrereleaseOf v))

/-- The written form: the comparators after each other, or a star when there are none. -/
def text (r : Range) : String :=
  if r.comparators.isEmpty then "*" else String.intercalate ", " (r.comparators.map Comparator.text)

end Range

end FipsAudit.Semver
