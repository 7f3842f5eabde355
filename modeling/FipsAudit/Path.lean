import FipsAudit.Text.Pieces
import FipsAudit.Text.Utf8

/-!
# `FipsAudit.Path` — path names

A path is a byte string, because file names need not be text. It is compared by its components: repeated slashes,
inner dots and a trailing slash do not count, a leading dot does. Where part of a path is kept, it keeps its
spelling.

* `Path.components` — what counts in comparisons.
* `Path.join` — a path followed from another; an absolute path replaces it.
* `Path.relativeTo?` — what a path adds to another, by components.
* `Path.resolveUnder`, `Path.innerTo` — a path taken inside a root, and the other way round.
-/

namespace FipsAudit

open Text

/-- A path name. -/
structure Path where
  /-- The bytes of the name. -/
  bytes : List UInt8
deriving DecidableEq, Repr

/-- The name of a directory entry. -/
abbrev Name := List UInt8

/-- One step of a path. -/
inductive Component where
  /-- The leading slash. -/
  | root
  /-- A leading dot. -/
  | current
  /-- Two dots. -/
  | parent
  /-- A name. -/
  | normal (name : Name)
deriving DecidableEq, Repr

namespace Path

/-- The byte between components. -/
def slash : UInt8 := 0x2f

/-- The byte of the name that means the same directory. -/
def dot : UInt8 := 0x2e

/-- The path with the given text. -/
def ofString (s : String) : Path := ⟨Utf8.encode s⟩

/-- The text of a path; malformed parts are shown as replacement characters. -/
def text (p : Path) : String := Utf8.decodeLossy p.bytes

/-- Whether the path starts at the root directory. -/
def isAbsolute (p : Path) : Bool := p.bytes.head? == some slash

/-! ## Components -/

/-- A part between slashes that does not count: empty, or one dot. -/
def isIdle (part : List UInt8) : Bool := part == [] || part == [dot]

/-- What a part between slashes that counts stands for. -/
def Component.ofPart (part : List UInt8) : Component :=
  if part = [dot, dot] then .parent else .normal part

/-- A path taken apart: the component before the body, its spelling, and the parts of the body. -/
structure Split where
  /-- The leading slash or dot, if any. -/
  lead : Option Component
  /-- Its spelling. -/
  leadBytes : List UInt8
  /-- The parts of the rest, idle ones included. -/
  parts : List (List UInt8)

/-- Takes a path apart. A leading dot counts when it is a whole part. -/
def split (p : Path) : Split :=
  match p.bytes with
  | [] => ⟨none, [], []⟩
  | b :: r =>
    -- The slash after a leading dot leaves an idle part at the front of the body.
    if b = slash then ⟨some .root, [slash], pieces slash r⟩
    else if b = dot ∧ (r = [] ∨ r.head? = some slash) then ⟨some .current, [dot], pieces slash r⟩
    else ⟨none, [], pieces slash (b :: r)⟩

/-- The components of a path. -/
def components (p : Path) : List Component :=
  let s := p.split
  s.lead.toList ++ (s.parts.filter (!isIdle ·)).map Component.ofPart

/-- Whether two paths have the same components. -/
def same (p q : Path) : Bool := p.components == q.components

/-! ## Joining and taking apart -/

/-- `q` followed from `p`. -/
def join (p q : Path) : Path :=
  if q.isAbsolute then q
  else if p.bytes.getLast?.all (· == slash) then ⟨p.bytes ++ q.bytes⟩
  else ⟨p.bytes ++ slash :: q.bytes⟩

/-- The parts after the first `n` that count. -/
def dropParts : (n : Nat) → List (List UInt8) → List (List UInt8)
  | 0, parts => parts
  | _, [] => []
  | n + 1, part :: parts => if isIdle part then dropParts (n + 1) parts else dropParts n parts

/-- The parts without idle ones at the end. -/
def trimParts (parts : List (List UInt8)) : List (List UInt8) := (parts.reverse.dropWhile isIdle).reverse

/-- The path after its first `n` components, without idle parts at its ends. -/
def dropComponents (n : Nat) (p : Path) : Path :=
  let s := p.split
  if n = 0 then ⟨s.leadBytes ++ unpieces slash (trimParts s.parts)⟩
  else
    let parts := dropParts (n - s.lead.toList.length) s.parts
    ⟨unpieces slash (trimParts (parts.dropWhile isIdle))⟩

/-- What `p` adds to `base`; `none` when the components of `base` do not lead those of `p`. -/
def relativeTo? (p base : Path) : Option Path :=
  if base.components.isPrefixOf p.components then some (p.dropComponents base.components.length) else none

/-- The root directory. -/
def rootDirectory : Path := ⟨[slash]⟩

/-- `p` taken inside `root`: a leading slash of `p` means `root`. -/
def resolveUnder (root p : Path) : Path := root.join ((p.relativeTo? rootDirectory).getD p)

/-- `p` as it is called inside `root`, with a leading slash; paths outside stay as they are. -/
def innerTo (root p : Path) : Path :=
  match p.relativeTo? root with
  | some r => rootDirectory.join r
  | none => p

end Path

end FipsAudit
