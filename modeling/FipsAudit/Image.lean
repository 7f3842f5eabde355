import FipsAudit.Text.Number

/-!
# `FipsAudit.Image` — what the policy knows of an object file

A loadable program image is reduced to its kind, whether it names a loader, the names of its sections and its
symbols. A symbol counts only with the section that owns it.

* `ObjectKind` — the kinds of object files; two of them are program images.
* `Image.owner?` — the section that owns a symbol: none for undefined symbols, reserved indices and indices
  past the table.
* `Image.ownedSymbols` — the symbols that have an owner, with its name.
-/

namespace FipsAudit

open Text

/-- The structural kind of an object file. -/
inductive ObjectKind where
  /-- An executable at a fixed address. -/
  | executable
  /-- A shared object marked as a program. -/
  | pieExecutable
  /-- A shared object without the mark. -/
  | sharedObject
  /-- A relocatable object. -/
  | relocatable
  /-- A core dump. -/
  | core
  /-- Any other type number. -/
  | other (type : Nat)
  /-- An object file by its first bytes that cannot be read further. -/
  | malformed
deriving DecidableEq, Repr

/-- Whether objects of this kind are program images. -/
def ObjectKind.isImage : ObjectKind → Bool
  | .executable | .pieExecutable => true
  | _ => false

/-- The name of a kind in messages. -/
def ObjectKind.text : ObjectKind → String
  | .executable => "executable"
  | .pieExecutable => "position-independent executable"
  | .sharedObject => "shared object"
  | .relocatable => "relocatable object"
  | .core => "core dump"
  | .other type => s!"ELF object of type 0x{String.ofList (hex type)}"
  | .malformed => "malformed ELF file"

/-- A symbol: its name and the index of its section. -/
structure Symbol where
  /-- The symbol's name. -/
  name : String
  /-- The index of the section that defines the symbol, or a special value. -/
  sectionIndex : Nat
deriving DecidableEq, Repr

/-- The section index of a symbol that is defined elsewhere. -/
def undefinedSection : Nat := 0

/-- The least section index with a meaning of its own; from here on indices name no section. -/
def reservedSection : Nat := 0xff00

/-- The facts read from one object file. -/
structure Image where
  /-- The kind of object. -/
  kind : ObjectKind
  /-- No loader is named; says something about program images only. -/
  staticallyLinked : Bool := false
  /-- Section names in the order of the section headers; the first is the null section. -/
  sections : Array String := #[]
  /-- The symbols in the order of the symbol table. -/
  symbols : List Symbol := []
deriving DecidableEq, Repr

namespace Image

/-- An object that is no program image: its tables are not looked at. -/
def bare (kind : ObjectKind) : Image := { kind }

/-- Whether the object is a program image. -/
def recognized (image : Image) : Bool := image.kind.isImage

/-- The section that owns `symbol`. -/
def owner? (image : Image) (symbol : Symbol) : Option String :=
  if symbol.sectionIndex = undefinedSection ∨ symbol.sectionIndex ≥ reservedSection then none
  else image.sections[symbol.sectionIndex]?

/-- The symbols that have an owner, in order, with the owner's name. -/
def ownedSymbols (image : Image) : List (Symbol × String) :=
  image.symbols.filterMap fun s => (image.owner? s).map (s, ·)

end Image

end FipsAudit
