import FipsAudit.Elf.Object
import FipsAudit.Image
import FipsAudit.Log

/-!
# `FipsAudit.Inspection` — what a file is

A file without the first bytes of an object file is a script or something unknown. An object file is classified,
and the tables of program images are read.

* `inspect` — the classification of a file by its content.
* `Elf.Object.kind`, `Elf.Object.image` — the facts about a parsed object file.
-/

namespace FipsAudit

/-- Files that are no object files. -/
inductive NonObject where
  /-- Begins with an interpreter line. -/
  | script
  /-- Anything else. -/
  | unknown
deriving DecidableEq, Repr

/-- What a file turned out to be. -/
inductive Inspection where
  /-- No object file by its first bytes. -/
  | notObject (kind : NonObject)
  /-- An object file, perhaps malformed or no program image. -/
  | object (image : Image)
deriving DecidableEq, Repr

namespace Elf.Object

/-- The flag that marks a shared object as a program. -/
def pieFlag : Nat := 0x08000000

/-- Whether some entry of further flags marks the object as a program. -/
def isPie (o : Object) : Bool :=
  o.dynamic.any fun e => e.tag == Tag.flags1 && e.value &&& pieFlag != 0

/-- The kind that the type number stands for. -/
def kind (o : Object) : ObjectKind :=
  match o.header.type with
  | 1 => .relocatable
  | 2 => .executable
  | 3 => if o.isPie then .pieExecutable else .sharedObject
  | 4 => .core
  | other => .other other

/-- Whether a segment names a loader. -/
def hasInterpreter (o : Object) : Bool := o.segments.any (·.type == Segment.interpreter)

/-- The facts about the object; tables are read from program images only. The first symbol is the null symbol
    and is left out. -/
def image (o : Object) : Image :=
  if o.kind.isImage then
    { kind := o.kind
      staticallyLinked := !o.hasInterpreter
      sections := (o.sections.map o.sectionName).toArray
      symbols := o.symbols.tail.map fun s => ⟨o.symbolName s, s.sectionIndex⟩ }
  else .bare o.kind

end Elf.Object

/-- Classifies a file by its content. -/
def inspect (data : ByteArray) : Inspection :=
  let start := (data.extract 0 4).data.toList
  if start ≠ Elf.magic then
    .notObject (if start.take 2 = [0x23, 0x21] then .script else .unknown)
  else
    match Elf.Object.parse? data with
    | none => .object (.bare .malformed)
    | some o => .object o.image

/-- What the log says about a classification: malformed object files are suspicious. -/
def Inspection.notes : Inspection → List Note
  | .object image => if image.kind = .malformed then [⟨.warn, "ignoring malformed ELF file"⟩] else []
  | .notObject _ => []

end FipsAudit
