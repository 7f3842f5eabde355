import FipsAudit.Elf.Dynamic

/-!
# `FipsAudit.BuildInfo.Pointer` — strings behind pointers

The older form of the record holds two pointers. Each leads to a string header in memory, a pointer to the bytes
and their number, and both the header and the bytes have to be found in the file through the loaded segments.

* `readMemory?` — the file's bytes for a range of memory.
* `pointedString?` — the string whose header is at an address.
-/

namespace FipsAudit.BuildInfo

open Elf

/-- The longest string that is read. -/
def maxPointedLength : Nat := 1024 * 1024

/-- The first loaded segment whose file part holds `address`. -/
def segmentAt? (segments : List Segment) (address : Nat) : Option Segment :=
  segments.find? fun s =>
    s.type == Segment.load && s.address ≤ address && address - s.address < s.fileSize

/-- The file's bytes for `length` bytes of memory from `address`: one segment's file part has to hold them all. -/
def readMemory? (segments : List Segment) (data : ByteArray) (address length : Nat) : Option (List UInt8) :=
  match segmentAt? segments address with
  | none => none
  | some s =>
    let delta := address - s.address
    if length > s.fileSize - delta then none else Bytes.slice? data (s.offset + delta) length

/-- How the pointers of a record are written. -/
structure PointerFormat where
  /-- Four or eight bytes. -/
  size : Nat
  /-- Their byte order. -/
  order : ByteOrder

/-- The string whose header is at `address`. -/
def pointedString? (f : PointerFormat) (segments : List Segment) (data : ByteArray) (address : Nat) :
    Option (List UInt8) :=
  match readMemory? segments data address (2 * f.size) with
  | none => none
  | some header =>
    let start := f.order.decode (header.take f.size)
    let length := f.order.decode (header.drop f.size)
    if length > maxPointedLength then none else readMemory? segments data start length

end FipsAudit.BuildInfo
