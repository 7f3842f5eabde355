/-!
# `FipsAudit.BuildInfo.Header` — finding the record in the data

The record begins with a header of thirty-two bytes, aligned to sixteen, in a region of the file that holds data.
The header begins with a fixed text that may also occur elsewhere, misaligned or too near the end.

* `findHeader` — the offset of the first aligned header with room for all of it.
-/

namespace FipsAudit.BuildInfo

/-- The first bytes of a header. -/
def headerMagic : List UInt8 :=
  [0xff, 0x20, 0x47, 0x6f, 0x20, 0x62, 0x75, 0x69, 0x6c, 0x64, 0x69, 0x6e, 0x66, 0x3a]

/-- The size of a header. -/
def headerSize : Nat := 32

/-- What header offsets are multiples of. -/
def headerAlign : Nat := 16

/-- Looks at `region`, which starts at `offset`, and at what follows in steps of the alignment. A header has room
    when the region has a byte at the header's last place. -/
def findHeaderFrom (offset : Nat) (region : List UInt8) : Option Nat :=
  match _h : region.drop (headerSize - 1) with
  | [] => none
  | _ :: _ =>
    if headerMagic.isPrefixOf region then some offset
    else findHeaderFrom (offset + headerAlign) (region.drop headerAlign)
termination_by region.length
decreasing_by
  have hl := congrArg List.length _h
  simp only [headerSize, List.length_drop, List.length_cons] at hl
  simp only [List.length_drop, headerAlign]
  omega

/-- The least multiple of the alignment at which a whole header begins. -/
def findHeader (region : List UInt8) : Option Nat := findHeaderFrom 0 region

end FipsAudit.BuildInfo
