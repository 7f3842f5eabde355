import FipsAudit.BuildInfo.Header
import FipsAudit.BuildInfo.ModuleText
import FipsAudit.BuildInfo.Pointer
import FipsAudit.BuildInfo.Uvarint
import FipsAudit.Elf.Object
import FipsAudit.Log
import FipsAudit.Text.Number
import FipsAudit.Text.Utf8

/-!
# `FipsAudit.BuildInfo` — the build record of a Go program

The Go linker leaves a record in a data region of the program: a header, then the toolchain's name and the module
text, inline or behind pointers. Files without a record are no Go programs, which is no fault; a record that
cannot be read is one.

* `dataRegion?` — where the record is looked for.
* `Record.ofBlob` — the two strings of a record that begins at a header.
* `extract` — what was found in a file: a record, the reason why there is none, or a fault.
-/

namespace FipsAudit.BuildInfo

open Text Elf

/-- Faults of a record. -/
inductive Malformed where
  /-- The toolchain's name does not end inside the region. -/
  | truncatedVersion
  /-- The module text does not end inside the region. -/
  | truncatedModuleText
  /-- Pointers of a size other than four and eight. -/
  | pointerSize (size : Nat)
  /-- The toolchain's name is not where its pointer says. -/
  | unreadableVersion (address : Nat)
  /-- The module text is not where its pointer says. -/
  | unreadableModuleText (address : Nat)
  /-- A build line of the module text is faulty. -/
  | setting (e : SettingError)
deriving DecidableEq, Repr

/-- The wording of a fault. -/
def Malformed.message : Malformed → String
  | .truncatedVersion => "truncated version string"
  | .truncatedModuleText => "truncated module info"
  | .pointerSize size => s!"unsupported pointer size {String.ofList (decimal size)}"
  | .unreadableVersion address => s!"unreadable version string at 0x{String.ofList (hex address)}"
  | .unreadableModuleText address => s!"unreadable module info at 0x{String.ofList (hex address)}"
  | .setting e => e.message

/-- Why a readable object file has no record. -/
inductive Absence where
  /-- No region that could hold it. -/
  | noRegion
  /-- No header in the region. -/
  | noHeader
  /-- The toolchain's name is empty. -/
  | emptyVersion
deriving DecidableEq, Repr

/-- The wording of an absence. -/
def Absence.message : Absence → String
  | .noRegion => "no Go build info: no data region"
  | .noHeader => "no Go build info: header magic not found"
  | .emptyVersion => "no Go build info: empty toolchain version"

/-- What was found in a file. -/
inductive Extraction where
  /-- The file is no readable object file. -/
  | unreadable
  /-- There is no record. -/
  | absent (why : Absence)
  /-- There is a record that cannot be read. -/
  | malformed (fault : Malformed)
  /-- The record. -/
  | found (metadata : BuildMetadata)

/-! ## The region -/

/-- The section that holds the record. -/
def recordSection : String := ".go.buildinfo"

/-- How much of a region is looked at. -/
def regionLimit : Nat := 64 * 1024

/-- The bytes of a region, as far as they lie in the file and within the limit. -/
def window? (data : ByteArray) (offset size : Nat) : Option (List UInt8) :=
  let stop := min (offset + min size regionLimit) data.size
  if offset ≤ stop then Bytes.slice? data offset (stop - offset) else none

/-- Whether a segment is loaded, writable and not executable. -/
def isDataSegment (s : Segment) : Bool := s.type == Segment.load && s.flags % 4 / 2 == 1 && s.flags % 2 == 0

/-- The region that may hold the record: the section of that name, else the first data segment. -/
def dataRegion? (o : Object) (data : ByteArray) : Option (List UInt8) :=
  match o.sections.find? fun s => s.type != Section.noBits && o.sectionName s == recordSection with
  | some s => window? data s.offset s.size
  | none =>
    match o.segments.find? isDataSegment with
    | some s => window? data s.offset s.fileSize
    | none => none

/-! ## The two strings -/

/-- The toolchain's name and the module text, as bytes. -/
structure Record where
  /-- The toolchain's name. -/
  version : List UInt8
  /-- The module text between its sentinels. -/
  moduleText : List UInt8
deriving DecidableEq, Repr

/-- The flag of strings that follow the header. -/
def isInline (flags : Nat) : Bool := flags % 4 / 2 == 1

/-- The strings that follow the header. -/
def Record.ofInline (blob : List UInt8) : Except Malformed Record :=
  match Uvarint.takeString (blob.drop headerSize) with
  | none => .error .truncatedVersion
  | some (version, rest) =>
    match Uvarint.takeString rest with
    | none => .error .truncatedModuleText
    | some (moduleText, _) => .ok { version, moduleText }

/-- The strings behind the pointers of the header. -/
def Record.ofPointers (segments : List Segment) (data : ByteArray) (blob : List UInt8) : Except Malformed Record :=
  -- Byte 14 is the size of the pointers, byte 15 tells their order, and then they follow.
  let size := (blob.getD 14 0).toNat
  let order := if blob.getD 15 0 = 0 then ByteOrder.little else .big
  if size ≠ 4 ∧ size ≠ 8 then .error (.pointerSize size)
  else
    let format : PointerFormat := { size, order }
    let versionAddress := order.decode ((blob.drop 16).take size)
    let moduleAddress := order.decode ((blob.drop (16 + size)).take size)
    match pointedString? format segments data versionAddress with
    | none => .error (.unreadableVersion versionAddress)
    | some version =>
      match pointedString? format segments data moduleAddress with
      | none => .error (.unreadableModuleText moduleAddress)
      | some moduleText => .ok { version, moduleText }

/-- The two strings of a record whose header begins `blob`. -/
def Record.ofBlob (segments : List Segment) (data : ByteArray) (blob : List UInt8) : Except Malformed Record :=
  if isInline (blob.getD 15 0).toNat then Record.ofInline blob else Record.ofPointers segments data blob

/-- The length of the marks on both sides of the module text. -/
def sentinelLength : Nat := 16

/-- The module text without its marks; a text without a closing line break before the second mark is none. -/
def stripSentinels (text : List UInt8) : List UInt8 :=
  if text.length > 2 * sentinelLength ∧ text[text.length - sentinelLength - 1]? = some 10 then
    (text.drop sentinelLength).take (text.length - 2 * sentinelLength)
  else []

/-- What a record's strings say. -/
def Record.read (r : Record) : Extraction :=
  if r.version.isEmpty then .absent .emptyVersion
  else
    match parseModuleText (Utf8.decodeLossy r.version) (Utf8.decodeLossy (stripSentinels r.moduleText)) with
    | .error e => .malformed (.setting e)
    | .ok m => .found m

/-! ## The whole -/

/-- What a region says; pointers lead back into the file. -/
def extractFromRegion (segments : List Segment) (data : ByteArray) (region : List UInt8) : Extraction :=
  match findHeader region with
  | none => .absent .noHeader
  | some start =>
    match Record.ofBlob segments data (region.drop start) with
    | .error e => .malformed e
    | .ok r => r.read

/-- The build record of a file. -/
def extract (data : ByteArray) : Extraction :=
  match Object.parse? data with
  | none => .unreadable
  | some o =>
    match dataRegion? o data with
    | none => .absent .noRegion
    | some region => extractFromRegion o.segments data region

/-- What the log says about an extraction: why there is no record. -/
def Extraction.notes : Extraction → List Note
  | .absent why => [.debug why.message]
  | _ => []

/-- The extraction as a result: a fault, or perhaps a record. -/
def Extraction.result : Extraction → Except Malformed (Option BuildMetadata)
  | .unreadable | .absent _ => .ok none
  | .malformed e => .error e
  | .found m => .ok (some m)

end FipsAudit.BuildInfo
