import FipsAudit.Elf.Header
import FipsAudit.Elf.StringTable

/-!
# `FipsAudit.Elf.Dynamic` — what the loader is told

The first dynamic segment is a list of tagged values. Some place tables by their memory addresses, which the
loaded segments map to the file.

* `readDynamic?` — the entries.
* `fileOffset?` — the place in the file of a memory address.
* `dynamicTablesFit` — the tables that the entries place lie in the file. The number of dynamic symbols is
  recorded nowhere; it follows from a hash table and from the relocations.
-/

namespace FipsAudit.Elf

/-! ## Dynamic entries -/

/-- The tag of the entry that closes the list. -/
def DynamicEntry.closing : Nat := 0

/-- The entries up to the closing one, which is kept. -/
def upToClosing : List DynamicEntry → List DynamicEntry
  | [] => []
  | e :: es => if e.tag = DynamicEntry.closing then [e] else e :: upToClosing es

/-- The dynamic entries of the first dynamic segment; `none` inside when there is no such segment. -/
def readDynamic? (data : ByteArray) (l : Layout) (segments : List Segment) :
    Option (Option (List DynamicEntry)) :=
  match segments.find? (·.type == Segment.dynamic) with
  | none => some none
  | some s =>
    if s.fileSize = 0 then some (some [])
    else if !Bytes.holds data s.offset s.fileSize then none
    else do
      let count := s.fileSize / Bytes.recordLength (DynamicEntry.widths l.word)
      let entries ← readAll? l (DynamicEntry.widths l.word) DynamicEntry.ofFields? data s.offset count
      return some (upToClosing entries)

/-- The file offset of a memory address, through the first loaded segment whose memory holds it. -/
def fileOffset? (segments : List Segment) (address : Nat) : Option Nat :=
  match segments.find? fun s =>
    s.type == Segment.load && s.address ≤ address && address - s.address < s.memorySize with
  | none => none
  | some s =>
    let offset := s.offset + (address - s.address)
    if offset < wordLimit then some offset else none

/-- The value of the last entry with a tag. -/
def lastValue? (entries : List DynamicEntry) (tag : Nat) : Option Nat :=
  (entries.reverse.find? (·.tag == tag)).map (·.value)

/-! ## Dynamic tables -/

/-- Relocations: where they are, how many bytes, and whether each has an addend. -/
structure Relocations where
  /-- Where the table starts. -/
  offset : Nat
  /-- How many bytes it has. -/
  size : Nat
  /-- Whether each entry has an addend. -/
  withAddend : Bool

/-- The widths of a relocation's numbers. -/
def Relocations.widths (w : WordSize) (withAddend : Bool) : List Nat :=
  if withAddend then [w.bytes, w.bytes, w.bytes] else [w.bytes, w.bytes]

/-- The symbol that the second number of a relocation names. -/
def relocationSymbol (w : WordSize) (info : Nat) : Nat :=
  match w with
  | .four => info >>> 8
  | .eight => info >>> 32

/-- The greatest symbol index in a relocation table, zero for an empty one; `none` when the table does not lie
    in the file. -/
def Relocations.maxSymbol? (data : ByteArray) (l : Layout) (r : Relocations) : Option Nat :=
  if r.size = 0 then some 0
  else do
    guard (Bytes.holds data r.offset r.size)
    let widths := Relocations.widths l.word r.withAddend
    let records ← Bytes.records? l.order widths data r.offset (r.size / Bytes.recordLength widths)
    return records.foldl (fun m f => max m (relocationSymbol l.word (f.getD 1 0))) 0

/-- The length of a hash chain from byte `offset`: the number of words up to the first odd one, that one
    included; `none` when the file ends before. -/
def chainLength? (o : ByteOrder) (data : ByteArray) (offset : Nat) : Option Nat :=
  if _ : offset < data.size then
    match Bytes.number? o 4 data offset with
    | none => none
    | some word =>
      if word % 2 = 1 then some 1 else (chainLength? o data (offset + 4)).map (· + 1)
  else none
termination_by data.size - offset

/-- The number of symbols that a bloom-filtered hash table covers. -/
def bloomHashCount? (data : ByteArray) (l : Layout) (offset : Nat) : Option Nat := do
  let word := Bytes.number? l.order 4 data
  let bucketCount ← word offset
  let bias ← word (offset + 4)
  let bloomSize ← word (offset + 8)
  guard (bucketCount ≠ 0 ∧ bias ≠ 0 ∧ bloomSize ≠ 0)
  let bucketOffset := offset + 16 + bloomSize * l.word.bytes
  let buckets ← Bytes.records? l.order [4] data bucketOffset bucketCount
  let last := buckets.foldl (fun m f => max m (f.getD 0 0)) 0
  -- Without a bucket at the bias or above, the table covers no symbol.
  if last < bias then return 0
  let chain ← chainLength? l.order data (bucketOffset + bucketCount * 4 + (last - bias) * 4)
  return last + chain

/-- Machines whose hash tables have eight-byte words in files with eight-byte addresses. -/
def wideHashMachines : List Nat := [0x9026, 22]

/-- The number of symbols that a plain hash table covers: its second word. -/
def hashCount? (data : ByteArray) (l : Layout) (machine offset : Nat) : Option Nat :=
  let width := if l.word = .eight ∧ machine ∈ wideHashMachines then 8 else 4
  Bytes.number? l.order width data (offset + 4)

namespace Tag

/-- Size of the relocations of the procedure linkage table. -/
def pltRelocationSize : Nat := 2

/-- Hash table. -/
def hash : Nat := 4

/-- String table. -/
def stringTable : Nat := 5

/-- Symbol table. -/
def symbolTable : Nat := 6

/-- Relocations with addend. -/
def relocationsWithAddend : Nat := 7

/-- Size of the relocations with addend. -/
def relocationsWithAddendSize : Nat := 8

/-- Size of the string table. -/
def stringTableSize : Nat := 10

/-- Relocations without addend. -/
def relocations : Nat := 17

/-- Size of the relocations without addend. -/
def relocationsSize : Nat := 18

/-- Kind of the relocations of the procedure linkage table. -/
def pltRelocationKind : Nat := 20

/-- Relocations of the procedure linkage table. -/
def pltRelocations : Nat := 23

/-- Hash table with a bloom filter. -/
def bloomHash : Nat := 0x6ffffef5

/-- Further flags. -/
def flags1 : Nat := 0x6ffffffb

end Tag

/-- Whether all tables that the dynamic entries place lie in the file: the string table with well-formed names,
    the relocations, and the symbols, whose number is known only from a hash table or from the relocations. -/
def dynamicTablesFit (data : ByteArray) (l : Layout) (machine : Nat) (segments : List Segment)
    (entries : List DynamicEntry) : Bool :=
  let value := fun tag => (lastValue? entries tag).getD 0
  let place? := fun tag => (lastValue? entries tag).bind (fileOffset? segments)
  let place := fun tag => (place? tag).getD 0
  let relocations : List Relocations :=
    [⟨place Tag.relocationsWithAddend, value Tag.relocationsWithAddendSize, true⟩,
     ⟨place Tag.relocations, value Tag.relocationsSize, false⟩,
     ⟨place Tag.pltRelocations, value Tag.pltRelocationSize,
      value Tag.pltRelocationKind == Tag.relocationsWithAddend⟩]
  let fits : Option Unit := do
    let _ ← StringTable.ofBytes? (← Bytes.part? data (place Tag.stringTable) (value Tag.stringTableSize))
    let maxima ← relocations.mapM (Relocations.maxSymbol? data l)
    -- Where both kinds of hash table are placed, the one with a bloom filter counts.
    let hashed ←
      match place? Tag.bloomHash, place? Tag.hash with
      | some offset, _ => bloomHashCount? data l offset
      | none, some offset => hashCount? data l machine offset
      | none, none => some 0
    let greatest := maxima.foldl max 0
    -- Index zero is the null symbol, which relocations without a symbol name.
    let count := if greatest = 0 then hashed else max hashed (greatest + 1)
    guard (Bytes.holds data (place Tag.symbolTable) (count * SymbolEntry.size l.word))
  fits.isSome

end FipsAudit.Elf
