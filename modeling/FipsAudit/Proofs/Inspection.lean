import FipsAudit.Proofs.Elf.Object

/-!
# `FipsAudit.Proofs.Inspection` — a program's file is classified as that program

The records that are read from a program's file hold places of names, and the names stand at their places. So the
classification gives back what the program was laid out from.

* `Program.kind_object`, `hasInterpreter_object` — the kind and the loader.
* `Program.map_sectionName`, `map_symbolName` — the names by their places.
* `inspect_program` — the classification of a program's file.
-/

namespace FipsAudit

namespace Elf.Program

variable (p : Program)

/-! ## Kind -/

theorem kind_object : p.object.kind = p.kind.objectKind := by
  have htype : p.object.header.type = p.kind.type := rfl
  have hdynamic : p.object.dynamic = p.dynamicEntries := rfl
  unfold Object.kind
  cases hkind : p.kind with
  | fixed flags => simp only [htype, hkind, ProgramKind.type, ProgramKind.objectKind]
  | pie flags marked =>
      have hpie : p.object.isPie = true := by
        simp [Object.isPie, hdynamic, Plan.dynamicEntries, hkind, ProgramKind.flags?, marked]
      simp only [htype, hkind, ProgramKind.type, ProgramKind.objectKind, hpie, if_true]

theorem hasInterpreter_object : p.object.hasInterpreter = p.interpreter.isSome := by
  simp only [Object.hasInterpreter, object, Plan.segments]
  cases p.interpreter <;> cases p.kind.flags? <;> rfl

/-! ## Names -/

/-- The names that are in every program come first. -/
theorem places_sectionNames :
    StringTable.places p.sectionNames = 1 :: 9 :: 17 :: (StringTable.places p.sectionNames).drop 3 := rfl

/-- The names of sections are read back by the places in the section records. -/
theorem map_sectionName :
    p.object.sections.map p.object.sectionName =
      "" :: (p.sections.map (·.name) ++ [".symtab", ".strtab", ".shstrtab"]) := by
  have hnamed : ∀ name ∈ p.sectionNames, '\x00' ∉ name.toList := by
    intro name hname
    simp only [Plan.sectionNames, List.mem_cons, List.mem_map] at hname
    rcases hname with rfl | rfl | rfl | ⟨s, hs, rfl⟩
    · decide
    · decide
    · decide
    · exact p.sections_named s hs
  have hget := StringTable.map_get_places p.sectionNames hnamed
  rw [places_sectionNames] at hget
  obtain ⟨hsymbols, hrest⟩ := List.cons.inj hget
  obtain ⟨hsymbolNames, hrest⟩ := List.cons.inj hrest
  obtain ⟨hsectionNames, hplaces⟩ := List.cons.inj hrest
  -- The section records were made from the places in order, so looking the places up gives the names in order.
  have hown : p.ownSections.map p.object.sectionName = p.sections.map (·.name) := by
    have hlength : ((StringTable.places p.sectionNames).drop 3).length ≤ (p.sections.zip
        (Bytes.starts p.word.bytes p.contentsOffset (p.storedContents.map List.length))).length := by
      simp [Plan.sectionNames, Plan.storedContents]
    rw [← hplaces, ← List.map_fst_zip hlength, List.map_map, Plan.ownSections, List.map_map]
    rfl
  have hnull : p.object.sectionName ⟨0, 0, 0, 0, 0, 0, 0⟩ = "" := StringTable.get_zero p.sectionNames
  have htables : [p.symbolSection, Plan.nameSection 9 p.symbolNameOffset p.symbolNames,
      Plan.nameSection 17 p.sectionNameOffset p.sectionNames].map p.object.sectionName =
        [".symtab", ".strtab", ".shstrtab"] := by
    show [(StringTable.ofNames p.sectionNames).get 1, (StringTable.ofNames p.sectionNames).get 9,
      (StringTable.ofNames p.sectionNames).get 17] = _
    rw [hsymbols, hsymbolNames, hsectionNames]
  have hsections : p.object.sections = p.sectionRecords := rfl
  rw [hsections, Plan.sectionRecords, List.map_cons, List.map_append, hnull, hown, htables]

/-- So are the names of symbols. The null symbol stands before the others. -/
theorem map_symbolName :
    (p.object.symbols.tail.map fun s => (⟨p.object.symbolName s, s.sectionIndex⟩ : Symbol)) = p.symbols := by
  have hnamed : ∀ name ∈ p.symbolNames, '\x00' ∉ name.toList := by
    intro name hname
    obtain ⟨s, hs, rfl⟩ := List.mem_map.mp hname
    exact p.symbols_named s hs
  have hget : (StringTable.places p.symbolNames).map (StringTable.ofNames p.symbolNames).get =
      p.symbols.map (·.name) := StringTable.map_get_places p.symbolNames hnamed
  -- The entries pair places with symbols, and the places give the names of the same symbols.
  have hsymbols : p.object.symbols.tail.map (fun s => (⟨p.object.symbolName s, s.sectionIndex⟩ : Symbol)) =
      ((p.symbols.map (·.name)).zip p.symbols).map fun (name, s) => ⟨name, s.sectionIndex⟩ := by
    rw [← hget, List.zip_map_left, List.map_map]
    simp only [object, Plan.symbolEntries, List.tail_cons, List.map_map]
    rfl
  rw [hsymbols, List.zip_map_left, List.map_map, List.map_zip_eq_zipWith, List.zipWith_self]
  exact List.map_id _

end Elf.Program

open Elf

/-- **A program's file is classified as the program that it was laid out from**, in all four layouts and whatever
    follows it: by its kind, by whether it names a loader, by the names of its sections behind the empty one, and by
    its symbols. -/
theorem inspect_program (p : Program) (rest : List UInt8) :
    inspect (Bytes.ofList (p.bytes ++ rest)) =
      .object
        { kind := p.kind.objectKind
          staticallyLinked := p.interpreter.isNone
          sections := ("" :: (p.sections.map (·.name) ++ [".symtab", ".strtab", ".shstrtab"])).toArray
          symbols := p.symbols } := by
  have hparse := Program.parse?_of_stored (p.stored_bytes rest)
  have hmagic : ((Bytes.ofList (p.bytes ++ rest)).extract 0 4).data.toList = magic := by
    rw [ByteArray.data_extract, Array.toList_extract]
    rfl
  have hrecognized : p.kind.objectKind.isImage = true := p.kind.isImage_objectKind
  simp only [inspect, hmagic, ne_eq, not_true_eq_false, if_false, hparse, Object.image, hrecognized, if_true,
    p.kind_object, p.hasInterpreter_object, p.map_sectionName, p.map_symbolName, Option.not_isSome]

/-- A program of four-byte words, the most significant byte first, that is loaded anywhere. -/
def bigEndianProgram : Program where
  layout := ⟨.four, .big⟩
  kind := .pie 0x08000001 (by decide)
  machine := 20
  entry := 0x100
  base := 0
  interpreter := some [0x2f, 0x6c, 0x64, 0x2e, 0x73, 0x6f, 0x00]
  sections := [⟨".text", .bytes [0x4e, 0x80, 0x00, 0x20, 0x00]⟩, ⟨".bss", .zeros 0x40⟩]
  symbols := [⟨"main", 1⟩, ⟨"größe", 2⟩, ⟨"", 0xfff1⟩]
  machine_fits := by decide
  entry_fits := by decide
  flags_fit := by decide
  sections_named := by decide
  contents_fit := by decide
  sections_counted := by decide
  symbols_named := by decide
  indices_fit := by decide
  names_fit := by decide
  fits := by decide

/-- Its file, with more bytes behind. -/
theorem inspect_program_bigEndian :
    inspect (Bytes.ofList (bigEndianProgram.bytes ++ [0x7f, 0x45])) =
      .object
        { kind := .pieExecutable
          staticallyLinked := false
          sections := #["", ".text", ".bss", ".symtab", ".strtab", ".shstrtab"]
          symbols := [⟨"main", 1⟩, ⟨"größe", 2⟩, ⟨"", 0xfff1⟩] } :=
  inspect_program bigEndianProgram [0x7f, 0x45]

end FipsAudit
