import FipsAudit.Policy.Load
import FipsAudit.Proofs.Json.Reader
import FipsAudit.Proofs.Semver.Range
import FipsAudit.Proofs.Text.Utf8
import Mathlib

/-!
# `FipsAudit.Proofs.Policy.Load` — policy files change the tables that they name

The document of a policy file names some tables, in any order, with members of other names between them. What is
loaded has these tables as they are written, and all others as they are built in.

* `Table` — the tables as a type, with their keys and the values that are written for them.
* `Policy.overriding` — some tables of one policy, and the others of another.
* `Policy.Item`, `Policy.Admissible` — what a policy document may consist of.
* `Policy.load_overriding` — which policy it stands for. A document of all tables gives back the policy that it was
  written for, and one of none the built-in policy.
-/

namespace FipsAudit

open Text Json

/-! ## Requirements -/

namespace SymbolRequirement

/-- The members that are written for a requirement. -/
def entries (r : SymbolRequirement) : List (Entry SymbolRequirement) :=
  [⟨versionsKey, [.text r.versions.text], some fun x => { x with versions := r.versions }⟩,
    ⟨symbolsKey, (Value.texts r.symbols).tokens, some fun x => { x with symbols := r.symbols }⟩]

theorem fits_entries {r : SymbolRequirement} {s : String} (h : Semver.Range.parse s = .ok r.versions) :
    ∀ e ∈ r.entries, e.Fits shape := by
  have hversions : (Semver.Range.parse r.versions.text).mapError (·.message) = .ok r.versions := by
    rw [Semver.Range.parse_text h]
    rfl
  refine List.forall_mem_cons.mpr ⟨?_, List.forall_mem_cons.mpr ⟨?_, by simp⟩⟩
  · exact .known rfl ((reads_parsed hversions).member _ _)
  · exact .known rfl ((reads_texts r.symbols).member _ _)

/-- **A requirement is read back**, if its range is one that can be read. -/
theorem reads_value {r : SymbolRequirement} {s : String} (h : Semver.Range.parse s = .ok r.versions) :
    Reads reader r.value.tokens r := by
  have hkeys : symbolsKey ≠ versionsKey := by decide
  have hdistinct : Record.Distinct r.entries := List.pairwise_pair.mpr fun _ => hkeys
  have hseen : ∀ name ∈ shape.members.map (·.name), name ∈ [symbolsKey, versionsKey] := by decide
  exact Record.reads_object (fits_entries h) hdistinct fun _ m hm => hseen m.name (List.mem_map_of_mem hm)

end SymbolRequirement

/-! ## Tables -/

/-- The tables of a policy. -/
inductive Table where
  | cryptoSymbolMarker
  | zeroFillSections
  | cgoInitSymbols
  | symbolRequirements
  | deniedBuildTags
  | requiredExperiment
  | libraryDirs
  | cryptoLibraryPattern
  | fipsIndicatorSymbols
  | nmCommand
deriving DecidableEq, Repr

namespace Table

/-- All of them, in the order of declaration. -/
def all : List Table :=
  [cryptoSymbolMarker, zeroFillSections, cgoInitSymbols, symbolRequirements, deniedBuildTags, requiredExperiment,
    libraryDirs, cryptoLibraryPattern, fipsIndicatorSymbols, nmCommand]

theorem mem_all (t : Table) : t ∈ all := by
  cases t <;> decide

/-- The key of a table. -/
def key : Table → String
  | cryptoSymbolMarker => Policy.markerKey
  | zeroFillSections => Policy.zeroFillKey
  | cgoInitSymbols => Policy.cgoInitKey
  | symbolRequirements => Policy.requirementsKey
  | deniedBuildTags => Policy.deniedTagsKey
  | requiredExperiment => Policy.requiredExperimentKey
  | libraryDirs => Policy.libraryDirsKey
  | cryptoLibraryPattern => Policy.libraryPatternKey
  | fipsIndicatorSymbols => Policy.indicatorsKey
  | nmCommand => Policy.nmCommandKey

/-- What is written for a table of `p`. -/
def value (p : Policy) : Table → Value
  | cryptoSymbolMarker => .text p.cryptoSymbolMarker
  | zeroFillSections => .texts p.zeroFillSections
  | cgoInitSymbols => .texts p.cgoInitSymbols
  | symbolRequirements => .list (p.symbolRequirements.map SymbolRequirement.value)
  | deniedBuildTags => .texts p.deniedBuildTags
  | requiredExperiment => .text p.requiredExperiment
  | libraryDirs => .texts p.libraryDirs
  | cryptoLibraryPattern => .text p.cryptoLibraryPattern
  | fipsIndicatorSymbols => .texts p.fipsIndicatorSymbols
  | nmCommand => .text p.nmCommand

/-- A policy with a table of `p` in the place of its own. -/
def copied (p : Policy) : Table → Policy → Policy
  | cryptoSymbolMarker, q => { q with cryptoSymbolMarker := p.cryptoSymbolMarker }
  | zeroFillSections, q => { q with zeroFillSections := p.zeroFillSections }
  | cgoInitSymbols, q => { q with cgoInitSymbols := p.cgoInitSymbols }
  | symbolRequirements, q => { q with symbolRequirements := p.symbolRequirements }
  | deniedBuildTags, q => { q with deniedBuildTags := p.deniedBuildTags }
  | requiredExperiment, q => { q with requiredExperiment := p.requiredExperiment }
  | libraryDirs, q => { q with libraryDirs := p.libraryDirs }
  | cryptoLibraryPattern, q => { q with cryptoLibraryPattern := p.cryptoLibraryPattern }
  | fipsIndicatorSymbols, q => { q with fipsIndicatorSymbols := p.fipsIndicatorSymbols }
  | nmCommand, q => { q with nmCommand := p.nmCommand }

/-- Tables are told apart by their keys. -/
theorem key_injective {t u : Table} (h : t.key = u.key) : t = u := by
  have hfind : ∀ t : Table, all.find? (fun u => u.key == t.key) = some t := by
    intro t
    cases t <;> decide
  have hsome : some t = some u := by rw [← hfind t, ← hfind u, h]
  exact Option.some.inj hsome

end Table

namespace Policy

/-- The document lists the tables by their keys. -/
theorem members_eq_map (p : Policy) : p.members = Table.all.map fun t => (t.key, t.value p) := rfl

/-- The given tables of `p`, and the other ones of `q`. -/
def overriding (p q : Policy) (tables : List Table) : Policy where
  cryptoSymbolMarker := if .cryptoSymbolMarker ∈ tables then p.cryptoSymbolMarker else q.cryptoSymbolMarker
  zeroFillSections := if .zeroFillSections ∈ tables then p.zeroFillSections else q.zeroFillSections
  cgoInitSymbols := if .cgoInitSymbols ∈ tables then p.cgoInitSymbols else q.cgoInitSymbols
  symbolRequirements := if .symbolRequirements ∈ tables then p.symbolRequirements else q.symbolRequirements
  deniedBuildTags := if .deniedBuildTags ∈ tables then p.deniedBuildTags else q.deniedBuildTags
  requiredExperiment := if .requiredExperiment ∈ tables then p.requiredExperiment else q.requiredExperiment
  libraryDirs := if .libraryDirs ∈ tables then p.libraryDirs else q.libraryDirs
  cryptoLibraryPattern := if .cryptoLibraryPattern ∈ tables then p.cryptoLibraryPattern else q.cryptoLibraryPattern
  fipsIndicatorSymbols := if .fipsIndicatorSymbols ∈ tables then p.fipsIndicatorSymbols else q.fipsIndicatorSymbols
  nmCommand := if .nmCommand ∈ tables then p.nmCommand else q.nmCommand

theorem overriding_nil (p q : Policy) : p.overriding q [] = q := rfl

theorem overriding_all {p q : Policy} {tables : List Table} (h : ∀ t, t ∈ tables) : p.overriding q tables = p := by
  simp only [overriding, h, if_true]

/-- Tables can be copied one by one. -/
theorem overriding_cons (p q : Policy) (t : Table) (tables : List Table) :
    p.overriding q (t :: tables) = p.overriding (t.copied p q) tables := by
  cases t <;> simp [overriding, Table.copied]

/-! ## Documents -/

/-- A member of a policy document. -/
inductive Item where
  /-- A table. -/
  | table (t : Table)
  /-- Something else. -/
  | other (key : String) (value : List Token)

/-- The tables among the members of a document. -/
def tables (items : List Item) : List Table :=
  items.filterMap fun
    | .table t => some t
    | .other _ _ => none

/-- The tokens of a member, if tables are written as they are in `p`. -/
def Item.tokens (p : Policy) : Item → List Token
  | .table t => memberOf t.key (t.value p).tokens
  | .other key value => memberOf key value

/-- What a document may consist of: no table twice, and other members with keys and values of any kind. -/
structure Admissible (items : List Item) : Prop where
  /-- No table occurs twice. -/
  nodup : (tables items).Nodup
  /-- The key of another member is not that of a table. -/
  key_ne : ∀ key value, .other key value ∈ items → ∀ t : Table, key ≠ t.key
  /-- Its value is any value. -/
  json : ∀ key value, .other key value ∈ items → IsJson value

/-- What a member changes. -/
def Item.entry (p : Policy) : Item → Entry Policy
  | .table t => ⟨t.key, (t.value p).tokens, some (t.copied p)⟩
  | .other key value => ⟨key, value, none⟩

variable {p : Policy} {items : List Item}

theorem map_tokens_entry (p : Policy) (items : List Item) :
    (items.map (Item.entry p)).map Entry.tokens = items.map (Item.tokens p) := by
  rw [List.map_map]
  refine List.map_congr_left fun item _ => ?_
  cases item <;> rfl

/-- A table is read back, if its ranges are ones that can be read. -/
theorem fits_table (h : ∀ r ∈ p.symbolRequirements, ∃ s, Semver.Range.parse s = .ok r.versions) (t : Table) :
    ((Item.table t).entry p).Fits shape := by
  have hrequirements : Reads (.list SymbolRequirement.reader) (Table.value p .symbolRequirements).tokens
      (p.symbolRequirements.map id) := by
    refine reads_values fun r hr => ?_
    obtain ⟨s, hs⟩ := h r hr
    exact SymbolRequirement.reads_value hs
  rw [List.map_id] at hrequirements
  cases t with
  | symbolRequirements => exact .known rfl (hrequirements.member _ _)
  | cryptoSymbolMarker => exact .known rfl ((reads_parsed rfl).member _ _)
  | requiredExperiment => exact .known rfl ((reads_parsed rfl).member _ _)
  | cryptoLibraryPattern => exact .known rfl ((reads_parsed rfl).member _ _)
  | nmCommand => exact .known rfl ((reads_parsed rfl).member _ _)
  | zeroFillSections => exact .known rfl ((reads_texts _).member _ _)
  | cgoInitSymbols => exact .known rfl ((reads_texts _).member _ _)
  | deniedBuildTags => exact .known rfl ((reads_texts _).member _ _)
  | libraryDirs => exact .known rfl ((reads_texts _).member _ _)
  | fipsIndicatorSymbols => exact .known rfl ((reads_texts _).member _ _)

/-- The names of the members that the record knows are the keys of the tables. -/
theorem name_mem_shape : shape.members.map (·.name) = Table.all.map Table.key := rfl

/-- Members with other keys are read over. -/
theorem fits_other {key : String} {value : List Token} (hkey : ∀ t : Table, key ≠ t.key) (h : IsJson value) :
    ((Item.other key value).entry p).Fits shape := by
  refine .unknown ?_ h
  rw [List.find?_eq_none]
  intro m hm hname
  have hmem : m.name ∈ Table.all.map Table.key := name_mem_shape ▸ List.mem_map_of_mem hm
  obtain ⟨t, -, ht⟩ := List.mem_map.mp hmem
  exact hkey t (ht.trans (eq_of_beq hname)).symm

/-- No known key occurs twice. -/
theorem distinct_entries (p : Policy) (h : Admissible items) : Record.Distinct (items.map (Item.entry p)) := by
  rw [Record.Distinct, List.pairwise_map]
  refine (List.pairwise_filterMap.mp h.nodup).imp_of_mem fun {item item'} _ hmem hne hknown => ?_
  cases item with
  | other key value => cases hknown
  | table t =>
      cases item' with
      | other key value => exact h.key_ne key value hmem t
      | table u => exact fun hkey => hne t rfl u rfl (Table.key_injective hkey).symm

/-- The members change the tables that they name. -/
theorem value_through (p : Policy) (items : List Item) (progress : Record.Progress Policy) :
    (progress.through (items.map (Item.entry p))).value = p.overriding progress.value (tables items) := by
  induction items generalizing progress with
  | nil => rfl
  | cons item items ih =>
      cases item with
      | table t =>
          have hchange : (progress.after t.key (some (t.copied p))).value = t.copied p progress.value := rfl
          show (Record.Progress.through _ (items.map (Item.entry p))).value = p.overriding _ (t :: tables items)
          rw [ih, overriding_cons]
          rfl
      | other key value => exact ih _

/-- **A document of a policy** stands for the policy with the tables that it names. -/
theorem ofDocument_items (hranges : ∀ r ∈ p.symbolRequirements, ∃ s, Semver.Range.parse s = .ok r.versions)
    (h : Admissible items) {document : String}
    (hdocument : Spaced (enclosed .object (items.map (Item.tokens p))) document.toList) :
    ofDocument document = .ok (p.overriding builtIn (tables items)) := by
  have hfits : ∀ e ∈ items.map (Item.entry p), e.Fits shape := by
    intro e he
    obtain ⟨item, hitem, rfl⟩ := List.mem_map.mp he
    cases item with
    | table t => exact fits_table hranges t
    | other key value => exact fits_other (h.key_ne key value hitem) (h.json key value hitem)
  have hreads : Reads (.record shape builtIn) _ _ :=
    Record.reads_object hfits (distinct_entries p h) fun hcomplete => by cases hcomplete
  rw [value_through, map_tokens_entry] at hreads
  exact readDocument_spaced hreads hdocument

/-! ## Files -/

/-- The built-in pattern of library names is well-formed. -/
theorem exists_parse_builtIn : ∃ pattern, Pattern.parse builtIn.cryptoLibraryPattern = .ok pattern := by
  have hok : (Pattern.parse builtIn.cryptoLibraryPattern).isOk = true := by decide +kernel
  cases hparse : Pattern.parse builtIn.cryptoLibraryPattern with
  | error fault =>
      rw [hparse] at hok
      cases hok
  | ok pattern => exact ⟨pattern, rfl⟩

/-- A policy whose pattern is that of `p` or the built-in one passes the check. -/
theorem checked_overriding {pattern : Pattern} (h : Pattern.parse p.cryptoLibraryPattern = .ok pattern)
    (tables : List Table) : (p.overriding builtIn tables).checked = .ok (p.overriding builtIn tables) := by
  have hparse : ∃ pattern, Pattern.parse (p.overriding builtIn tables).cryptoLibraryPattern = .ok pattern := by
    by_cases hmem : Table.cryptoLibraryPattern ∈ tables
    · exact ⟨pattern, by rw [overriding, if_pos hmem, h]⟩
    · obtain ⟨pattern', h'⟩ := exists_parse_builtIn
      exact ⟨pattern', by rw [overriding, if_neg hmem, h']⟩
  obtain ⟨pattern', h'⟩ := hparse
  rw [checked, h']

variable {fs : FileSystem} {path : Path} {content : ByteArray} {document : String}

theorem readText_of_read (hread : fs.read path = .ok content) (hcontent : content.data.toList = Utf8.encode document) :
    fs.readText path = .ok document := by
  simp only [FileSystem.readText, hread, hcontent, Utf8.decode?_encode]

/-- A policy file with a document of some tables. -/
theorem load_items {pattern : Pattern}
    (hranges : ∀ r ∈ p.symbolRequirements, ∃ s, Semver.Range.parse s = .ok r.versions)
    (hpattern : Pattern.parse p.cryptoLibraryPattern = .ok pattern) (hfile : fs.readText path = .ok document)
    (h : Admissible items) (hdocument : Spaced (enclosed .object (items.map (Item.tokens p))) document.toList) :
    load fs path = .ok (p.overriding builtIn (tables items)) := by
  simp only [load, hfile, ofDocument_items hranges h hdocument, checked_overriding hpattern]

/-- All tables in the order of declaration. -/
def everyTable : List Item := Table.all.map .table

theorem tables_everyTable : tables everyTable = Table.all := rfl

theorem admissible_everyTable : Admissible everyTable where
  nodup := by decide
  key_ne _ _ h := by simp [everyTable] at h
  json _ _ h := by simp [everyTable] at h

/-- The document that is written for a policy holds all its tables. -/
theorem spaced_document (p : Policy) :
    Spaced (enclosed .object (everyTable.map (Item.tokens p))) p.document.toList := by
  have htokens : (Value.object p.members).tokens = enclosed .object (everyTable.map (Item.tokens p)) := by
    rw [Value.tokens, Value.memberTokens_eq_map, members_eq_map, List.map_map, everyTable, List.map_map]
    rfl
  rw [← htokens]
  exact Value.spaced_pretty _

/-- **A policy file changes the tables that it names.** Let the ranges of `p` be ones that can be read and its pattern
    be well-formed, and let a file name some tables as `p` has them, in any order, in any layout and spelling, and with
    anything else under other keys between them. What is loaded has these tables from `p` and the others as they are
    built in. So a file of all tables is loaded as `p`, among them the one that is written for `p`, and a file of none
    as the built-in policy. -/
theorem load_overriding {pattern : Pattern}
    (hranges : ∀ r ∈ p.symbolRequirements, ∃ s, Semver.Range.parse s = .ok r.versions)
    (hpattern : Pattern.parse p.cryptoLibraryPattern = .ok pattern) (hread : fs.read path = .ok content)
    (hcontent : content.data.toList = Utf8.encode document) :
    (∀ items, Admissible items → Spaced (enclosed .object (items.map (Item.tokens p))) document.toList →
      load fs path = .ok (p.overriding builtIn (tables items)) ∧
      ((∀ t, t ∈ tables items) → load fs path = .ok p) ∧
      (tables items = [] → load fs path = .ok builtIn)) ∧
    (document = p.document → load fs path = .ok p) := by
  have hfile : fs.readText path = .ok document := readText_of_read hread hcontent
  refine ⟨fun items h hdocument => ?_, ?_⟩
  · have hload := load_items hranges hpattern hfile h hdocument
    refine ⟨hload, fun hall => ?_, fun hnone => ?_⟩
    · rw [hload, overriding_all hall]
    · rw [hload, hnone, overriding_nil]
  · rintro rfl
    rw [load_items hranges hpattern hfile admissible_everyTable (spaced_document p), tables_everyTable,
      overriding_all Table.mem_all]

/-- A policy with three tables of its own. -/
def sample : Policy where
  symbolRequirements :=
    [{ versions := ⟨[{ op := .greaterEq, major := 1, minor := some 22 }, { op := .wildcard, major := 1 }]⟩
       symbols := ["crypto/internal/backend.init"] }]
  requiredExperiment := "boringcrypto"
  nmCommand := "llvm-nm"

/-- A file system with one file. -/
def fileOf (content : ByteArray) : FileSystem where
  entries := [([Utf8.encode "policy.json"], .file 0o644 content)]

/-- Two of the three tables with a comment before them, and all tables. -/
theorem load_overriding_sample :
    let path : Path := .ofString "/policy.json"
    let save (document : String) : FileSystem := fileOf ⟨(Utf8.encode document).toArray⟩
    let partly : Value := .object [("comment", .list [.bool true]), (nmCommandKey, Table.value sample .nmCommand),
      (requirementsKey, Table.value sample .symbolRequirements)]
    load (save partly.pretty) path =
      .ok { nmCommand := "llvm-nm", symbolRequirements := sample.symbolRequirements } ∧
    load (save sample.document) path = .ok sample := by
  intro path save partly
  have hranges : ∀ r ∈ sample.symbolRequirements, ∃ s, Semver.Range.parse s = .ok r.versions := by
    refine List.forall_mem_singleton.mpr ⟨">= 1.22,1.x.*", ?_⟩
    decide +kernel
  obtain ⟨pattern, hpattern⟩ := exists_parse_builtIn
  have hread (content : ByteArray) : (fileOf content).read (.ofString "/policy.json") = .ok content := by cbv
  have hcontent (document : String) : (ByteArray.mk (Utf8.encode document).toArray).data.toList =
      Utf8.encode document := rfl
  let items : List Item := [.other "comment" (Value.list [.bool true]).tokens, .table .nmCommand,
    .table .symbolRequirements]
  have hcomment : ∀ key value, .other key value ∈ items →
      key = "comment" ∧ value = (Value.list [.bool true]).tokens := by
    intro key value h
    simpa [items] using h
  have hadmissible : Admissible items := by
    refine ⟨by decide, fun key value h t => ?_, fun key value h => ?_⟩
    · obtain ⟨rfl, -⟩ := hcomment key value h
      cases t <;> decide
    · obtain ⟨-, rfl⟩ := hcomment key value h
      exact .full (.last .element (.scalar .yes))
  refine ⟨?_, ?_⟩
  · exact ((load_overriding hranges hpattern (hread _) (hcontent _)).1 items hadmissible partly.spaced_pretty).1
  · exact (load_overriding hranges hpattern (hread _) (hcontent _)).2 rfl

end Policy

end FipsAudit
