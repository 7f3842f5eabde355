import FipsAudit.Elf.StringTable
import FipsAudit.Proofs.Bytes
import FipsAudit.Proofs.Text.Utf8

/-!
# `FipsAudit.Proofs.Elf.StringTable` — names are found where they were put

A table is written by putting each name behind the one before, closed by a zero byte. The first byte is zero too, so
offset zero gives the empty name, which is the name of everything without one.

* `StringTable.ofNames`, `StringTable.places` — the table of a list of names, and where they start in it.
* `ofBytes?_ofNames` — the names of a written table are well-formed, so it is accepted.
* `map_get_places` — each name is what the table gives for its place.
-/

namespace FipsAudit.Elf.StringTable

open Text

/-- A name and the zero byte that closes it. -/
def closed (name : String) : List UInt8 := Utf8.encode name ++ [0]

/-- The bytes of a table: the empty name, then the others. -/
def write (names : List String) : List UInt8 := 0 :: (names.map closed).flatten

/-- The table of a list of names. -/
def ofNames (names : List String) : StringTable := ⟨Bytes.ofList (write names)⟩

/-- Where the names start. -/
def places (names : List String) : List Nat := Bytes.starts 1 1 ((names.map closed).map List.length)

variable (names : List String)

@[simp] theorem length_places : (places names).length = names.length := by
  rw [places, Bytes.length_starts, List.length_map, List.length_map]

/-- Places lie in the table. -/
theorem le_of_mem_places {place : Nat} (h : place ∈ places names) : place ≤ (write names).length := by
  have hle := Bytes.le_of_mem_starts Nat.one_pos h
  rw [Bytes.layOut_one] at hle
  rw [write, List.length_cons]
  omega

theorem closed_eq_encodeChars (name : String) : closed name = Utf8.encodeChars (name.toList ++ ['\x00']) := by
  rw [closed, Utf8.encode, Utf8.encodeChars, Utf8.encodeChars, List.flatMap_append]
  rfl

/-- The whole table is the text that has the null character for each zero byte. -/
theorem write_eq_encodeChars :
    write names = Utf8.encodeChars ('\x00' :: names.flatMap fun name => name.toList ++ ['\x00']) := by
  have hclosed : closed = fun name => Utf8.encodeChars (name.toList ++ ['\x00']) := funext closed_eq_encodeChars
  rw [write, hclosed, ← List.flatMap_def, Utf8.encodeChars, List.flatMap_cons, List.flatMap_assoc]
  rfl

theorem ofBytes?_ofNames : ofBytes? (ofNames names).bytes = some (ofNames names) := by
  have hwell := Utf8.decodeChars?_encodeChars ('\x00' :: names.flatMap fun name => name.toList ++ ['\x00'])
  rw [← write_eq_encodeChars] at hwell
  rw [ofBytes?, ofNames, Bytes.toList_ofList, hwell, Option.isSome_some, if_pos rfl]

/-- The text that stands in a table up to a zero byte. -/
theorem get_of_hasAt {t : StringTable} {offset : Nat} {name : String} (h : Bytes.HasAt t.bytes offset (closed name))
    (hname : '\x00' ∉ name.toList) : t.get offset = name := by
  rw [get, h.upToZero (Utf8.zero_not_mem_encodeChars hname), Utf8.decode?_encode, Option.getD_some]

/-- **Names are found at their places.** -/
theorem map_get_places (h : ∀ name ∈ names, '\x00' ∉ name.toList) : (places names).map (ofNames names).get = names := by
  have hstands : Bytes.HasAt (ofNames names).bytes 1 (Bytes.layOut 1 1 (names.map closed)) :=
    ⟨[0], [], by rw [Bytes.layOut_one]; simp [ofNames, write], rfl⟩
  have hplaces := List.forall₂_map_right_iff.mp (hstands.layOut Nat.one_pos)
  have hnamed := ((List.forall₂_and_left _ _).mpr ⟨h, hplaces.flip⟩).flip
  have hget : List.Forall₂ (fun place name => (ofNames names).get place = name) (places names) names :=
    hnamed.imp fun _ _ ⟨hname, hat⟩ => get_of_hasAt hat hname
  rwa [← List.forall₂_map_left_iff, List.forall₂_eq_eq_eq] at hget

/-- Offset zero is the empty name. -/
theorem get_zero : (ofNames names).get 0 = "" :=
  get_of_hasAt ⟨[], (names.map closed).flatten, rfl, rfl⟩ (by decide)

end FipsAudit.Elf.StringTable
