import FipsAudit.FileSystem.Refusal
import FipsAudit.Path

/-!
# `FipsAudit.FileSystem.Basic` — trees of files

A file system is a table of its entries by location, the names from the root directory down. The order of the
table is the order in which directories list their entries, the newest first; a location occurs once. The root
directory is there without an entry. What stands somewhere need not be for everyone to see: the system may refuse to
open a file or a directory, and to read a file that it has opened.

* `Node` — file, directory or symbolic link.
* `FileSystem.node?` — the node at a location.
* `FileSystem.put` — an entry added or replaced.
* `FileSystem.remove` — an entry taken away with all that is below it.
* `FileSystem.children`, `FileSystem.below` — the entries of a directory, and all entries under it.
* `FileSystem.listing` — the entries of a directory, if the system lists them.
-/

namespace FipsAudit

/-- The names that lead from the root directory to an entry. -/
abbrev Location := List Name

/-- An entry of a directory. -/
inductive Node where
  | file (mode : Nat) (content : ByteArray)
  | directory
  | link (target : Path)

namespace Node

/-- Whether the node is a regular file. -/
def isFile : Node → Bool
  | .file _ _ => true
  | _ => false

/-- Whether the node is a directory. -/
def isDirectory : Node → Bool
  | .directory => true
  | _ => false

/-- Whether the node is a symbolic link. -/
def isLink : Node → Bool
  | .link _ => true
  | _ => false

/-- The permission bits that allow someone to execute a file. -/
def executeBits : Nat := 0o111

/-- Whether the node is a regular file that someone may execute. -/
def isExecutable : Node → Bool
  | .file mode _ => mode &&& executeBits != 0
  | _ => false

end Node

/-- The entries of a tree, the directory at which relative paths start, and what the system refuses. -/
structure FileSystem where
  /-- Entries by location, in the order of listing. -/
  entries : List (Location × Node) := []
  /-- A location occurs once. -/
  nodup : (entries.map (·.1)).Nodup := by simp
  /-- Where relative paths start. -/
  workingDirectory : Location := []
  /-- Why what stands at a location cannot be opened, a file to be read or a directory to be listed. -/
  unopened : Location → Option IoError := fun _ => none
  /-- Why the file at a location cannot be read once it is open. -/
  unread : Location → Option IoError := fun _ => none

namespace FileSystem

/-- The node at a location. -/
def node? (fs : FileSystem) (l : Location) : Option Node :=
  if l = [] then some .directory else fs.entries.lookup l

/-! ## Changing the tree -/

/-- The entries with the node at `l` replaced. -/
def replaced (l : Location) (n : Node) (entries : List (Location × Node)) : List (Location × Node) :=
  entries.map fun e => if e.1 = l then (l, n) else e

theorem map_fst_replaced (l : Location) (n : Node) (entries : List (Location × Node)) :
    (replaced l n entries).map (·.1) = entries.map (·.1) := by
  induction entries with
  | nil => rfl
  | cons e es ih =>
      simp only [replaced, List.map_cons, List.cons.injEq] at ih ⊢
      refine ⟨?_, ih⟩
      by_cases h : e.1 = l <;> simp [h]

/-- The tree with `n` at `l`: in the place of the entry that is there, or as the newest entry. -/
def put (fs : FileSystem) (l : Location) (n : Node) : FileSystem :=
  if h : l ∈ fs.entries.map (·.1) then
    { fs with
      entries := replaced l n fs.entries
      nodup := by rw [map_fst_replaced]; exact fs.nodup }
  else
    { fs with
      entries := (l, n) :: fs.entries
      nodup := by
        rw [List.map_cons, List.nodup_cons]
        exact ⟨h, fs.nodup⟩ }

/-- The tree without `l` and what is below it. -/
def remove (fs : FileSystem) (l : Location) : FileSystem :=
  { fs with
    entries := fs.entries.filter fun e => !l.isPrefixOf e.1
    nodup := fs.nodup.sublist (List.filter_sublist.map _) }

/-! ## Listing -/

/-- What follows the directory `d` in a location below it. -/
def namesBelow? : (d l : Location) → Option Location
  | [], l => some l
  | _ :: _, [] => none
  | n :: d, m :: l => if n = m then namesBelow? d l else none

/-- All entries strictly below directory `d`, by the names that lead to them. -/
def below (fs : FileSystem) (d : Location) : List (Location × Node) :=
  fs.entries.filterMap fun e =>
    match namesBelow? d e.1 with
    | some (n :: ns) => some (n :: ns, e.2)
    | _ => none

/-- The entries of directory `d` by name. -/
def children (fs : FileSystem) (d : Location) : List (Name × Node) :=
  (fs.below d).filterMap fun e =>
    match e.1 with
    | [n] => some (n, e.2)
    | _ => none

/-- What listing directory `d` comes to. -/
def listing (fs : FileSystem) (d : Location) : Except IoError (List (Name × Node)) :=
  match fs.unopened d with
  | some e => .error e
  | none => .ok (fs.children d)

end FileSystem

end FipsAudit
