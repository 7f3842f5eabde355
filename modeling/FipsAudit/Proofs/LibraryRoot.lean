import FipsAudit.LibraryScan
import FipsAudit.Proofs.FileSystem.Resolve
import Mathlib

/-!
# `FipsAudit.Proofs.LibraryRoot` — which libraries a root can be said to have

A library directory is taken inside the root. If the policy names no parent directories, and no link stands on the way
from the root to a library directory, then the libraries are regular files inside the root, and nothing outside makes
a difference to them. The last name of a library directory may be a link, for such a directory is passed over. A link
before the last name is followed, and it can lead anywhere.

* `FileSystem.libraryEntries_of_leadsInto` — a library directory is looked up in the tree of the root.
* `FileSystem.LibraryIn` — a library that stands inside the root.
* `FileSystem.libraries_confined` — the libraries are such, and they are the same whatever is outside.
* `FileSystem.libraries_not_confined` — a link before the last name leads out of the root.
-/

namespace FipsAudit

open Text FileSystem

/-! ## Names in order -/

/-- The order in which a directory lists its entries makes no difference to the names that match. -/
theorem matchingNames_perm {pattern : Pattern} {entries entries' : List (Name × Node)} (h : entries.Perm entries') :
    matchingNames pattern entries = matchingNames pattern entries' := by
  have hsorted (names : List String) : names.mergeSort.Pairwise (· ≤ ·) := by
    have hpairwise : names.mergeSort.Pairwise fun a b => decide (a ≤ b) = true := List.pairwise_mergeSort
      (fun a b c hab hbc => by simpa using String.le_trans (of_decide_eq_true hab) (of_decide_eq_true hbc))
      (fun a b => by simpa using String.le_total a b) names
    exact hpairwise.imp of_decide_eq_true
  refine List.Perm.eq_of_pairwise (fun a b _ _ => String.le_antisymm) (hsorted _) (hsorted _) ?_
  exact (List.mergeSort_perm _ _).trans (((h.filterMap _).filter _).trans (List.mergeSort_perm _ _).symm)

theorem mem_matchingNames {pattern : Pattern} {entries : List (Name × Node)} {name : String}
    (h : name ∈ matchingNames pattern entries) : pattern.isMatch name = true ∧
      ∃ bytes mode content, (bytes, .file mode content) ∈ entries ∧ Utf8.decode? bytes = some name := by
  rw [matchingNames, List.mem_mergeSort, List.mem_filter, List.mem_filterMap] at h
  obtain ⟨⟨⟨bytes, node⟩, hentry, hregular⟩, hmatch⟩ := h
  refine ⟨hmatch, bytes, ?_⟩
  cases node with
  | file mode content => exact ⟨mode, content, hentry, hregular⟩
  | _ => contradiction

namespace FileSystem

variable {fs fs' : FileSystem} {root : Path} {directory : String} {directories : List String} {pattern : Pattern}

/-! ## One library directory -/

/-- The entries of a directory, or none if it cannot be opened. -/
def listed (fs : FileSystem) (l : Location) : List (Name × Node) := (fs.listing l).toOption.getD []

/-- A directory that can be opened lists its entries, and any other nothing. -/
theorem listed_eq (fs : FileSystem) (l : Location) :
    fs.listed l = if fs.unopened l = none then fs.children l else [] := by
  rw [listed, listing]
  cases fs.unopened l <;> rfl

/-- Nothing is listed that is not there. -/
theorem mem_children_of_mem_listed {l : Location} {entry : Name × Node} (h : entry ∈ fs.listed l) :
    entry ∈ fs.children l := by
  rw [listed_eq] at h
  split at h
  next => exact h
  next => exact absurd h List.not_mem_nil

/-- The entries of a library directory are those of the directory that its path leads to without a link at the end. -/
theorem libraryEntries_eq (fs : FileSystem) (root : Path) (directory : String) :
    fs.libraryEntries root directory =
      ((fs.resolve false (root.resolveUnder (.ofString directory))).toOption.bind directory?).elim [] fs.listed := by
  unfold libraryEntries linkStatus
  dsimp only
  cases hresolve : fs.resolve false (root.resolveUnder (.ofString directory)) with
  | error e => rfl
  | ok found =>
      obtain ⟨l, node⟩ := found
      cases node with
      | link target => rfl
      | _ =>
          have hstatus := resolve_of_not_isLink hresolve rfl
          simp [list, listed, hstatus, Except.map, Except.toOption, Node.isLink, directory?]

/-- A double dot is taken from a path only if it is a component of it. -/
theorem parent_not_mem_steps {p : Path} (h : .parent ∉ p.components) : [Path.dot, Path.dot] ∉ steps p.inside := by
  intro hmem
  rcases List.mem_append.mp hmem with hname | hlast
  · exact h (Path.mem_components_of_mem_inside (List.mem_filter.mp hname).1 rfl)
  · split at hlast
    · exact absurd hlast (by decide)
    · exact absurd hlast List.not_mem_nil

/-- A library directory leads nowhere but into the tree of the root. -/
structure LeadsInto (tree : Tree) (directory : String) : Prop where
  /-- No component is a double dot. -/
  noParent : .parent ∉ (Path.ofString directory).components
  /-- No link stands before the last name. -/
  unlinked : Unlinked tree [] (steps (Path.ofString directory).inside)

/-- The directory in the tree of the root that a path names there. -/
def directoryIn? (tree : Tree) (p : Path) : Option Location := (lookUp? tree [] (steps p.inside)).bind directory?

/-- **A library directory is looked up in the tree of the root**: its entries are those of a directory there, or it has
    none. -/
theorem libraryEntries_of_leadsInto (h : ∀ tree, fs.inside? root = some tree → LeadsInto tree directory) :
    fs.libraryEntries root directory =
      if isSound (root.resolveUnder (.ofString directory)) then
        (fs.enter? root).elim [] fun l =>
          (directoryIn? (fs.treeAt l) (.ofString directory)).elim [] fun names => fs.listed (l ++ names)
      else [] := by
  obtain ⟨left, hleft⟩ := fs.resolve_join root (Path.ofString directory).isAbsolute_inside
  rw [libraryEntries_eq, Path.resolveUnder_eq, hleft false]
  by_cases hsound : isSound (root.join (Path.ofString directory).inside) = true
  · rw [if_pos hsound, if_pos hsound]
    cases henter : fs.enter? root with
    | none => rfl
    | some l =>
        obtain ⟨hparent, hunlinked⟩ := h _ (inside?_of_enter? henter)
        have hfollow := follow_of_unlinked left hunlinked (parent_not_mem_steps hparent)
        rw [List.append_nil] at hfollow
        rw [Option.bind_some, hfollow, Option.elim_some, directoryIn?]
        cases lookUp? (fs.treeAt l) [] (steps (Path.ofString directory).inside) with
        | none => rfl
        | some found =>
            obtain ⟨names, node⟩ := found
            cases node <;> rfl
  · rw [if_neg hsound, if_neg hsound]
    rfl

/-! ## All libraries -/

/-- A library that stands inside a root: a regular file whose name matches, in a library directory that directories
    lead to. -/
inductive LibraryIn (tree : Tree) (directories : List String) (pattern : Pattern) : String → Prop
  /-- It stands there. -/
  | file {directory name : String} {bytes : Name} {mode : Nat} {content : ByteArray}
      (configured : directory ∈ directories) (straight : Straight tree (place (Path.ofString directory).inside))
      (found : tree.node? (place (Path.ofString directory).inside ++ [bytes]) = some (.file mode content))
      (text : Utf8.decode? bytes = some name) (hmatch : pattern.isMatch name = true) :
      LibraryIn tree directories pattern (libraryPath directory name)

/-- The names that match in a library directory are the same if the trees are. -/
theorem matchingNames_libraryEntries (hinside : fs'.inside? root = fs.inside? root)
    (h : ∀ tree, fs.inside? root = some tree → LeadsInto tree directory) :
    matchingNames pattern (fs'.libraryEntries root directory) =
      matchingNames pattern (fs.libraryEntries root directory) := by
  rw [libraryEntries_of_leadsInto h, libraryEntries_of_leadsInto (hinside ▸ h)]
  rw [inside?, inside?] at hinside
  split
  · cases henter : fs.enter? root with
    | none =>
        rw [henter, Option.map_none, Option.map_eq_none_iff] at hinside
        rw [hinside, Option.elim_none, Option.elim_none]
    | some l =>
        rw [henter, Option.map_some, Option.map_eq_some_iff] at hinside
        obtain ⟨l', henter', hsame⟩ := hinside
        rw [henter', Option.elim_some, Option.elim_some, hsame]
        cases directoryIn? (fs.treeAt l) (.ofString directory) with
        | none => rfl
        | some names =>
            have hnode (names : Location) : fs'.node? (l' ++ names) = fs.node? (l ++ names) :=
              congrArg (Tree.node? · names) hsame
            have hopen : fs'.unopened (l' ++ names) = fs.unopened (l ++ names) :=
              congrArg (Tree.unopened · names) hsame
            rw [Option.elim_some, Option.elim_some, listed_eq, listed_eq, hopen]
            split
            · refine matchingNames_perm (children_perm fun name => ?_)
              rw [List.append_assoc, List.append_assoc]
              exact hnode (names ++ [name])
            · rfl
  · rfl

/-- What is found in a library directory stands inside the root. -/
theorem libraryIn_of_mem {name : String} (h : ∀ tree, fs.inside? root = some tree → LeadsInto tree directory)
    (hconfigured : directory ∈ directories) (hname : name ∈ matchingNames pattern (fs.libraryEntries root directory)) :
    ∃ tree, fs.inside? root = some tree ∧ LibraryIn tree directories pattern (libraryPath directory name) := by
  rw [libraryEntries_of_leadsInto h] at hname
  obtain ⟨hmatch, bytes, mode, content, hentry, htext⟩ := mem_matchingNames hname
  split at hentry
  next =>
    cases henter : fs.enter? root with
    | none =>
        rw [henter] at hentry
        exact absurd hentry List.not_mem_nil
    | some l =>
        refine ⟨_, inside?_of_enter? henter, ?_⟩
        rw [henter, Option.elim_some] at hentry
        cases hdirectory : directoryIn? (fs.treeAt l) (.ofString directory) with
        | none =>
            rw [hdirectory] at hentry
            exact absurd hentry List.not_mem_nil
        | some names =>
            rw [hdirectory, Option.elim_some] at hentry
            have hthere := mem_children_iff.mp (mem_children_of_mem_listed hentry)
            rw [List.append_assoc] at hthere
            obtain ⟨⟨found, node⟩, hlook, hfound⟩ := Option.bind_eq_some_iff.mp hdirectory
            cases node with
            | directory =>
                obtain rfl : found = names := Option.some.inj hfound
                obtain ⟨hplace, hstraight⟩ := lookUp?_directory hlook fun before hne hprefix =>
                  absurd (List.prefix_nil.mp hprefix) hne
                obtain rfl : found = place (Path.ofString directory).inside := hplace.trans (List.nil_append _)
                exact .file hconfigured hstraight hthere htext hmatch
            | file => cases hfound
            | link => cases hfound
  next => exact absurd hentry List.not_mem_nil

/-- **The libraries of a root are confined to it if no library directory leads out**: two trees of files with the same
    inside have the same libraries, whatever is outside, and each library is a regular file inside that directories
    alone lead to. -/
theorem libraries_confined
    (h : ∀ directory ∈ directories, ∀ tree, fs.inside? root = some tree → LeadsInto tree directory) :
    (∀ fs' : FileSystem, fs'.inside? root = fs.inside? root →
      fs'.libraries root directories pattern = fs.libraries root directories pattern) ∧
    ∀ library ∈ fs.libraries root directories pattern,
      ∃ tree, fs.inside? root = some tree ∧ LibraryIn tree directories pattern library := by
  constructor
  · intro fs' hinside
    rw [libraries, libraries, List.flatMap_def, List.flatMap_def]
    refine congrArg _ (List.map_congr_left fun directory hdirectory => ?_)
    rw [matchingNames_libraryEntries hinside (h directory hdirectory)]
  · intro library hlibrary
    obtain ⟨directory, hdirectory, hmem⟩ := List.mem_flatMap.mp hlibrary
    obtain ⟨name, hname, rfl⟩ := List.mem_map.mp hmem
    exact libraryIn_of_mem (h directory hdirectory) hdirectory hname

/-- The place that names lead to. -/
def placeOf (names : List String) : Location := names.map Utf8.encode

/-- An image with a library, and with a second name for the directory of the library. -/
def twiceNamed : FileSystem where
  entries := [
    (placeOf ["image"], .directory),
    (placeOf ["image", "usr"], .directory),
    (placeOf ["image", "usr", "lib64"], .directory),
    (placeOf ["image", "usr", "lib64", "libcrypto.so.3"], .file 0o644 .empty),
    (placeOf ["image", "lib64"], .link (.ofString "usr/lib64"))]
  nodup := by decide

/-- The second name is passed over: the library is found once, whatever is outside the image. -/
theorem libraries_confined_twiceNamed :
    twiceNamed.libraries (.ofString "/image") ["/usr/lib64", "/lib64"] .empty = ["/usr/lib64/libcrypto.so.3"] ∧
    (∀ fs : FileSystem, fs.inside? (.ofString "/image") = twiceNamed.inside? (.ofString "/image") →
      fs.libraries (.ofString "/image") ["/usr/lib64", "/lib64"] .empty = ["/usr/lib64/libcrypto.so.3"]) ∧
    ∃ tree, twiceNamed.inside? (.ofString "/image") = some tree ∧
      LibraryIn tree ["/usr/lib64", "/lib64"] .empty "/usr/lib64/libcrypto.so.3" := by
  have hfound : twiceNamed.libraries (.ofString "/image") ["/usr/lib64", "/lib64"] .empty =
      ["/usr/lib64/libcrypto.so.3"] := by
    simp only [libraries, libraryEntries_eq]
    cbv
  have henter : twiceNamed.enter? (.ofString "/image") = some (placeOf ["image"]) := by cbv
  have hinto : ∀ directory ∈ ["/usr/lib64", "/lib64"], ∀ tree, twiceNamed.inside? (.ofString "/image") = some tree →
      LeadsInto tree directory := by
    intro directory hdirectory tree htree
    obtain rfl := Option.some.inj ((inside?_of_enter? henter).symm.trans htree)
    have husr : twiceNamed.node? (placeOf ["image"] ++ placeOf ["usr"]) = some .directory := rfl
    simp only [List.mem_cons, List.not_mem_nil, or_false] at hdirectory
    rcases hdirectory with rfl | rfl
    · refine ⟨by decide, ?_⟩
      have hsteps : steps (Path.ofString "/usr/lib64").inside = placeOf ["usr", "lib64"] := by decide
      rw [hsteps]
      exact ⟨fun _ target hlink => Node.noConfusion (Option.some.inj (husr.symm.trans hlink)), fun h => absurd rfl h,
        trivial⟩
    · refine ⟨by decide, ?_⟩
      have hsteps : steps (Path.ofString "/lib64").inside = placeOf ["lib64"] := by decide
      rw [hsteps]
      exact ⟨fun h => absurd rfl h, trivial⟩
  obtain ⟨hsame, hin⟩ := @libraries_confined _ _ _ .empty hinto
  exact ⟨hfound, fun fs hinside => (hsame fs hinside).trans hfound, hin _ (hfound ▸ List.mem_cons_self)⟩

/-! ## A link before the last name -/

/-- An image whose directory `usr` is a link to the host. -/
def linkedOut : FileSystem where
  entries := [
    (placeOf ["image"], .directory),
    (placeOf ["image", "usr"], .link (.ofString "/host")),
    (placeOf ["host"], .directory),
    (placeOf ["host", "lib64"], .directory)]
  nodup := by decide

/-- The same image on a host that has a library. -/
def linkedOutWithLibrary : FileSystem where
  entries := (placeOf ["host", "lib64", "libcrypto.so.3"], .file 0o644 .empty) :: linkedOut.entries
  nodup := by decide

/-- **Without that condition the libraries are not confined**: a library of the host is taken for one of the image. -/
theorem libraries_not_confined :
    ¬ ∀ (fs fs' : FileSystem) (root : Path) (directories : List String) (pattern : Pattern),
      (∀ directory ∈ directories, .parent ∉ (Path.ofString directory).components) →
      fs'.inside? root = fs.inside? root →
      fs'.libraries root directories pattern = fs.libraries root directories pattern := by
  intro hconfined
  have hparent : ∀ directory ∈ ["/usr/lib64"], .parent ∉ (Path.ofString directory).components := by decide
  have hinside : linkedOutWithLibrary.inside? (.ofString "/image") = linkedOut.inside? (.ofString "/image") := by
    have henter : linkedOut.enter? (.ofString "/image") = some (placeOf ["image"]) := by cbv
    have henter' : linkedOutWithLibrary.enter? (.ofString "/image") = some (placeOf ["image"]) := by cbv
    -- What was added begins with another name, so it is not seen from the image.
    have htree : linkedOutWithLibrary.treeAt (placeOf ["image"]) = linkedOut.treeAt (placeOf ["image"]) := rfl
    exact (inside?_of_enter? henter').trans ((congrArg some htree).trans (inside?_of_enter? henter).symm)
  have hnone : linkedOut.libraries (.ofString "/image") ["/usr/lib64"] .empty = [] := by
    simp only [libraries, libraryEntries_eq]
    cbv
  have hone : linkedOutWithLibrary.libraries (.ofString "/image") ["/usr/lib64"] .empty =
      ["/usr/lib64/libcrypto.so.3"] := by
    simp only [libraries, libraryEntries_eq]
    cbv
  have hsame := hconfined linkedOut linkedOutWithLibrary (.ofString "/image") ["/usr/lib64"] .empty hparent hinside
  rw [hnone, hone] at hsame
  exact absurd hsame (List.cons_ne_nil _ _)

end FileSystem

end FipsAudit
