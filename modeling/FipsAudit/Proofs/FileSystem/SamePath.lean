import FipsAudit.Proofs.FileSystem.Resolve
import FipsAudit.Proofs.PathNames

/-!
# `FipsAudit.Proofs.FileSystem.SamePath` — paths with the same components lead to the same place

A path is followed by its parts, and the parts that do not count make no difference on the way. At the end of a path
they do: a slash or a dot there asks for a directory. So of two paths with the same components that both end in a name,
each leads where the other does.

* `FileSystem.follow_filter` — dots on the way make no difference.
* `FileSystem.EndsInName` — the paths that ask for no directory; those of files are such, `endsInName_of_resolve`.
* `FileSystem.resolve_of_components` — such paths with the same components lead to the same place.
* `FileSystem.resolve_resolveUnder_root` — the path of a file leads to it under the root directory too.
* `FileSystem.read_resolveUnder_root` — and what reading it comes to is the same.
-/

namespace FipsAudit.FileSystem

open Text

variable {fs : FileSystem} {last : Bool} {l : Location} {p q : Path}

/-! ## Dots on the way -/

/-- Whether the last name to follow is a dot; there may be none. -/
def EndsInDot (todo : List Name) : Prop := todo.getLast? = some [Path.dot]

theorem not_endsInDot_tail {name : Name} {rest : List Name} (h : ¬EndsInDot (name :: rest)) : ¬EndsInDot rest := by
  intro hrest
  apply h
  cases rest with
  | nil => cases hrest
  | cons next rest =>
      rw [EndsInDot, List.getLast?_cons_cons]
      exact hrest

theorem filter_eq_nil_iff {rest : List Name} (h : ¬EndsInDot rest) :
    rest.filter (· ≠ [Path.dot]) = [] ↔ rest = [] := by
  refine ⟨fun hfilter => ?_, fun hnil => by rw [hnil]; rfl⟩
  cases hlast : rest.getLast? with
  | none => exact List.getLast?_eq_none_iff.mp hlast
  | some name =>
      have hdot : name = [Path.dot] := by
        simpa using List.filter_eq_nil_iff.mp hfilter name (List.mem_of_getLast? hlast)
      rw [hdot] at hlast
      exact absurd hlast h

theorem endsInDot_append {front rest : List Name} (hrest : rest ≠ []) : EndsInDot (front ++ rest) ↔ EndsInDot rest := by
  rw [EndsInDot, EndsInDot, List.getLast?_append, Option.or_of_isSome (List.getLast?_isSome.mpr hrest)]

theorem not_endsInDot_filter (todo : List Name) : ¬EndsInDot (todo.filter (· ≠ [Path.dot])) := by
  intro hlast
  have hmem := List.mem_of_getLast? hlast
  simp at hmem

/-- **Dots on the way make no difference** unless the way ends in one. -/
theorem follow_filter (fs : FileSystem) (last : Bool) (links : Nat) (here : Location) {todo : List Name}
    (h : ¬EndsInDot todo) :
    fs.follow last links here todo = fs.follow last links here (todo.filter (· ≠ [Path.dot])) := by
  -- A link brings its own names along, and leaves one link less.
  induction links using Nat.strongRecOn generalizing here todo with
  | ind links ihlinks =>
      induction todo generalizing here with
      | nil => rfl
      | cons name rest ih =>
          have hrest := not_endsInDot_tail h
          by_cases hdot : name = [Path.dot]
          · rw [hdot, follow_dot, List.filter_cons_of_neg (by simp), ih here hrest]
          rw [List.filter_cons_of_pos (by simpa using hdot)]
          by_cases hdots : name = [Path.dot, Path.dot]
          · rw [hdots, follow_parent, follow_parent, ih here.dropLast hrest]
          by_cases hlength : name.length > maxName
          · rw [follow_tooLong hdot hdots hlength, follow_tooLong hdot hdots hlength]
          have hempty : (rest.filter (· ≠ [Path.dot])).isEmpty = rest.isEmpty := by
            rw [Bool.eq_iff_iff, List.isEmpty_iff, List.isEmpty_iff]
            exact filter_eq_nil_iff hrest
          cases hnode : fs.node? (here ++ [name]) with
          | none => rw [follow_none hdot hdots hlength hnode, follow_none hdot hdots hlength hnode]
          | some node =>
              cases node with
              | directory =>
                  rw [follow_directory hdot hdots hlength hnode, follow_directory hdot hdots hlength hnode, ih _ hrest]
              | file mode content =>
                  rw [follow_file hdot hdots hlength hnode, follow_file hdot hdots hlength hnode, hempty]
              | link target =>
                  rw [follow_link hdot hdots hlength hnode, follow_link hdot hdots hlength hnode, hempty]
                  cases links with
                  | zero => rfl
                  | succ links =>
                      dsimp only
                      split
                      next => rfl
                      next =>
                        split
                        next => rfl
                        next =>
                          by_cases hnil : rest = []
                          · rw [hnil, List.filter_nil]
                          · have hwhole : ¬EndsInDot (steps target ++ rest) := mt (endsInDot_append hnil).mp hrest
                            have hfiltered := mt (filter_eq_nil_iff hrest).mp hnil
                            have hshort : ¬EndsInDot (steps target ++ rest.filter (· ≠ [Path.dot])) :=
                              mt (endsInDot_append hfiltered).mp (not_endsInDot_filter rest)
                            rw [ihlinks links (Nat.lt_succ_self links) _ hwhole,
                              ihlinks links (Nat.lt_succ_self links) _ hshort, List.filter_append, List.filter_append,
                              List.filter_filter]
                            simp only [Bool.and_self]

/-! ## Paths that end in a name -/

/-- The last part of the path counts: neither a slash nor a dot asks for a directory. -/
def EndsInName (p : Path) : Prop :=
  ∃ name, (pieces Path.slash p.bytes).getLast? = some name ∧ Path.isIdle name = false

/-- The names to follow for such a path, without the dots, are its parts that count. -/
theorem steps_of_endsInName (h : EndsInName p) :
    ¬EndsInDot (steps p) ∧ (steps p).filter (· ≠ [Path.dot]) = p.named := by
  obtain ⟨name, hlast, hcounts⟩ := h
  obtain ⟨hempty, hdot⟩ := Path.isIdle_eq_false_iff.mp hcounts
  have hsteps : steps p = (pieces Path.slash p.bytes).filter (· ≠ []) := by
    rw [steps, hlast, if_neg (by simpa using hempty), List.append_nil]
  rw [hsteps]
  constructor
  · -- The last part is not among those that are left out.
    obtain ⟨front, hfront⟩ := List.getLast?_eq_some_iff.mp hlast
    rw [hfront, List.filter_append, List.filter_cons_of_pos (by simpa using hempty), EndsInDot,
      List.filter_nil, List.getLast?_append_cons]
    simpa using hdot
  · rw [List.filter_filter, Path.named, Path.counting]
    refine List.filter_congr fun part _ => ?_
    rw [Bool.eq_iff_iff]
    simp [Path.isIdle, and_comm]

theorem ne_nil_of_endsInName (h : EndsInName p) : p.bytes ≠ [] := by
  obtain ⟨name, hlast, hcounts⟩ := h
  intro hnil
  rw [hnil, pieces_nil] at hlast
  obtain rfl := Option.some.inj hlast
  cases hcounts

/-- A zero byte is in a path exactly if it is in a part that counts: it is neither a slash nor a dot. -/
theorem zero_mem_iff (p : Path) : 0 ∈ p.bytes ↔ ∃ part ∈ p.named, 0 ∈ part := by
  have hseparated := pieces_eq_iff.mp (rfl : pieces Path.slash p.bytes = _)
  constructor
  · intro h
    rcases hseparated.eq_or_mem h with hslash | ⟨part, hpart, hzero⟩
    · cases hslash
    · have hcounts : Path.isIdle part = false := by
        refine Path.isIdle_eq_false_iff.mpr ⟨?_, ?_⟩
        · rintro rfl
          cases hzero
        · rintro rfl
          exact absurd (List.mem_singleton.mp hzero) (by decide)
      exact ⟨part, Path.mem_counting_iff.mpr ⟨hpart, hcounts⟩, hzero⟩
  · rintro ⟨part, hpart, hzero⟩
    exact hseparated.mem_of_mem (Path.mem_counting_iff.mp hpart).1 hzero

/-- **Paths with the same components lead to the same place**, if they end in a name and are not too long. -/
theorem resolve_of_components (fs : FileSystem) (last : Bool) (h : p.components = q.components) (hp : EndsInName p)
    (hq : EndsInName q) (hplength : p.bytes.length < maxPath) (hqlength : q.bytes.length < maxPath) :
    fs.resolve last p = fs.resolve last q := by
  obtain ⟨hlead, hnamed⟩ := Path.components_eq_iff.mp h
  have habsolute : p.isAbsolute = q.isAbsolute := by
    rw [Bool.eq_iff_iff, Path.isAbsolute_iff, Path.isAbsolute_iff, hlead]
  have hzero : 0 ∈ p.bytes ↔ 0 ∈ q.bytes := by rw [zero_mem_iff, zero_mem_iff, hnamed]
  obtain ⟨hpend, hpsteps⟩ := steps_of_endsInName hp
  obtain ⟨hqend, hqsteps⟩ := steps_of_endsInName hq
  have hpempty : ¬p.bytes.isEmpty = true := mt List.isEmpty_iff.mp (ne_nil_of_endsInName hp)
  have hqempty : ¬q.bytes.isEmpty = true := mt List.isEmpty_iff.mp (ne_nil_of_endsInName hq)
  rw [resolve, resolve, if_neg hpempty, if_neg hqempty, if_neg (Nat.not_le_of_lt hplength),
    if_neg (Nat.not_le_of_lt hqlength), follow_filter fs last _ _ hpend, follow_filter fs last _ _ hqend, hpsteps,
    hqsteps, hnamed, origin, origin, habsolute]
  simp only [hzero]

/-! ## Into a root -/

/-- A joined path ends as its second part does. -/
theorem EndsInName.join (hq : EndsInName q) (hrelative : q.isAbsolute = false) : EndsInName (p.join q) := by
  obtain ⟨name, hlast, hcounts⟩ := hq
  obtain ⟨parts, hjoin, -, -⟩ := Path.pieces_join (p := p) hrelative
  refine ⟨name, ?_, hcounts⟩
  rw [hjoin, List.getLast?_append, hlast, Option.some_or]

/-- What is left of parts ends in the last one that counts. -/
theorem endsInName_ofParts {parts : List (List UInt8)} (h : ∀ part ∈ parts, Path.slash ∉ part)
    (hcounts : Path.counting parts ≠ []) : EndsInName (Path.ofParts parts) := by
  have hkept : Path.counting (Path.trimParts (parts.dropWhile Path.isIdle)) ≠ [] := by
    rwa [Path.counting_trimParts, Path.counting_dropWhile]
  have htrimmed : Path.trimParts (parts.dropWhile Path.isIdle) ≠ [] := by
    intro hnil
    rw [hnil] at hkept
    exact hkept rfl
  have hpieces : pieces Path.slash (Path.ofParts parts).bytes = Path.trimParts (parts.dropWhile Path.isIdle) := by
    refine Path.pieces_unpieces htrimmed fun part hpart => h part ?_
    exact (List.dropWhile_suffix _).subset (Path.mem_of_mem_trimParts hpart)
  obtain ⟨name, hlast⟩ := Option.isSome_iff_exists.mp (List.getLast?_isSome.mpr htrimmed)
  refine ⟨name, by rw [hpieces, hlast], ?_⟩
  -- The idle parts at the end were left out.
  have hfirst := List.head?_dropWhile_not Path.isIdle (parts.dropWhile Path.isIdle).reverse
  rw [Path.trimParts, List.getLast?_reverse] at hlast
  rw [hlast] at hfirst
  exact hfirst

/-- A path that ends in a name does so inside a root. -/
theorem EndsInName.resolveUnder (h : EndsInName p) (root : Path) : EndsInName (root.resolveUnder p) := by
  rw [Path.resolveUnder_eq]
  refine EndsInName.join ?_ (Path.isAbsolute_inside p)
  by_cases habsolute : p.isAbsolute = true
  · rw [Path.inside_of_isAbsolute habsolute]
    refine endsInName_ofParts (fun part hpart => Path.not_mem_of_mem_split hpart) ?_
    obtain ⟨name, hlast, hcounts⟩ := h
    have hmem : name ∈ p.named := Path.mem_counting_iff.mpr ⟨List.mem_of_getLast? hlast, hcounts⟩
    rw [Path.counting_split]
    exact List.ne_nil_of_mem hmem
  · rw [Path.inside_of_not_isAbsolute (Bool.not_eq_true _ ▸ habsolute)]
    exact h

/-- Parts are joined to no more bytes when some of them are left out. -/
theorem length_unpieces_le (sep : UInt8) {parts kept : List (List UInt8)} (h : kept.Sublist parts) :
    (unpieces sep kept).length ≤ (unpieces sep parts).length := by
  have hcons (part : List UInt8) (rest : List (List UInt8)) :
      (unpieces sep (part :: rest)).length =
        if rest = [] then part.length else part.length + 1 + (unpieces sep rest).length := by
    cases rest with
    | nil => rfl
    | cons next rest =>
        rw [if_neg (List.cons_ne_nil next rest), unpieces, List.length_append, List.length_cons]
        omega
  induction h with
  | slnil => exact Nat.le_refl _
  | @cons kept rest part hsub ih =>
      rw [hcons]
      split
      next hnil =>
        rw [hnil] at ih
        exact Nat.le_trans ih (Nat.zero_le _)
      next => omega
  | @cons_cons kept rest part hsub ih =>
      rw [hcons, hcons]
      by_cases hrest : rest = []
      · have hkept : kept = [] := by
          rw [hrest] at hsub
          exact List.sublist_nil.mp hsub
        exact Nat.le_of_eq (by rw [if_pos hrest, if_pos hkept])
      · rw [if_neg hrest]
        split
        next => omega
        next => omega

/-- Under the root directory an absolute path gets no longer. -/
theorem length_resolveUnder_root_le (h : p.isAbsolute = true) :
    (Path.rootDirectory.resolveUnder p).bytes.length ≤ p.bytes.length := by
  obtain ⟨bytes⟩ := p
  cases bytes with
  | nil => cases h
  | cons b r =>
      obtain rfl : b = Path.slash := by simpa [Path.isAbsolute] using h
      have hkept : (Path.insideParts ⟨Path.slash :: r⟩).Sublist (pieces Path.slash r) := by
        have hbody := (List.dropWhile_suffix (l := pieces Path.slash r) Path.isIdle).sublist
        have htrimmed := (List.dropWhile_suffix
          (l := ((pieces Path.slash r).dropWhile Path.isIdle).reverse) Path.isIdle).sublist.reverse
        rw [List.reverse_reverse] at htrimmed
        exact htrimmed.trans hbody
      have hle := length_unpieces_le Path.slash hkept
      rw [unpieces_pieces] at hle
      rw [Path.resolveUnder_eq, Path.join_of_not_isAbsolute (Path.isAbsolute_inside _), Path.inside_of_isAbsolute h]
      exact Nat.succ_le_succ hle

/-! ## The paths of files -/

/-- A way that ends in a dot leads to a directory, if to anything. -/
theorem eq_directory_of_concat_dot {links : Nat} {here : Location} {todo : List Name} {node : Node}
    (h : fs.follow last links here (todo ++ [[Path.dot]]) = .ok (l, node)) : node = .directory := by
  obtain ⟨left, hleft⟩ := fs.follow_append links here todo
  have hfound := hleft last [[Path.dot]] (List.cons_ne_nil _ _)
  rw [h] at hfound
  cases hdirectory : fs.directoryAt? links here todo with
  | none =>
      rw [hdirectory] at hfound
      cases hfound
  | some place =>
      rw [hdirectory, Option.bind_some, follow_dot, follow] at hfound
      exact (Prod.mk.inj (Option.some.inj hfound)).2

/-- The names to follow for any other path end in a dot. -/
theorem steps_of_not_endsInName (h : ¬EndsInName p) : ∃ todo, steps p = todo ++ [[Path.dot]] := by
  obtain ⟨part, hlast⟩ : ∃ part, (pieces Path.slash p.bytes).getLast? = some part :=
    Option.isSome_iff_exists.mp (List.getLast?_isSome.mpr (pieces_ne_nil _ _))
  rw [steps]
  by_cases hempty : part = []
  · rw [hlast, hempty, if_pos rfl]
    exact ⟨_, rfl⟩
  · have hdot : part = [Path.dot] := by
      by_contra hcounts
      exact h ⟨part, hlast, Path.isIdle_eq_false_iff.mpr ⟨hempty, hcounts⟩⟩
    obtain ⟨front, hfront⟩ := List.getLast?_eq_some_iff.mp hlast
    refine ⟨front.filter (· ≠ []), ?_⟩
    rw [hlast, if_neg (by simpa using hempty), List.append_nil, hfront, List.filter_append, hdot]
    rfl

/-- What a path is when it leads to something. -/
theorem resolve_eq_ok {found : Location × Node} (h : fs.resolve last p = .ok found) :
    p.bytes.length < maxPath ∧ fs.follow last maxLinks (origin fs.workingDirectory p) (steps p) = .ok found := by
  rw [resolve] at h
  split at h
  next => cases h
  next =>
    split at h
    next => cases h
    next =>
      split at h
      next => cases h
      next hlength => exact ⟨Nat.lt_of_not_le hlength, h⟩

/-- **The path of anything but a directory ends in a name.** -/
theorem endsInName_of_resolve {node : Node} (h : fs.resolve last p = .ok (l, node)) (hnode : node ≠ .directory) :
    EndsInName p := by
  by_contra hnot
  obtain ⟨todo, hsteps⟩ := steps_of_not_endsInName hnot
  obtain ⟨-, hfollow⟩ := resolve_eq_ok h
  rw [hsteps] at hfollow
  exact hnode (eq_directory_of_concat_dot hfollow)

/-- An absolute path keeps its components under the root directory. -/
theorem components_resolveUnder_root (h : p.isAbsolute = true) :
    (Path.rootDirectory.resolveUnder p).components = p.components := by
  obtain ⟨-, hcomponents⟩ := Path.components_inside h
  have hroot : Path.rootDirectory.components = [.root] := by decide
  rw [Path.components_resolveUnder _ h, hroot, hcomponents, List.tail_cons, List.singleton_append]

/-- **The path of a file leads to it under the root directory too.** -/
theorem resolve_resolveUnder_root {node : Node} (h : fs.resolve last p = .ok (l, node)) (hnode : node ≠ .directory)
    (habsolute : p.isAbsolute = true) : fs.resolve last (Path.rootDirectory.resolveUnder p) = .ok (l, node) := by
  have hend := endsInName_of_resolve h hnode
  obtain ⟨hlength, -⟩ := resolve_eq_ok h
  have hshorter := Nat.lt_of_le_of_lt (length_resolveUnder_root_le habsolute) hlength
  rw [fs.resolve_of_components last (components_resolveUnder_root habsolute) (hend.resolveUnder _) hend hshorter
    hlength, h]

/-- A path leads to a regular file exactly if that stands at its end. -/
theorem isFile_iff : fs.isFile p = true ↔ ∃ l mode content, fs.resolve true p = .ok (l, .file mode content) := by
  rw [isFile, status]
  cases hresolve : fs.resolve true p with
  | error e => simp [Except.map, Except.toOption]
  | ok found =>
      obtain ⟨l, node⟩ := found
      cases node <;> simp [Except.map, Except.toOption, Node.isFile]

/-- **A file is read under the root directory as at its own path**, or cannot be read for the same reason. -/
theorem read_resolveUnder_root (hfile : fs.isFile p = true) (habsolute : p.isAbsolute = true) :
    fs.read (Path.rootDirectory.resolveUnder p) = fs.read p := by
  obtain ⟨l, mode, content, hresolve⟩ := isFile_iff.mp hfile
  have hnode : Node.file mode content ≠ .directory := by
    intro h
    cases h
  rw [read, read, opened, opened, hresolve, resolve_resolveUnder_root hresolve hnode habsolute]

end FipsAudit.FileSystem
