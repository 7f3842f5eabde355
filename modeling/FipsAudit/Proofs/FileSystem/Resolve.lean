import FipsAudit.Proofs.FileSystem.Walk
import FipsAudit.Proofs.PathComponents

/-!
# `FipsAudit.Proofs.FileSystem.Resolve` — paths through a directory

A path that begins with the path of a directory leads through that directory: first to the directory, with all the
links on the way there, and then on by the rest of its names. Behind the directory only the tree below it matters, until
a link or a double dot leads out of it.

* `FileSystem.enter?`, `FileSystem.inside?` — the directory that a path leads to, and what is at and below it.
* `FileSystem.resolve_join` — a longer path goes on from there.
* `Unlinked` — no link stands on a way before its last step.
* `FileSystem.follow_of_unlinked` — such a way is a look-up in the tree below the directory.
-/

namespace FipsAudit

open Text FileSystem

namespace FileSystem

variable {fs : FileSystem} {last : Bool} {links : Nat} {here l : Location} {name : Name} {rest : List Name}

/-! ## One name -/

theorem follow_dot : fs.follow last links here ([Path.dot] :: rest) = fs.follow last links here rest := by
  rw [follow, if_pos rfl]

theorem follow_parent :
    fs.follow last links here ([Path.dot, Path.dot] :: rest) = fs.follow last links here.dropLast rest := by
  rw [follow, if_neg (by decide), if_pos rfl]

theorem follow_tooLong (hdot : name ≠ [Path.dot]) (hdots : name ≠ [Path.dot, Path.dot])
    (hlength : name.length > maxName) : fs.follow last links here (name :: rest) = .error .nameTooLong := by
  rw [follow, if_neg hdot, if_neg hdots, if_pos hlength]

section Step

variable (hdot : name ≠ [Path.dot]) (hdots : name ≠ [Path.dot, Path.dot]) (hlength : ¬name.length > maxName)
include hdot hdots hlength

theorem follow_none (hnode : fs.node? (here ++ [name]) = none) :
    fs.follow last links here (name :: rest) = .error .notFound := by
  rw [follow, if_neg hdot, if_neg hdots, if_neg hlength, hnode]

theorem follow_directory (hnode : fs.node? (here ++ [name]) = some .directory) :
    fs.follow last links here (name :: rest) = fs.follow last links (here ++ [name]) rest := by
  rw [follow, if_neg hdot, if_neg hdots, if_neg hlength, hnode]

theorem follow_file {mode : Nat} {content : ByteArray} (hnode : fs.node? (here ++ [name]) = some (.file mode content)) :
    fs.follow last links here (name :: rest) =
      if rest.isEmpty then .ok (here ++ [name], .file mode content) else .error .notDirectory := by
  rw [follow, if_neg hdot, if_neg hdots, if_neg hlength, hnode]

theorem follow_link {target : Path} (hnode : fs.node? (here ++ [name]) = some (.link target)) :
    fs.follow last links here (name :: rest) =
      if rest.isEmpty && !last then .ok (here ++ [name], .link target)
      else
        match links with
        | 0 => .error .tooManyLinks
        | links + 1 =>
          if target.bytes.isEmpty then .error .notFound
          else fs.follow last links (origin here target) (steps target ++ rest) := by
  cases links <;> rw [follow, if_neg hdot, if_neg hdots, if_neg hlength, hnode]

end Step

/-! ## Through a directory -/

/-- The location, if what was found there is a directory. -/
def directory? : Location × Node → Option Location
  | (l, .directory) => some l
  | _ => none

/-- The directory that names lead to. -/
def directoryAt? (fs : FileSystem) (links : Nat) (here : Location) (names : List Name) : Option Location :=
  (fs.follow true links here names).toOption.bind directory?

/-- **More names go on from the directory that the first ones lead to**, and lead nowhere without one. The links on the
    way to it count for the limit. -/
theorem follow_append (fs : FileSystem) (links : Nat) (here : Location) (names : List Name) :
    ∃ left, ∀ last more, more ≠ [] → (fs.follow last links here (names ++ more)).toOption =
      (fs.directoryAt? links here names).bind fun l => (fs.follow last left l more).toOption := by
  unfold directoryAt?
  induction links, here, names using follow.induct fs true with
  | case1 links here => exact ⟨links, fun last more _ => by simp [follow, Except.toOption, directory?]⟩
  | case2 links here rest ih =>
      obtain ⟨left, hleft⟩ := ih
      refine ⟨left, fun last more hmore => ?_⟩
      rw [List.cons_append, follow_dot, hleft last more hmore, follow_dot]
  | case3 links here rest hdot ih =>
      obtain ⟨left, hleft⟩ := ih
      refine ⟨left, fun last more hmore => ?_⟩
      rw [List.cons_append, follow_parent, hleft last more hmore, follow_parent]
  | case4 links here name rest hdot hdots hlength =>
      refine ⟨links, fun last more _ => ?_⟩
      rw [List.cons_append, follow_tooLong hdot hdots hlength, follow_tooLong hdot hdots hlength]
      rfl
  | case5 links here name rest hdot hdots hlength hnode =>
      refine ⟨links, fun last more _ => ?_⟩
      rw [List.cons_append, follow_none hdot hdots hlength hnode, follow_none hdot hdots hlength hnode]
      rfl
  | case6 links here name rest hdot hdots hlength hnode ih =>
      obtain ⟨left, hleft⟩ := ih
      refine ⟨left, fun last more hmore => ?_⟩
      rw [List.cons_append, follow_directory hdot hdots hlength hnode, hleft last more hmore,
        follow_directory hdot hdots hlength hnode]
  | case7 links here name rest hdot hdots hlength mode content hnode hrest =>
      -- A file is no directory to go on from.
      refine ⟨links, fun last more hmore => ?_⟩
      rw [List.cons_append, follow_file hdot hdots hlength hnode, follow_file hdot hdots hlength hnode, if_pos hrest,
        if_neg (by simp [hmore])]
      rfl
  | case8 links here name rest hdot hdots hlength mode content hnode hrest =>
      refine ⟨links, fun last more hmore => ?_⟩
      rw [List.cons_append, follow_file hdot hdots hlength hnode, follow_file hdot hdots hlength hnode, if_neg hrest,
        if_neg (by simp [hmore])]
      rfl
  | case9 links here name rest hdot hdots hlength target hnode hlast => simp at hlast
  | case10 here name rest hdot hdots hlength target hnode hlast =>
      refine ⟨0, fun last more hmore => ?_⟩
      rw [List.cons_append, follow_link hdot hdots hlength hnode, follow_link hdot hdots hlength hnode, if_neg hlast,
        if_neg (by simp [hmore])]
      rfl
  | case11 here name rest hdot hdots hlength target hnode hlast links htarget =>
      refine ⟨0, fun last more hmore => ?_⟩
      rw [List.cons_append, follow_link hdot hdots hlength hnode, follow_link hdot hdots hlength hnode, if_neg hlast,
        if_neg (by simp [hmore])]
      simp only [htarget, if_true]
      rfl
  | case12 here name rest hdot hdots hlength target hnode hlast links htarget ih =>
      -- The names of the target stand before the rest, and more names follow both.
      obtain ⟨left, hleft⟩ := ih
      refine ⟨left, fun last more hmore => ?_⟩
      rw [List.cons_append, follow_link hdot hdots hlength hnode, follow_link hdot hdots hlength hnode, if_neg hlast,
        if_neg (by simp [hmore])]
      simp only [htarget, if_false, Bool.false_eq_true]
      rw [← List.append_assoc, hleft last more hmore]

/-- The directory that a path leads to, for what is looked up in it. -/
def enter? (fs : FileSystem) (root : Path) : Option Location :=
  fs.directoryAt? maxLinks (origin fs.workingDirectory root) (steps root)

/-- A tree as it is seen from one of its directories, by the names that lead on from it. -/
structure Tree where
  /-- What is there. -/
  node? : Location → Option Node
  /-- Why it cannot be opened. -/
  unopened : Location → Option IoError

/-- What is at and below a location. -/
def treeAt (fs : FileSystem) (l : Location) : Tree where
  node? names := fs.node? (l ++ names)
  unopened names := fs.unopened (l ++ names)

/-- What is at and below the directory that a path leads to. -/
def inside? (fs : FileSystem) (root : Path) : Option Tree := (fs.enter? root).map fs.treeAt

theorem inside?_of_enter? {root : Path} (h : fs.enter? root = some l) : fs.inside? root = some (fs.treeAt l) := by
  rw [inside?, h]
  rfl

/-- The names of a path. -/
def names (p : Path) : List Name := (pieces Path.slash p.bytes).filter (· ≠ [])

/-- A slash at the end of a path makes no difference to the directory that it leads to. -/
theorem directoryAt?_steps (fs : FileSystem) (here : Location) (p : Path) :
    fs.directoryAt? maxLinks here (steps p) = fs.directoryAt? maxLinks here (names p) := by
  show fs.directoryAt? maxLinks here (names p ++ _) = _
  split
  · obtain ⟨left, hleft⟩ := fs.follow_append maxLinks here (names p)
    have hdot (l : Location) : fs.follow true left l [[Path.dot]] = .ok (l, .directory) := by
      rw [follow_dot, follow]
    rw [directoryAt?, hleft true _ (List.cons_ne_nil _ _)]
    cases fs.directoryAt? maxLinks here (names p) with
    | none => rfl
    | some l =>
        rw [Option.bind_some, hdot]
        rfl
  · rw [List.append_nil]

/-- Every path has a step. -/
theorem steps_ne_nil (p : Path) : steps p ≠ [] := by
  intro h
  obtain ⟨hnames, hslash⟩ := List.append_eq_nil_iff.mp h
  obtain ⟨part, hlast⟩ : ∃ part, (pieces Path.slash p.bytes).getLast? = some part :=
    Option.isSome_iff_exists.mp (List.getLast?_isSome.mpr (pieces_ne_nil _ _))
  have hempty : part = [] := by
    simpa using List.filter_eq_nil_iff.mp hnames part (List.mem_of_getLast? hlast)
  rw [hlast, hempty, if_pos rfl] at hslash
  exact List.cons_ne_nil _ _ hslash

/-- The steps of a joined path are the names of the first path and the steps of the second. -/
theorem steps_join {p q : Path} (hq : q.isAbsolute = false) : steps (p.join q) = names p ++ steps q := by
  obtain ⟨parts, hjoin, hparts, -⟩ := Path.pieces_join (p := p) hq
  have hnames : parts.filter (· ≠ []) = names p := by
    rcases hparts with hparts | hparts
    · rw [names, hparts]
    · rw [names, hparts, List.filter_append]
      exact (List.append_nil _).symm
  have hlast : (parts ++ pieces Path.slash q.bytes).getLast? = (pieces Path.slash q.bytes).getLast? := by
    rw [List.getLast?_append, Option.or_of_isSome (List.getLast?_isSome.mpr (pieces_ne_nil _ _))]
  rw [steps, hjoin, List.filter_append, hnames, hlast, List.append_assoc]
  rfl

/-- A joined path starts where its first part does. -/
theorem origin_join {p q : Path} (hq : q.isAbsolute = false) (cwd : Location) :
    origin cwd (p.join q) = origin cwd p := by
  rw [origin, origin, Path.isAbsolute_join hq]

/-- The system takes the path for one: it is neither empty nor too long, and holds no zero byte. -/
def isSound (p : Path) : Bool := !p.bytes.contains 0 && !p.bytes.isEmpty && p.bytes.length < maxPath

theorem toOption_resolve (fs : FileSystem) (last : Bool) (p : Path) :
    (fs.resolve last p).toOption =
      if isSound p then (fs.follow last maxLinks (origin fs.workingDirectory p) (steps p)).toOption else none := by
  have hsound : isSound p = true ↔ ¬0 ∈ p.bytes ∧ ¬p.bytes.isEmpty = true ∧ ¬p.bytes.length ≥ maxPath := by
    simp [isSound, and_assoc]
  by_cases h : isSound p = true
  · obtain ⟨hzero, hempty, hlength⟩ := hsound.mp h
    rw [resolve, if_neg hzero, if_neg hempty, if_neg hlength, if_pos h]
  · rw [if_neg h, resolve]
    split
    · rfl
    · split
      · rfl
      · split
        · rfl
        · exact absurd (hsound.mpr ⟨‹_›, ‹_›, ‹_›⟩) h

/-- **A path through a directory goes on from the directory.** -/
theorem resolve_join (fs : FileSystem) (root : Path) {q : Path} (hq : q.isAbsolute = false) :
    ∃ left, ∀ last, (fs.resolve last (root.join q)).toOption =
      if isSound (root.join q) then (fs.enter? root).bind fun l => (fs.follow last left l (steps q)).toOption
      else none := by
  obtain ⟨left, hleft⟩ := fs.follow_append maxLinks (origin fs.workingDirectory root) (names root)
  refine ⟨left, fun last => ?_⟩
  rw [toOption_resolve, steps_join hq, origin_join hq, hleft last _ (steps_ne_nil q), enter?, directoryAt?_steps]

/-! ## Without links -/

/-- No link stands on a way through the tree before its last step. -/
def Unlinked (tree : Tree) : (here : Location) → (way : List Name) → Prop
  | _, [] => True
  | here, name :: rest =>
    if name = [Path.dot] then Unlinked tree here rest
    else (rest ≠ [] → ∀ target, tree.node? (here ++ [name]) ≠ some (.link target)) ∧ Unlinked tree (here ++ [name]) rest

/-- What a way through the tree leads to when nothing is followed. -/
def lookUp? (tree : Tree) : (here : Location) → (way : List Name) → Option (Location × Node)
  | here, [] => some (here, .directory)
  | here, name :: rest =>
    if name = [Path.dot] then lookUp? tree here rest
    else if name.length > maxName then none
    else
      match tree.node? (here ++ [name]) with
      | some .directory => lookUp? tree (here ++ [name]) rest
      | some node => if rest.isEmpty then some (here ++ [name], node) else none
      | none => none

/-- **A way without links is a look-up in the tree below its start**, however many links may still be followed. -/
theorem follow_of_unlinked (links : Nat) {here : Location} {way : List Name} (h : Unlinked (fs.treeAt l) here way)
    (hparent : [Path.dot, Path.dot] ∉ way) :
    (fs.follow false links (l ++ here) way).toOption =
      (lookUp? (fs.treeAt l) here way).map fun found => (l ++ found.1, found.2) := by
  induction way generalizing here with
  | nil =>
      rw [follow]
      rfl
  | cons name rest ih =>
      have hdots : name ≠ [Path.dot, Path.dot] := fun heq => hparent (heq ▸ List.mem_cons_self)
      have hrest : [Path.dot, Path.dot] ∉ rest := fun hmem => hparent (List.mem_cons_of_mem name hmem)
      rw [Unlinked] at h
      rw [lookUp?]
      by_cases hdot : name = [Path.dot]
      · rw [if_pos hdot] at h ⊢
        rw [hdot, follow_dot, ih h hrest]
      · rw [if_neg hdot] at h ⊢
        obtain ⟨hlink, hunlinked⟩ := h
        by_cases hlength : name.length > maxName
        · rw [if_pos hlength, follow_tooLong hdot hdots hlength]
          rfl
        · have hplace : l ++ here ++ [name] = l ++ (here ++ [name]) := List.append_assoc _ _ _
          rw [if_neg hlength]
          cases hnode : (fs.treeAt l).node? (here ++ [name]) with
          | none =>
              have hfound : fs.node? (l ++ here ++ [name]) = none := hplace ▸ hnode
              rw [follow_none hdot hdots hlength hfound]
              rfl
          | some node =>
              have hfound : fs.node? (l ++ here ++ [name]) = some node := hplace ▸ hnode
              cases node with
              | directory => rw [follow_directory hdot hdots hlength hfound, hplace, ih hunlinked hrest]
              | file mode content =>
                  rw [follow_file hdot hdots hlength hfound, hplace]
                  cases rest <;> rfl
              | link target =>
                  have hend : rest = [] := Classical.byContradiction fun hne => hlink hne target hnode
                  rw [follow_link hdot hdots hlength hfound, hplace, hend]
                  rfl

/-- The names by which a path leads on, without dots. -/
def place (p : Path) : Location := (steps p).filter (· ≠ [Path.dot])

/-- Directories lead to a place in the tree, and it is one itself. -/
def Straight (tree : Tree) (names : Location) : Prop :=
  ∀ before, before ≠ [] → before <+: names → tree.node? before = some .directory

/-- **A directory that is looked up is reached through directories**, by the names on the way. -/
theorem lookUp?_directory {tree : Tree} {here : Location} {way : List Name} {found : Location}
    (h : lookUp? tree here way = some (found, .directory)) (hhere : Straight tree here) :
    found = here ++ way.filter (· ≠ [Path.dot]) ∧ Straight tree found := by
  induction way generalizing here with
  | nil =>
      obtain ⟨rfl, -⟩ := Prod.mk.inj (Option.some.inj h)
      exact ⟨by simp, hhere⟩
  | cons name rest ih =>
      rw [lookUp?] at h
      by_cases hdot : name = [Path.dot]
      · rw [if_pos hdot] at h
        rw [List.filter_cons_of_neg (by simp [hdot])]
        exact ih h hhere
      · rw [if_neg hdot] at h
        rw [List.filter_cons_of_pos (by simp [hdot]), List.append_cons]
        split at h
        next => contradiction
        next =>
          split at h
          next hnode =>
            refine ih h fun before hne hprefix => ?_
            rcases List.prefix_concat_iff.mp hprefix with rfl | hprefix
            · exact hnode
            · exact hhere before hne hprefix
          next node hnot hnode =>
            -- What stands at the end of the way is the node, and that is no directory.
            split at h
            next => exact absurd (Prod.mk.inj (Option.some.inj h)).2 hnot
            next => contradiction
          next => contradiction

/-! ## The entries of a directory -/

/-- Where no key occurs twice, a key is looked up exactly if it is listed. -/
theorem lookup_eq_some_iff {α β : Type} [BEq α] [LawfulBEq α] {entries : List (α × β)} {a : α} {b : β}
    (h : (entries.map (·.1)).Nodup) : entries.lookup a = some b ↔ (a, b) ∈ entries := by
  induction entries with
  | nil => simp
  | cons entry entries ih =>
      obtain ⟨key, value⟩ := entry
      rw [List.map_cons, List.nodup_cons] at h
      obtain ⟨hkey, hrest⟩ := h
      rw [List.lookup_cons, List.mem_cons, ← ih hrest]
      by_cases hsame : a = key
      · subst hsame
        have hnone : entries.lookup a = none := by
          rw [List.lookup_eq_none_iff]
          intro entry hentry
          exact bne_iff_ne.mpr fun heq => hkey (List.mem_map.mpr ⟨entry, hentry, heq.symm⟩)
        simp [hnone, eq_comm]
      · simp [hsame, beq_eq_false_iff_ne.mpr hsame]

/-- A directory lists what stands one name further down. -/
theorem mem_children_iff {node : Node} : (name, node) ∈ fs.children l ↔ fs.node? (l ++ [name]) = some node := by
  rw [mem_children, node?, if_neg (by simp)]
  exact (lookup_eq_some_iff fs.nodup).symm

/-- A directory lists nothing twice. -/
theorem nodup_children (fs : FileSystem) (l : Location) : (fs.children l).Nodup := by
  have hentries : fs.entries.Pairwise fun e e' => e.1 ≠ e'.1 := List.pairwise_map.mp fs.nodup
  have hbelow : (fs.below l).Pairwise fun e e' => e.1 ≠ e'.1 := by
    refine List.Pairwise.filterMap _ (fun e e' hne b hb b' hb' => ?_) hentries
    split at hb
    next n ns hnames =>
      split at hb'
      next n' ns' hnames' =>
        cases hb
        cases hb'
        rw [namesBelow?_eq_some.mp hnames, namesBelow?_eq_some.mp hnames'] at hne
        exact fun heq => hne (congrArg (l ++ ·) heq)
      next => contradiction
    next => contradiction
  refine List.Pairwise.filterMap _ (fun e e' hne b hb b' hb' heq => ?_) hbelow
  split at hb
  next n hone =>
    split at hb'
    next n' hone' =>
      cases hb
      cases hb'
      rw [hone, hone'] at hne
      exact hne (congrArg (fun e => [e.1]) heq)
    next => contradiction
  next => contradiction

/-- Directories that are the same to look at list the same, perhaps in another order. -/
theorem children_perm {fs' : FileSystem} {l' : Location}
    (h : ∀ name, fs.node? (l ++ [name]) = fs'.node? (l' ++ [name])) : (fs.children l).Perm (fs'.children l') := by
  rw [List.perm_ext_iff_of_nodup (fs.nodup_children l) (fs'.nodup_children l')]
  rintro ⟨name, node⟩
  rw [mem_children_iff, mem_children_iff, h]

end FileSystem

end FipsAudit
