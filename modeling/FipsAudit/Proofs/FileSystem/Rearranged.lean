import FipsAudit.Proofs.FileSystem.Resolve
import FipsAudit.Session
import Mathlib.Data.List.Perm.Basic

/-!
# `FipsAudit.Proofs.FileSystem.Rearranged` — directories that list their entries in another order

A system lists the entries of a directory in an order of its own, and it may be another one the next time or on
another machine. Two trees of files are the same but for that order if every directory has the same entries, and the
system refuses the same of them. Then a path leads to the same node in both, what is written to both leaves them the
same again, and their walks come to the same items.

* `Rearranged` — the same tree, listed in another order.
* `rearranged_iff` — that is to say that the same node stands at every location.
* `Rearranged.resolve`, `Rearranged.read` — paths lead to the same nodes.
* `Rearranged.createIn` — what is made in both leaves them rearranged.
* `Rearranged.walk` — the walks come to the same items in two orders.
-/

namespace FipsAudit.FileSystem

variable {fs fs' : FileSystem}

/-- **The same tree, listed in another order.** -/
structure Rearranged (fs fs' : FileSystem) : Prop where
  /-- Every directory has the same entries. -/
  children : ∀ d, (fs.children d).Perm (fs'.children d)
  /-- Relative paths start at the same place. -/
  workingDirectory : fs.workingDirectory = fs'.workingDirectory
  /-- The same cannot be opened. -/
  unopened : fs.unopened = fs'.unopened
  /-- The same cannot be read. -/
  unread : fs.unread = fs'.unread

/-! ## Nodes -/

/-- The order of the entries makes no difference to what stands at a location. -/
theorem Rearranged.node? (h : fs.Rearranged fs') (l : Location) : fs.node? l = fs'.node? l := by
  rcases List.eq_nil_or_concat l with rfl | ⟨d, name, rfl⟩
  · rfl
  · apply Option.ext
    intro node
    rw [List.concat_eq_append, ← mem_children_iff, ← mem_children_iff]
    exact (h.children d).mem_iff

/-- **Trees are rearranged exactly if the same node stands at every location**, and all but the entries is the same. -/
theorem rearranged_iff :
    fs.Rearranged fs' ↔ (∀ l, fs.node? l = fs'.node? l) ∧ fs.workingDirectory = fs'.workingDirectory ∧
      fs.unopened = fs'.unopened ∧ fs.unread = fs'.unread := by
  constructor
  · intro h
    exact ⟨h.node?, h.workingDirectory, h.unopened, h.unread⟩
  · rintro ⟨hnode, hworking, hunopened, hunread⟩
    exact ⟨fun d => children_perm fun name => hnode (d ++ [name]), hworking, hunopened, hunread⟩

theorem Rearranged.symm (h : fs.Rearranged fs') : fs'.Rearranged fs :=
  ⟨fun d => (h.children d).symm, h.workingDirectory.symm, h.unopened.symm, h.unread.symm⟩

/-- A table in another order is one way to list a tree in another order. -/
theorem rearranged_of_perm (h : fs.entries.Perm fs'.entries) (hworking : fs.workingDirectory = fs'.workingDirectory)
    (hunopened : fs.unopened = fs'.unopened) (hunread : fs.unread = fs'.unread) : fs.Rearranged fs' := by
  refine rearranged_iff.mpr ⟨fun l => ?_, hworking, hunopened, hunread⟩
  rw [FileSystem.node?, FileSystem.node?]
  congr 1
  apply Option.ext
  intro node
  rw [lookup_eq_some_iff fs.nodup, lookup_eq_some_iff fs'.nodup]
  exact h.mem_iff

/-! ## Paths -/

/-- **Names lead to the same node.** -/
theorem Rearranged.follow (h : fs.Rearranged fs') (last : Bool) (links : Nat) (here : Location) (todo : List Name) :
    fs.follow last links here todo = fs'.follow last links here todo := by
  have hsame {l : Location} {found : Option Node} (hnode : fs.node? l = found) : fs'.node? l = found :=
    (h.node? l).symm.trans hnode
  -- One case for each way to go on from a name.
  induction links, here, todo using FileSystem.follow.induct fs last with
  | case1 links here => rw [FileSystem.follow, FileSystem.follow]
  | case2 links here rest ih => rw [follow_dot, follow_dot, ih]
  | case3 links here rest hdots ih => rw [follow_parent, follow_parent, ih]
  | case4 links here name rest hdot hdots hlength =>
      rw [follow_tooLong hdot hdots hlength, follow_tooLong hdot hdots hlength]
  | case5 links here name rest hdot hdots hlength hnode =>
      rw [follow_none hdot hdots hlength hnode, follow_none hdot hdots hlength (hsame hnode)]
  | case6 links here name rest hdot hdots hlength hnode ih =>
      rw [follow_directory hdot hdots hlength hnode, follow_directory hdot hdots hlength (hsame hnode), ih]
  | case7 links here name rest hdot hdots hlength mode content hnode =>
      rw [follow_file hdot hdots hlength hnode, follow_file hdot hdots hlength (hsame hnode)]
  | case8 links here name rest hdot hdots hlength mode content hnode =>
      rw [follow_file hdot hdots hlength hnode, follow_file hdot hdots hlength (hsame hnode)]
  | case9 links here name rest hdot hdots hlength target hnode hlast =>
      rw [follow_link hdot hdots hlength hnode, follow_link hdot hdots hlength (hsame hnode), if_pos hlast,
        if_pos hlast]
  | case10 here name rest hdot hdots hlength target hnode hlast =>
      rw [follow_link hdot hdots hlength hnode, follow_link hdot hdots hlength (hsame hnode)]
  | case11 here name rest hdot hdots hlength target hnode hlast links htarget =>
      rw [follow_link hdot hdots hlength hnode, follow_link hdot hdots hlength (hsame hnode), if_neg hlast,
        if_neg hlast]
      simp only [htarget, if_true]
  | case12 here name rest hdot hdots hlength target hnode hlast links htarget ih =>
      rw [follow_link hdot hdots hlength hnode, follow_link hdot hdots hlength (hsame hnode), if_neg hlast,
        if_neg hlast]
      simp only [ih]

/-- **A path leads to the same node.** -/
theorem Rearranged.resolve (h : fs.Rearranged fs') (last : Bool) (p : Path) :
    fs.resolve last p = fs'.resolve last p := by
  rw [FileSystem.resolve, FileSystem.resolve, h.workingDirectory, h.follow]

theorem Rearranged.linkStatus (h : fs.Rearranged fs') (p : Path) : fs.linkStatus p = fs'.linkStatus p := by
  rw [FileSystem.linkStatus, FileSystem.linkStatus, h.resolve]

/-- A file has the same content. -/
theorem Rearranged.read (h : fs.Rearranged fs') (p : Path) : fs.read p = fs'.read p := by
  rw [FileSystem.read, FileSystem.read, FileSystem.opened, FileSystem.opened, h.resolve, h.unopened, h.unread]

/-! ## Making entries -/

theorem lookup_replaced_self {l : Location} (n : Node) {entries : List (Location × Node)}
    (h : l ∈ entries.map (·.1)) : (replaced l n entries).lookup l = some n := by
  induction entries with
  | nil => exact absurd h List.not_mem_nil
  | cons e es ih =>
      rw [replaced, List.map_cons]
      by_cases he : e.1 = l
      · rw [if_pos he, List.lookup_cons_self]
      · rw [List.map_cons] at h
        have hrest : l ∈ es.map (·.1) := (List.mem_cons.mp h).resolve_left (Ne.symm he)
        rw [if_neg he, List.lookup_cons, beq_eq_false_iff_ne.mpr (Ne.symm he)]
        exact ih hrest

theorem lookup_replaced_of_ne {l m : Location} (n : Node) (h : m ≠ l) (entries : List (Location × Node)) :
    (replaced l n entries).lookup m = entries.lookup m := by
  induction entries with
  | nil => rfl
  | cons e es ih =>
      rw [replaced, List.map_cons, ← replaced]
      by_cases he : e.1 = l
      · rw [if_pos he, List.lookup_cons, beq_eq_false_iff_ne.mpr h, List.lookup_cons,
          beq_eq_false_iff_ne.mpr (he ▸ h), ih]
      · rw [if_neg he, List.lookup_cons, List.lookup_cons, ih]

/-- Where something is put, that stands there; elsewhere nothing changes. -/
theorem node?_put (fs : FileSystem) (l m : Location) (n : Node) :
    (fs.put l n).node? m = if m = [] then some .directory else if m = l then some n else fs.node? m := by
  rw [FileSystem.node?, FileSystem.node?, put]
  by_cases hroot : m = []
  · rw [if_pos hroot, if_pos hroot]
  · rw [if_neg hroot, if_neg hroot, if_neg hroot]
    by_cases hm : m = l
    · rw [if_pos hm, hm]
      split
      · rename_i hthere
        exact lookup_replaced_self n hthere
      · exact List.lookup_cons_self
    · rw [if_neg hm]
      split
      · exact lookup_replaced_of_ne n hm fs.entries
      · show ((l, n) :: fs.entries).lookup m = _
        rw [List.lookup_cons, beq_eq_false_iff_ne.mpr hm]

/-- What is put somewhere is a matter of the entries. -/
theorem put_frame (fs : FileSystem) (l : Location) (n : Node) :
    (fs.put l n).workingDirectory = fs.workingDirectory ∧ (fs.put l n).unopened = fs.unopened ∧
      (fs.put l n).unread = fs.unread := by
  rw [put]
  split <;> exact ⟨rfl, rfl, rfl⟩

namespace Rearranged

/-- What is put into both leaves them rearranged. -/
theorem put (h : fs.Rearranged fs') (l : Location) (n : Node) : (fs.put l n).Rearranged (fs'.put l n) := by
  obtain ⟨hworking, hunopened, hunread⟩ := fs.put_frame l n
  obtain ⟨hworking', hunopened', hunread'⟩ := fs'.put_frame l n
  refine rearranged_iff.mpr ⟨fun m => ?_, ?_, ?_, ?_⟩
  · rw [node?_put, node?_put, h.node?]
  · rw [hworking, hworking', h.workingDirectory]
  · rw [hunopened, hunopened', h.unopened]
  · rw [hunread, hunread', h.unread]

/-- Directories that are made in both leave them rearranged, and they lead to the same place. -/
theorem makeDirectories (h : fs.Rearranged fs') (here : Location) (names : List Name) :
    (fs.makeDirectories here names).1.Rearranged (fs'.makeDirectories here names).1 ∧
      (fs.makeDirectories here names).2 = (fs'.makeDirectories here names).2 := by
  induction names generalizing fs fs' here with
  | nil => exact ⟨h, rfl⟩
  | cons name rest ih =>
      rw [FileSystem.makeDirectories, FileSystem.makeDirectories, h.follow]
      split
      · exact ih h here
      · split
        · exact ih h here.dropLast
        · split
          · exact ih h _
          · exact ⟨h, rfl⟩
          · exact ih (h.put _ _) _

/-- What is made at a path in both leaves them rearranged. -/
theorem create (h : fs.Rearranged fs') (p : Path) (n : Node) : (fs.create p n).Rearranged (fs'.create p n) := by
  obtain ⟨hmade, hplace⟩ := h.makeDirectories (origin fs'.workingDirectory p) (steps p).dropLast
  unfold FileSystem.create
  rw [h.workingDirectory]
  dsimp only
  cases n with
  | directory => exact (h.makeDirectories _ _).1
  | file mode content =>
      cases (steps p).getLast? with
      | none => exact h
      | some name =>
          dsimp only
          rw [hmade.follow, hplace]
          split <;> exact hmade.put _ _
  | link target =>
      cases (steps p).getLast? with
      | none => exact h
      | some name =>
          dsimp only
          rw [hplace]
          exact hmade.put _ _

/-- **What a tool makes in both leaves them rearranged.** -/
theorem createIn (h : fs.Rearranged fs') (directory : Option Path) (entries : List (Path × Node)) :
    (Run.createIn directory fs entries).Rearranged (Run.createIn directory fs' entries) := by
  induction entries generalizing fs fs' with
  | nil => exact h
  | cons e rest ih => exact ih (h.create _ _)

/-! ## Walks -/

/-- No tree is deeper than the other. -/
theorem depth_le (h : fs.Rearranged fs') : fs.depth ≤ fs'.depth := by
  refine foldl_max_le (Nat.zero_le _) fun e he => ?_
  obtain ⟨l, node⟩ := e
  rcases List.eq_nil_or_concat l with rfl | ⟨d, name, rfl⟩
  · exact Nat.zero_le _
  · rw [List.concat_eq_append] at he ⊢
    have hchild : (name, node) ∈ fs'.children d := (h.children d).mem_iff.mp (mem_children.mpr he)
    exact length_le_depth (mem_children.mp hchild)

theorem depth (h : fs.Rearranged fs') : fs.depth = fs'.depth := Nat.le_antisymm h.depth_le h.symm.depth_le

/-- A directory is listed in another order, or cannot be listed for the same reason. -/
theorem listing (h : fs.Rearranged fs') (d : Location) :
    (∃ cause, fs.listing d = .error cause ∧ fs'.listing d = .error cause) ∨
      fs.listing d = .ok (fs.children d) ∧ fs'.listing d = .ok (fs'.children d) := by
  rw [FileSystem.listing, FileSystem.listing, h.unopened]
  cases fs'.unopened d with
  | some cause => exact Or.inl ⟨cause, rfl, rfl⟩
  | none => exact Or.inr ⟨rfl, rfl⟩

/-- The items below a directory are the same. -/
theorem descend (h : fs.Rearranged fs') (levels : Nat) (d : Location) (path : Path) :
    (fs.descend levels d path).Perm (fs'.descend levels d path) := by
  induction levels generalizing d path with
  | zero => exact .nil
  | succ levels ih =>
      rw [FileSystem.descend, FileSystem.descend]
      rcases h.listing d with ⟨cause, hlisting, hlisting'⟩ | ⟨hlisting, hlisting'⟩
      · rw [hlisting, hlisting']
      · rw [hlisting, hlisting']
        refine (h.children d).flatMap fun child _ => ?_
        obtain ⟨name, node⟩ := child
        apply List.Perm.cons
        split
        · exact ih _ _
        · exact .nil

/-- **The walks come to the same items** in two orders. -/
theorem walk (h : fs.Rearranged fs') (root : Path) : (fs.walk root).Perm (fs'.walk root) := by
  rw [FileSystem.walk, FileSystem.walk, h.linkStatus, h.resolve, h.depth]
  cases fs'.linkStatus root with
  | error e => exact List.Perm.refl _
  | ok node =>
      dsimp only
      split
      · exact List.Perm.refl _
      · split
        · exact List.Perm.refl _
        · exact (h.descend _ _ root).cons _
        · exact List.Perm.refl _

end Rearranged

end FipsAudit.FileSystem
