import FipsAudit.FileSystem.Walk

/-!
# `FipsAudit.Proofs.FileSystem.Walk` — a walk visits exactly what is under its root

What is under a root is said by the tree alone: the entries of its directory, the entries of the directories among
them, and so on. The walk counts levels down to stop; its count is never too small.

* `FileSystem.Below` — the entries below a directory.
* `FileSystem.mem_descend_iff` — the descent lists them and nothing else, if all directories can be opened.
* `FileSystem.Under` — what is under a root, the root included.
* `FileSystem.mem_walk_iff` — the walk visits that and nothing else, unless it fails.
* `FileSystem.error_mem_walk_iff` — it fails where it comes to a directory that cannot be opened.
-/

namespace FipsAudit.FileSystem

variable {fs : FileSystem} {d l : Location} {path root : Path} {entry : WalkEntry}

/-! ## Directories -/

theorem namesBelow?_eq_some {names : Location} : namesBelow? d l = some names ↔ l = d ++ names := by
  induction d, l using namesBelow?.induct with
  | case1 l => simp [namesBelow?]
  | case2 n d => simp [namesBelow?]
  | case3 n d l ih => simp [namesBelow?, ih]
  | case4 n d m l hne => simp [namesBelow?, hne, Ne.symm hne]

/-- A directory lists what the table has one name further down. -/
theorem mem_children {name : Name} {node : Node} :
    (name, node) ∈ fs.children d ↔ (d ++ [name], node) ∈ fs.entries := by
  simp only [children, below, List.mem_filterMap]
  constructor
  · rintro ⟨⟨names, node'⟩, ⟨⟨l, node''⟩, hentry, hbelow⟩, hchild⟩
    split at hbelow
    next n ns hnames =>
      cases hbelow
      split at hchild
      next m hone =>
        cases hone
        cases hchild
        rw [← namesBelow?_eq_some.mp hnames]
        exact hentry
      next => contradiction
    next => contradiction
  · intro hentry
    refine ⟨([name], node), ⟨(d ++ [name], node), hentry, ?_⟩, rfl⟩
    rw [namesBelow?_eq_some.mpr rfl]

/-- A maximum that is kept along a list is never less than its beginning, nor than any length on the way. -/
theorem le_foldl_max (entries : List (Location × Node)) (n : Nat) :
    n ≤ entries.foldl (fun n e => max n e.1.length) n ∧
      ∀ e ∈ entries, e.1.length ≤ entries.foldl (fun n e => max n e.1.length) n := by
  induction entries generalizing n with
  | nil => simp
  | cons e es ih =>
      obtain ⟨hle, hes⟩ := ih (max n e.1.length)
      refine ⟨Nat.le_trans (Nat.le_max_left _ _) hle, fun e' he' => ?_⟩
      rcases List.mem_cons.mp he' with rfl | he'
      · exact Nat.le_trans (Nat.le_max_right _ _) hle
      · exact hes e' he'

/-- Nor is it more than a bound on all of them. -/
theorem foldl_max_le {entries : List (Location × Node)} {n bound : Nat} (hn : n ≤ bound)
    (h : ∀ e ∈ entries, e.1.length ≤ bound) : entries.foldl (fun n e => max n e.1.length) n ≤ bound := by
  induction entries generalizing n with
  | nil => exact hn
  | cons e es ih =>
      exact ih (Nat.max_le.mpr ⟨hn, h e List.mem_cons_self⟩) fun e' he' => h e' (List.mem_cons_of_mem e he')

/-- No entry is deeper than the tree. -/
theorem length_le_depth {node : Node} (h : (l, node) ∈ fs.entries) : l.length ≤ fs.depth :=
  (le_foldl_max fs.entries 0).2 (l, node) h

/-! ## Below a directory -/

/-- The entries below directory `d`, by paths that begin with `path`. Links are entries like files: nothing is
    below them. -/
inductive Below (fs : FileSystem) : (d : Location) → (path : Path) → WalkEntry → Prop
  /-- An entry of the directory. -/
  | child {d : Location} {path : Path} {name : Name} {node : Node} (h : (name, node) ∈ fs.children d) :
      Below fs d path ⟨path.join ⟨name⟩, node⟩
  /-- An entry below a directory in the directory. -/
  | deeper {d : Location} {path : Path} {name : Name} {entry : WalkEntry} (h : (name, .directory) ∈ fs.children d)
      (below : Below fs (d ++ [name]) (path.join ⟨name⟩) entry) : Below fs d path entry

/-- A directory with something below it is not as deep as the tree. -/
theorem Below.length_lt_depth (h : fs.Below d path entry) : d.length < fs.depth := by
  have hchild : ∃ name node, (name, node) ∈ fs.children d := by
    cases h with
    | child h => exact ⟨_, _, h⟩
    | deeper h _ => exact ⟨_, _, h⟩
  obtain ⟨name, node, hmem⟩ := hchild
  have hle := length_le_depth (mem_children.mp hmem)
  rw [List.length_append, List.length_singleton] at hle
  exact hle

/-- **One level of a descent**: a failure if the directory is not listed, and else its entries, with what is below the
    directories among them. -/
theorem mem_descend_succ {levels : Nat} {item : WalkItem} :
    item ∈ fs.descend (levels + 1) d path ↔
      (∃ cause, fs.unopened d = some cause ∧ item = .error ⟨path, cause⟩) ∨
        fs.unopened d = none ∧ ∃ name node, (name, node) ∈ fs.children d ∧
          (item = .ok ⟨path.join ⟨name⟩, node⟩ ∨
            node = .directory ∧ item ∈ fs.descend levels (d ++ [name]) (path.join ⟨name⟩)) := by
  rw [descend, listing]
  cases hopen : fs.unopened d with
  | some cause => simp
  | none =>
      have hdeeper {node : Node} {items : List WalkItem} :
          (item ∈ if node.isDirectory then items else []) ↔ node = .directory ∧ item ∈ items := by
        cases node <;> simp [Node.isDirectory]
      simp [hdeeper]

/-- The descent lists nothing that is not below the directory. -/
theorem below_of_mem_descend {levels : Nat} (h : .ok entry ∈ fs.descend levels d path) : fs.Below d path entry := by
  induction levels generalizing d path with
  | zero => simp [descend] at h
  | succ levels ih =>
      rcases mem_descend_succ.mp h with ⟨cause, -, hfailed⟩ | ⟨-, name, node, hchild, hentry | ⟨rfl, hentry⟩⟩
      · contradiction
      · cases hentry
        exact Below.child hchild
      · exact Below.deeper hchild (ih hentry)

/-- A descent of enough levels that does not fail leaves out nothing that is below the directory. -/
theorem Below.mem_descend {levels : Nat} (h : fs.Below d path entry) (hlevels : fs.depth ≤ levels + d.length)
    (hlisted : ∀ e, .error e ∉ fs.descend levels d path) : .ok entry ∈ fs.descend levels d path := by
  induction levels generalizing d path with
  | zero =>
      have hlt := h.length_lt_depth
      omega
  | succ levels ih =>
      have hopen : fs.unopened d = none := Option.eq_none_iff_forall_ne_some.mpr fun cause hcause =>
        hlisted _ (mem_descend_succ.mpr (Or.inl ⟨cause, hcause, rfl⟩))
      refine mem_descend_succ.mpr (Or.inr ⟨hopen, ?_⟩)
      cases h with
      | child hchild => exact ⟨_, _, hchild, Or.inl rfl⟩
      | @deeper _ _ name _ hchild hbelow =>
          refine ⟨name, .directory, hchild, Or.inr ⟨rfl, ih hbelow ?_ fun e he => ?_⟩⟩
          · rw [List.length_append, List.length_singleton]
            omega
          · exact hlisted e (mem_descend_succ.mpr (Or.inr ⟨hopen, name, .directory, hchild, Or.inr ⟨rfl, he⟩⟩))

/-- One level more than the tree is deep is enough for every directory. -/
theorem mem_descend_iff (hlisted : ∀ e, .error e ∉ fs.descend (fs.depth + 1) d path) :
    .ok entry ∈ fs.descend (fs.depth + 1) d path ↔ fs.Below d path entry :=
  ⟨below_of_mem_descend, fun h => h.mem_descend (by omega) hlisted⟩

/-! ## Failures -/

/-- The descent from a directory comes to a directory: through directories that the system lists. -/
inductive Visits (fs : FileSystem) : (d : Location) → (path : Path) → (d' : Location) → (path' : Path) → Prop
  | here {d : Location} {path : Path} : Visits fs d path d path
  | deeper {d d' : Location} {path path' : Path} {name : Name} (listed : fs.unopened d = none)
      (h : (name, .directory) ∈ fs.children d) (visits : Visits fs (d ++ [name]) (path.join ⟨name⟩) d' path') :
      Visits fs d path d' path'

/-- A descent fails at directories that it comes to and that cannot be opened. -/
theorem visits_of_error_mem_descend {levels : Nat} {e : WalkError} (h : .error e ∈ fs.descend levels d path) :
    ∃ d' path' cause, fs.Visits d path d' path' ∧ fs.unopened d' = some cause ∧ e = ⟨path', cause⟩ := by
  induction levels generalizing d path with
  | zero => simp [descend] at h
  | succ levels ih =>
      rcases mem_descend_succ.mp h with ⟨cause, hclosed, he⟩ | ⟨hopen, name, node, hchild, hentry | ⟨rfl, hbelow⟩⟩
      · exact ⟨d, path, cause, .here, hclosed, Except.error.inj he⟩
      · contradiction
      · obtain ⟨d', path', cause, hvisits, hclosed, he⟩ := ih hbelow
        exact ⟨d', path', cause, .deeper hopen hchild hvisits, hclosed, he⟩

/-- Where a descent of enough levels comes to a directory that cannot be opened, it fails. -/
theorem Visits.error_mem_descend {levels : Nat} {d' : Location} {path' : Path} {cause : IoError}
    (h : fs.Visits d path d' path') (hclosed : fs.unopened d' = some cause) (hpos : 0 < levels)
    (hlevels : fs.depth < levels + d.length) : .error ⟨path', cause⟩ ∈ fs.descend levels d path := by
  induction h generalizing levels with
  | here =>
      obtain ⟨k, rfl⟩ := Nat.exists_eq_succ_of_ne_zero (Nat.ne_of_gt hpos)
      exact mem_descend_succ.mpr (Or.inl ⟨cause, hclosed, rfl⟩)
  | @deeper d _ path path' name hopen hchild _ ih =>
      obtain ⟨k, rfl⟩ := Nat.exists_eq_succ_of_ne_zero (Nat.ne_of_gt hpos)
      have hdepth := length_le_depth (mem_children.mp hchild)
      rw [List.length_append, List.length_singleton] at hdepth
      have hmem : .error ⟨path', cause⟩ ∈ fs.descend k (d ++ [name]) (path.join ⟨name⟩) := by
        refine ih hclosed (by omega) ?_
        rw [List.length_append, List.length_singleton]
        omega
      exact mem_descend_succ.mpr (Or.inr ⟨hopen, name, .directory, hchild, Or.inr ⟨rfl, hmem⟩⟩)

/-! ## Links at the end of a way -/

/-- Where the way does not end in a link, it makes no difference whether that would be followed. -/
theorem follow_true_eq {links : Nat} {here : Location} {todo : List Name}
    (h : ∀ l target, fs.follow false links here todo ≠ .ok (l, .link target)) :
    fs.follow true links here todo = fs.follow false links here todo := by
  induction links, here, todo using follow.induct fs false with
  | case6 links here name rest hdot hdots hlength hdirectory ih =>
      rw [follow, if_neg hdot, if_neg hdots, if_neg hlength, hdirectory] at h
      rw [follow, follow, if_neg hdot, if_neg hdots, if_neg hlength, if_neg hdot, if_neg hdots, if_neg hlength,
        hdirectory]
      exact ih h
  | case9 links here name rest hdot hdots hlength target hlink hlast =>
      -- The link at the end is what is found.
      refine absurd ?_ (h (here ++ [name]) target)
      rw [follow, if_neg hdot, if_neg hdots, if_neg hlength, hlink]
      exact if_pos hlast
  | case12 here name rest hdot hdots hlength target hlink hlast links htarget ih =>
      rw [follow, if_neg hdot, if_neg hdots, if_neg hlength, hlink] at h
      rw [follow, follow, if_neg hdot, if_neg hdots, if_neg hlength, if_neg hdot, if_neg hdots, if_neg hlength, hlink]
      simp only [hlast, htarget, if_false, Bool.not_true, Bool.and_false, Bool.false_eq_true] at h ⊢
      exact ih h
  | _ =>
      rw [follow] at h
      unfold follow
      simp_all

/-- A path that does not end in a link leads to the same, or fails alike, whether or not a link at its end is
    followed. -/
theorem resolve_true_eq (h : ∀ l target, fs.resolve false path ≠ .ok (l, .link target)) :
    fs.resolve true path = fs.resolve false path := by
  unfold resolve at h ⊢
  split
  next => rfl
  next hzero =>
    split
    next => rfl
    next hempty =>
      split
      next => rfl
      next hlength =>
        rw [if_neg hzero, if_neg hempty, if_neg hlength] at h
        exact follow_true_eq h

theorem resolve_of_not_isLink {node : Node} (h : fs.resolve false path = .ok (l, node))
    (hnode : node.isLink = false) : fs.resolve true path = .ok (l, node) := by
  rw [resolve_true_eq, h]
  rintro l' target hlink
  rw [h] at hlink
  cases hlink
  cases hnode

theorem resolve_of_error {cause : IoError} (h : fs.resolve false path = .error cause) :
    fs.resolve true path = .error cause := by
  rw [resolve_true_eq, h]
  rintro l target hlink
  rw [h] at hlink
  cases hlink

/-! ## Under a root -/

/-- What is under a root: what the root names, and what is below the directory that it leads to. -/
def Under (fs : FileSystem) (root : Path) (entry : WalkEntry) : Prop :=
  (entry.path = root ∧ fs.linkStatus root = .ok entry.node) ∨
    ∃ l, fs.resolve true root = .ok (l, .directory) ∧ fs.Below l root entry

/-- A path that names a regular file leads there. -/
theorem resolve_of_isFile {node : Node} (h : fs.linkStatus path = .ok node) (hfile : node.isFile = true) :
    ∃ l, fs.resolve true path = .ok (l, node) := by
  rw [linkStatus] at h
  cases hresolve : fs.resolve false path with
  | error e => simp [hresolve, Except.map] at h
  | ok found =>
      obtain ⟨l, node'⟩ := found
      obtain rfl : node' = node := by simpa [hresolve, Except.map] using h
      refine ⟨l, resolve_of_not_isLink hresolve ?_⟩
      cases node' with
      | link target => contradiction
      | _ => rfl

/-- **A walk visits what is under its root and nothing else, unless it fails.** -/
theorem mem_walk_iff (h : ∀ e, .error e ∉ fs.walk root) : .ok entry ∈ fs.walk root ↔ fs.Under root entry := by
  unfold walk Under at *
  cases hnode : fs.linkStatus root with
  | error e => simp [hnode] at h
  | ok node =>
      simp only [hnode] at h ⊢
      by_cases hfile : node.isFile = true
      · obtain ⟨l, hresolve⟩ := resolve_of_isFile hnode hfile
        have hnot : node ≠ .directory := by
          rintro rfl
          contradiction
        rw [if_pos hfile, hresolve]
        cases entry with
        | mk path node' => simp [hnot, eq_comm]
      · rw [if_neg hfile] at h ⊢
        cases hresolve : fs.resolve true root with
        | error e => simp [hresolve] at h
        | ok found =>
            obtain ⟨l, found⟩ := found
            cases entry with
            | mk path node' =>
                cases found with
                | directory =>
                    have hlisted : ∀ e, .error e ∉ fs.descend (fs.depth + 1) l root := by simpa [hresolve] using h
                    simp [mem_descend_iff hlisted, eq_comm]
                | _ => simp [eq_comm]

/-- **When a walk fails**: its root leads nowhere, or the walk comes to a directory that cannot be opened. -/
theorem error_mem_walk_iff {e : WalkError} :
    .error e ∈ fs.walk root ↔
      (∃ cause, fs.resolve true root = .error cause ∧ e = ⟨root, cause⟩) ∨
        ∃ l d path cause, fs.resolve true root = .ok (l, .directory) ∧ fs.Visits l root d path ∧
          fs.unopened d = some cause ∧ e = ⟨path, cause⟩ := by
  unfold walk
  cases hnode : fs.linkStatus root with
  | error cause =>
      have hroot : fs.resolve true root = .error cause := by
        rw [linkStatus] at hnode
        cases hresolve : fs.resolve false root with
        | error cause' =>
            obtain rfl : cause' = cause := by simpa [hresolve, Except.map] using hnode
            exact resolve_of_error hresolve
        | ok found => simp [hresolve, Except.map] at hnode
      simp [hroot]
  | ok node =>
      dsimp only
      by_cases hfile : node.isFile = true
      · obtain ⟨l, hresolve⟩ := resolve_of_isFile hnode hfile
        have hnot : node ≠ .directory := by
          rintro rfl
          contradiction
        simp [hfile, hresolve, hnot]
      · rw [if_neg hfile]
        cases hresolve : fs.resolve true root with
        | error cause => simp
        | ok found =>
            obtain ⟨l, found⟩ := found
            cases found with
            | directory =>
                suffices hdescend : .error e ∈ fs.descend (fs.depth + 1) l root ↔
                    ∃ d path cause, fs.Visits l root d path ∧ fs.unopened d = some cause ∧ e = ⟨path, cause⟩ by
                  simpa using hdescend
                constructor
                · exact visits_of_error_mem_descend
                · rintro ⟨d, path, cause, hvisits, hclosed, rfl⟩
                  exact hvisits.error_mem_descend hclosed (Nat.succ_pos _) (by omega)
            | _ => simp

end FipsAudit.FileSystem
