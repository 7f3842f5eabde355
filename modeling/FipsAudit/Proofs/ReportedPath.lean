import FipsAudit.Proofs.Audit.Binary
import FipsAudit.Proofs.LibraryRoot
import FipsAudit.Proofs.PathText

/-!
# `FipsAudit.Proofs.ReportedPath` — a reported path names the file that was examined

Three callers take a root away from a path, or put it before one. The scan of a tree takes it away from the entry it
walked to and validates what is left inside the root. The scan of libraries finds a name in a directory inside the root
and lists the symbols of the path that it reports for it. The audit of one binary makes its argument absolute and
validates it inside the root directory. Each comes back to the file it started from, however the root, the directory
and the argument are spelled.

* `outcomeAt`, `value_validate` — what is said of the file at a path.
* `FileSystem.Below.exists_way` — an entry below a directory is reached by a way of names.
* `resolveUnder_innerTo_of_below`, `arguments_listingCall`, `value_validate_rootDirectory` — the three callers.
* `examined_reported` — all of them.
-/

namespace FipsAudit

open Text

/-! ## Entries of a walk -/

/-- What is said of the file at a path. -/
def outcomeAt (policy : Policy) (fs : FileSystem) (path : Path) : Except ValidationError Outcome :=
  match fs.read path with
  | .error cause => .error (.unreadable path cause)
  | .ok data => (judge policy data).mapError (.malformed path)

theorem value_validate_eq (policy : Policy) (fs : FileSystem) (root path : Path) :
    (validate policy fs root path).value = outcomeAt policy fs (root.resolveUnder path) := by
  unfold validate outcomeAt
  dsimp only
  cases fs.read (root.resolveUnder path) with
  | error cause => rfl
  | ok data => rfl

/-- All locations of the tree are made of names. -/
def FileSystem.Named (fs : FileSystem) : Prop := ∀ e ∈ fs.entries, ∀ name ∈ e.1, Path.IsName name

/-- **An entry below a directory is reached by a way of names** from the path of the directory. -/
theorem FileSystem.Below.exists_way {fs : FileSystem} (hnamed : fs.Named) {l : Location} {path : Path}
    {entry : WalkEntry} (h : fs.Below l path entry) :
    ∃ names, names ≠ [] ∧ (∀ name ∈ names, Path.IsName name) ∧ entry.path = path.join (Path.way names) := by
  have hname {l : Location} {name : Name} {node : Node} (h : (name, node) ∈ fs.children l) : Path.IsName name :=
    hnamed _ (mem_children.mp h) name (List.mem_append_right l List.mem_cons_self)
  induction h with
  | @child _ _ name _ h =>
      refine ⟨[name], List.cons_ne_nil name [], fun other hother => ?_, rfl⟩
      rw [List.mem_singleton.mp hother]
      exact hname h
  | @deeper _ _ name _ h _ ih =>
      obtain ⟨names, hne, hnames, hpath⟩ := ih
      refine ⟨name :: names, List.cons_ne_nil name names, fun other hother => ?_, ?_⟩
      · rcases List.mem_cons.mp hother with rfl | hother
        · exact hname h
        · exact hnames other hother
      · rw [hpath, Path.join_way hne hnames (hname h)]

/-- **The path that is reported for an entry leads back to the entry.** -/
theorem resolveUnder_innerTo_of_below {fs : FileSystem} (hnamed : fs.Named) {l : Location} {root : Path}
    {entry : WalkEntry} (h : fs.Below l root entry) : root.resolveUnder (root.innerTo entry.path) = entry.path := by
  obtain ⟨names, hne, hnames, hpath⟩ := h.exists_way hnamed
  rw [hpath, Path.innerTo_join_way hne hnames, Path.resolveUnder_join_way hne hnames]

/-! ## Libraries -/

section Library

open FileSystem

variable {fs : FileSystem} {root : Path} {directory name : String}

/-- A name that is text, as a path. -/
theorem ofString_eq_way (name : String) : Path.ofString name = Path.way [Utf8.encode name] := rfl

/-- The path of a library is that of its name in its directory: nothing of it is lost, for both are text. -/
theorem ofString_libraryPath (directory name : String) :
    Path.ofString (libraryPath directory name) = (Path.ofString directory).join (.ofString name) :=
  Path.ofString_text (Path.IsText.join ⟨directory, rfl⟩ ⟨name, rfl⟩)

/-- What is found in a library directory stands in a directory that the path leads to. -/
theorem exists_of_mem_libraryEntries {entry : Name × Node} (h : entry ∈ fs.libraryEntries root directory) :
    ∃ l, fs.resolve false (root.resolveUnder (.ofString directory)) = .ok (l, .directory) ∧ entry ∈ fs.children l := by
  rw [libraryEntries_eq] at h
  cases hresolve : fs.resolve false (root.resolveUnder (.ofString directory)) with
  | error e =>
      rw [hresolve] at h
      exact absurd h List.not_mem_nil
  | ok found =>
      rw [hresolve] at h
      obtain ⟨l, node⟩ := found
      cases node with
      | directory => exact ⟨l, rfl, mem_children_of_mem_listed h⟩
      | file mode content => exact absurd h List.not_mem_nil
      | link target => exact absurd h List.not_mem_nil

section Name

variable (hname : Path.IsName (Utf8.encode name))
include hname

theorem isName_singleton : ∀ other ∈ [Utf8.encode name], Path.IsName other := by
  intro other hother
  rw [List.mem_singleton.mp hother]
  exact hname

theorem not_isAbsolute_ofString : (Path.ofString name).isAbsolute = false :=
  Path.not_isAbsolute_way (List.cons_ne_nil _ _) (isName_singleton hname)

/-- **The path that is reported for a library leads to its name in its directory**, by components. -/
theorem components_resolveUnder_libraryPath (root : Path) (directory : String) :
    (root.resolveUnder (.ofString (libraryPath directory name))).components =
      ((root.resolveUnder (.ofString directory)).join (.ofString name)).components := by
  rw [ofString_libraryPath]
  exact Path.components_resolveUnder_join _ _ (Path.lead_way (List.cons_ne_nil _ _) (isName_singleton hname))

theorem endsInName_ofString : EndsInName (.ofString name) := by
  refine ⟨Utf8.encode name, ?_, hname.not_isIdle⟩
  rw [ofString_eq_way, Path.pieces_way (List.cons_ne_nil _ _) (isName_singleton hname)]
  rfl

/-- The name is one step. -/
theorem steps_ofString : steps (.ofString name) = [Utf8.encode name] := by
  rw [steps, ofString_eq_way, Path.pieces_way (List.cons_ne_nil _ _) (isName_singleton hname)]
  simp [hname.nonempty]

/-- **A file in a directory is reached by its name** behind a path of the directory. -/
theorem resolve_join_entry {p : Path} {l : Location} {mode : Nat} {content : ByteArray}
    (hdirectory : fs.resolve false p = .ok (l, .directory))
    (hentry : (Utf8.encode name, .file mode content) ∈ fs.children l) (hshort : (Utf8.encode name).length ≤ maxName)
    (hsound : isSound (p.join (.ofString name)) = true) :
    fs.resolve true (p.join (.ofString name)) = .ok (l ++ [Utf8.encode name], .file mode content) := by
  obtain ⟨-, hfollow⟩ := resolve_eq_ok (resolve_of_not_isLink hdirectory rfl)
  have henter : fs.enter? p = some l := by
    rw [enter?, directoryAt?, hfollow]
    rfl
  obtain ⟨left, hleft⟩ := fs.resolve_join p (not_isAbsolute_ofString hname)
  have hstep := hleft true
  rw [if_pos hsound, henter, Option.bind_some, steps_ofString hname,
    follow_file hname.notDot hname.notDots (Nat.not_lt_of_le hshort) (mem_children_iff.mp hentry),
    if_pos List.isEmpty_nil] at hstep
  cases hresolve : fs.resolve true (p.join (.ofString name)) with
  | error e =>
      rw [hresolve] at hstep
      cases hstep
  | ok found =>
      rw [hresolve] at hstep
      exact congrArg Except.ok (Option.some.inj hstep)

/-- Both paths lead to the same place, unless one of them is too long. -/
theorem resolve_libraryPath (fs : FileSystem) (last : Bool)
    (hreported : (root.resolveUnder (.ofString (libraryPath directory name))).bytes.length < maxPath)
    (hfound : ((root.resolveUnder (.ofString directory)).join (.ofString name)).bytes.length < maxPath) :
    fs.resolve last (root.resolveUnder (.ofString (libraryPath directory name))) =
      fs.resolve last ((root.resolveUnder (.ofString directory)).join (.ofString name)) := by
  have hrelative := not_isAbsolute_ofString hname
  have hend := endsInName_ofString hname
  refine fs.resolve_of_components last (components_resolveUnder_libraryPath hname root directory) ?_
    (hend.join hrelative) hreported hfound
  rw [ofString_libraryPath]
  exact (hend.join hrelative).resolveUnder root

/-- **The file that was found is the one that is listed**: the reported path leads to the entry of the library
    directory. -/
theorem status_libraryPath {mode : Nat} {content : ByteArray}
    (hentry : (Utf8.encode name, .file mode content) ∈ fs.libraryEntries root directory)
    (hshort : (Utf8.encode name).length ≤ maxName)
    (hreported : (root.resolveUnder (.ofString (libraryPath directory name))).bytes.length < maxPath)
    (hfound : isSound ((root.resolveUnder (.ofString directory)).join (.ofString name)) = true) :
    fs.status (root.resolveUnder (.ofString (libraryPath directory name))) = .ok (.file mode content) := by
  have hlength : ((root.resolveUnder (.ofString directory)).join (.ofString name)).bytes.length < maxPath := by
    simp only [isSound, Bool.and_eq_true, decide_eq_true_eq] at hfound
    exact hfound.2
  obtain ⟨l, hdirectory, hchild⟩ := exists_of_mem_libraryEntries hentry
  rw [status, resolve_libraryPath hname fs true hreported hlength,
    resolve_join_entry hname hdirectory hchild hshort hfound]
  rfl

end Name

/-- **Under a root that is text the tool is given the reported path**, as it is. -/
theorem arguments_listingCall (policy : Policy) (hroot : root.IsText) (library : String) :
    ∃ listed, (listingCall policy root library).arguments = ["-D", listed] ∧
      Path.ofString listed = root.resolveUnder (.ofString library) :=
  ⟨_, rfl, Path.ofString_text (hroot.resolveUnder ⟨library, rfl⟩)⟩

end Library

/-! ## Single binaries -/

open FileSystem

/-- **The binary that was found and hashed is the one that is judged.** If it cannot be read, then it is neither hashed
    nor judged. -/
theorem value_validate_rootDirectory (policy : Policy) {fs : FileSystem} {path : Path}
    (habsolute : path.isAbsolute = true) (hfile : fs.isFile path = true) :
    (∃ data, fs.read path = .ok data ∧ fs.sha256 path = .ok (Digest.Sha256.hexDigest data) ∧
      (validate policy fs .rootDirectory path).value =
        (judge policy data).mapError (.malformed (Path.rootDirectory.resolveUnder path))) ∨
    ∃ cause, fs.read path = .error cause ∧
      (fs.sha256 path = .error (.unopened path cause) ∨ fs.sha256 path = .error (.unread path cause)) ∧
      (validate policy fs .rootDirectory path).value =
        .error (.unreadable (Path.rootDirectory.resolveUnder path) cause) := by
  rw [value_validate_eq, outcomeAt, read_resolveUnder_root hfile habsolute]
  cases hread : fs.read path with
  | ok data => exact Or.inl ⟨data, rfl, Audit.sha256_of_read hread, rfl⟩
  | error cause => exact Or.inr ⟨cause, rfl, Audit.sha256_of_unread hread, rfl⟩

/-! ## All three -/

/-- **A reported path names the file that was examined.** A path of names below a root is called by its names behind a
slash, and inside the root that leads back to it, so the report on an entry of a walk says what is to be said of the
file at the entry's path. The path of a library leads to its name in its directory. Under a root that is text it is
given to the tool without loss, and it leads to the file that was found, unless a path or the name is longer than the
system allows. An absolute path keeps its components under the root directory, and if it is the path of a file, that
file is hashed and judged, or if it cannot be read, neither. An argument is made absolute in any case. -/
theorem examined_reported (policy : Policy) (fs : FileSystem) (root : Path) :
    (∀ r : Path, (∀ c ∈ r.components, ∃ name, c = .normal name) →
      (root.innerTo (root.join r)).components = (Path.rootDirectory.join r).components ∧
      (root.resolveUnder (Path.rootDirectory.join r)).components = (root.join r).components) ∧
    (fs.Named → ∀ l entry, fs.Below l root entry →
      (entry.report policy fs root).value = ⟨root.innerTo entry.path, outcomeAt policy fs entry.path⟩) ∧
    (∀ directory name, Path.IsName (Utf8.encode name) →
      (root.resolveUnder (.ofString (libraryPath directory name))).components =
        ((root.resolveUnder (.ofString directory)).join (.ofString name)).components ∧
      (root.IsText → ∃ listed,
        (listingCall policy root (libraryPath directory name)).arguments = ["-D", listed] ∧
        Path.ofString listed = root.resolveUnder (.ofString (libraryPath directory name)) ∧
        ∀ mode content, (Utf8.encode name, .file mode content) ∈ fs.libraryEntries root directory →
          (Utf8.encode name).length ≤ maxName → (Path.ofString listed).bytes.length < maxPath →
          isSound ((root.resolveUnder (.ofString directory)).join (.ofString name)) = true →
          fs.status (.ofString listed) = .ok (.file mode content))) ∧
    (∀ path : Path, path.isAbsolute = true →
      (Path.rootDirectory.resolveUnder path).components = path.components ∧
      (fs.isFile path = true →
        (∃ data, fs.read path = .ok data ∧ fs.sha256 path = .ok (Digest.Sha256.hexDigest data) ∧
          (validate policy fs .rootDirectory path).value =
            (judge policy data).mapError (.malformed (Path.rootDirectory.resolveUnder path))) ∨
        ∃ cause, fs.read path = .error cause ∧
          (fs.sha256 path = .error (.unopened path cause) ∨ fs.sha256 path = .error (.unread path cause)) ∧
          (validate policy fs .rootDirectory path).value =
            .error (.unreadable (Path.rootDirectory.resolveUnder path) cause))) ∧
    ∀ argument, (fs.absolute argument).isAbsolute = true := by
  refine ⟨?_, ?_, ?_, ?_, isAbsolute_absolute fs⟩
  · intro r hr
    have hlead := Path.lead_of_normal hr
    have hroot : Path.rootDirectory.components = [.root] := by decide
    have hslash : (Path.rootDirectory.join r).components = .root :: r.components := by
      rw [Path.components_join_of_lead_none hlead, hroot, List.singleton_append]
    have habsolute : (Path.rootDirectory.join r).isAbsolute = true :=
      Path.isAbsolute_join (Path.not_isAbsolute_of_lead_none hlead)
    constructor
    · rw [Path.components_innerTo_join root hlead, hslash]
    · rw [Path.components_resolveUnder root habsolute, hslash, List.tail_cons, Path.components_join_of_lead_none hlead]
  · intro hnamed l entry hentry
    show (⟨_, (validate policy fs root (root.innerTo entry.path)).value⟩ : BinaryReport) = _
    rw [value_validate_eq, resolveUnder_innerTo_of_below hnamed hentry]
  · intro directory name hname
    refine ⟨components_resolveUnder_libraryPath hname root directory, ?_⟩
    intro hroot
    obtain ⟨listed, harguments, hlisted⟩ := arguments_listingCall policy hroot (libraryPath directory name)
    refine ⟨listed, harguments, hlisted, ?_⟩
    intro mode content hentry hshort hlength hsound
    rw [hlisted] at hlength ⊢
    exact status_libraryPath hname hentry hshort hlength hsound
  · intro path habsolute
    exact ⟨components_resolveUnder_root habsolute, value_validate_rootDirectory policy habsolute⟩

/-- The library of an image, as a walk of the image finds it. -/
def libraryEntry : WalkEntry :=
  ⟨((Path.ofString "/image/").join ⟨Utf8.encode "usr"⟩).join ⟨Utf8.encode "lib64"⟩ |>.join
    ⟨Utf8.encode "libcrypto.so.3"⟩, .file 0o644 .empty⟩

/-- However the image, the way to the library directory and the path of the library are spelled, it is the library that
    is examined. -/
theorem examined_reported_twiceNamed :
    let root := Path.ofString "/image/"
    let r := Path.ofString "usr//lib64/."
    let library := libraryPath "//usr/./lib64/" "libcrypto.so.3"
    let path := Path.ofString "//image/./usr/lib64/libcrypto.so.3"
    (root.resolveUnder (Path.rootDirectory.join r)).components = (root.join r).components ∧
    (libraryEntry.report .builtIn twiceNamed root).value =
      ⟨root.innerTo libraryEntry.path, outcomeAt .builtIn twiceNamed libraryEntry.path⟩ ∧
    (∃ listed, (listingCall .builtIn root library).arguments = ["-D", listed] ∧
      twiceNamed.status (.ofString listed) = .ok (.file 0o644 .empty)) ∧
    (Path.rootDirectory.resolveUnder path).components = path.components ∧
    (∃ data, twiceNamed.sha256 path = .ok (Digest.Sha256.hexDigest data)) ∧
    (twiceNamed.absolute "./image").isAbsolute = true := by
  intro root r library path
  obtain ⟨hinside, hwalked, hlisted, hbinary, habsolute⟩ := examined_reported .builtIn twiceNamed root
  have hnormal : ∀ c ∈ r.components, ∃ name, c = .normal name := by
    have hcomponents : r.components = [.normal (Utf8.encode "usr"), .normal (Utf8.encode "lib64")] := by decide
    rw [hcomponents]
    intro c hc
    simp only [List.mem_cons, List.not_mem_nil, or_false] at hc
    rcases hc with rfl | rfl
    · exact ⟨_, rfl⟩
    · exact ⟨_, rfl⟩
  have hisName (name : Name) (h : name ∈ ["image", "usr", "lib64", "libcrypto.so.3"].map Utf8.encode) :
      Path.IsName name := by
    have hdecided : ∀ name ∈ ["image", "usr", "lib64", "libcrypto.so.3"].map Utf8.encode,
        name ≠ [] ∧ Path.slash ∉ name ∧ name ≠ [Path.dot] ∧ name ≠ [Path.dot, Path.dot] := by decide
    obtain ⟨hne, hslash, hdot, hdots⟩ := hdecided name h
    exact ⟨hne, hslash, hdot, hdots⟩
  have hnamed : twiceNamed.Named := by
    have hentries : ∀ e ∈ twiceNamed.entries, ∀ name ∈ e.1,
        name ∈ ["image", "usr", "lib64", "libcrypto.so.3"].map Utf8.encode := by decide
    exact fun e he name hname => hisName name (hentries e he name hname)
  have hbelow : twiceNamed.Below (placeOf ["image"]) root libraryEntry := by
    refine .deeper (mem_children_iff.mpr rfl) (.deeper (mem_children_iff.mpr rfl) (.child (mem_children_iff.mpr rfl)))
  have hname := hisName (Utf8.encode "libcrypto.so.3") (by decide)
  obtain ⟨-, htext⟩ := hlisted "//usr/./lib64/" "libcrypto.so.3" hname
  obtain ⟨listed, harguments, hpath, hfile⟩ := htext ⟨_, rfl⟩
  have hentry :
      (Utf8.encode "libcrypto.so.3", .file 0o644 .empty) ∈ twiceNamed.libraryEntries root "//usr/./lib64/" := by
    rw [libraryEntries_eq]
    have hdirectory :
        (twiceNamed.resolve false (root.resolveUnder (.ofString "//usr/./lib64/"))).toOption.bind directory? =
          some (placeOf ["image", "usr", "lib64"]) := by
      cbv
    rw [hdirectory]
    exact mem_children_iff.mpr rfl
  have hlength : (Path.ofString listed).bytes.length < maxPath := by
    rw [hpath]
    decide
  have hshort : (Utf8.encode "libcrypto.so.3").length ≤ maxName := by decide
  have hsound :
      isSound ((root.resolveUnder (.ofString "//usr/./lib64/")).join (.ofString "libcrypto.so.3")) = true := by
    cbv
  obtain ⟨hcomponents, hjudged⟩ := hbinary path (by decide)
  have hresolve : twiceNamed.resolve true (.ofString "//image/./usr/lib64/libcrypto.so.3") =
      .ok (placeOf ["image", "usr", "lib64", "libcrypto.so.3"], .file 0o644 .empty) := by
    cbv
  have hread : twiceNamed.read path = .ok .empty := by
    rw [FileSystem.read, opened, hresolve]
    rfl
  obtain ⟨data, hhashed⟩ : ∃ data, twiceNamed.sha256 path = .ok (Digest.Sha256.hexDigest data) := by
    rcases hjudged (isFile_iff.mpr ⟨_, _, _, hresolve⟩) with ⟨data, -, hhashed, -⟩ | ⟨cause, hunread, -⟩
    · exact ⟨data, hhashed⟩
    · rw [hread] at hunread
      cases hunread
  exact ⟨(hinside r hnormal).2, hwalked hnamed _ _ hbelow,
    ⟨listed, harguments, hfile 0o644 .empty hentry hshort hlength hsound⟩, hcomponents, ⟨data, hhashed⟩,
    habsolute "./image"⟩

end FipsAudit
