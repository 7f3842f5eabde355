import FipsAudit.Proofs.FileSystem.Rearranged
import FipsAudit.Proofs.LibraryVerdict
import FipsAudit.Proofs.Tally

/-!
# `FipsAudit.Proofs.ListingOrder` — the order of a directory's entries makes no difference

A walk takes the entries of a directory as the system lists them, and the library scan reads the library directories
in the same way. Neither of them depends on the order. A report on a file goes by its path and its content, so the
reports of two walks are the same in another order, and the counters of a summary forget the order. The names of
libraries are sorted in each directory before they are put together, so the tools are called for the same libraries in
the same order.

* `WalkEntry.report_congr` — what the report on a file depends on.
* `Scan.Reordered`, `scanItems_reordered`, `scanTree_reordered` — scans that differ in the order of their reports alone.
* `FileSystem.Rearranged.libraries` — the libraries of a root.
* `exists_calls_scanLibraries` — the calls of the library scan, whatever the tools answer.
* `Session.Rearranged`, `Run.OrderFree` — operations that cannot see the order; `scanLibraries_orderFree` — the library
  scan is one.
* `scans_listingOrder` — all of it.
-/

namespace FipsAudit

open Run Session Text

/-! ## Reports -/

/-- **The report on a file goes by its path and its content**, whatever else stands in the tree. -/
theorem WalkEntry.report_congr (policy : Policy) {fs fs' : FileSystem} (root : Path) {e e' : WalkEntry}
    (hpath : e.path = e'.path)
    (hread : fs.read (Path.resolveUnder root (Path.innerTo root e.path)) =
      fs'.read (Path.resolveUnder root (Path.innerTo root e.path))) :
    e.report policy fs root = e'.report policy fs' root := by
  have hvalidate : validate policy fs root (Path.innerTo root e.path) =
      validate policy fs' root (Path.innerTo root e.path) := by
    rw [validate, validate, hread]
  rw [report, report, ← hpath, hvalidate]

/-! ## Scans -/

/-- Counters do not depend on the order of what is counted. -/
theorem Summary.Counts.eq_of_perm {s t : Summary} {reports reports' : List BinaryReport} (hs : s.Counts reports)
    (ht : t.Counts reports') (h : reports.Perm reports') : s = t := by
  have hcount (status : EntryStatus) : s.count status = t.count status := by
    rw [hs.counted, ht.counted, h.countP_eq]
  have hchecked : s.checked = t.checked := by
    rw [hs.checked, ht.checked, h.length_eq]
  obtain ⟨checked, passed, skipped, failed, errors⟩ := s
  obtain rfl : checked = t.checked := hchecked
  obtain rfl : passed = t.passed := hcount .passed
  obtain rfl : skipped = t.skipped := hcount .skipped
  obtain rfl : failed = t.failed := hcount .failed
  obtain rfl : errors = t.errors := hcount .error
  rfl

/-- Two scans that come to the same, with the same reports in another order. -/
structure Scan.Reordered (scan scan' : Scan) : Prop where
  /-- The summary is the same, or the failure. -/
  outcome : scan.outcome = scan'.outcome
  /-- The yes or no is the same. -/
  yes : scan.allValid = scan'.allValid
  /-- The reports are the same, notes included. -/
  reports : scan.reports.Perm scan'.reports

theorem Scan.Reordered.of_outcome {scan scan' : Scan} (houtcome : scan.outcome = scan'.outcome)
    (hreports : scan.reports.Perm scan'.reports) : scan.Reordered scan' :=
  ⟨houtcome, by rw [Scan.allValid, Scan.allValid, houtcome], hreports⟩

variable {policy : Policy} {root : Path} {fs fs' : FileSystem}

/-- **Two walks that visit the same entries in two orders** without failure are scanned to the same summary. -/
theorem scanItems_reordered (report : WalkEntry → Logged BinaryReport) (root : Path) {entries entries' : List WalkEntry}
    (h : entries.Perm entries') :
    ∃ summary, (scanItems report root {} (entries.map .ok)).outcome = .ok summary ∧
      (scanItems report root {} (entries.map .ok)).Reordered (scanItems report root {} (entries'.map .ok)) := by
  have hreports : (executableReports report entries).Perm (executableReports report entries') := (h.filter _).map report
  have hcounts := Summary.counts_nil.recordAll (executableReports report entries)
  have hcounts' := Summary.counts_nil.recordAll (executableReports report entries')
  rw [scanItems_eq {} (.finished entries), scanItems_eq {} (.finished entries')]
  refine ⟨_, rfl, Scan.Reordered.of_outcome ?_ hreports⟩
  rw [hcounts.eq_of_perm hcounts' (hreports.map _)]

/-- A walk without failures is that of its entries. -/
theorem eq_map_ok_of_ended {items : List WalkItem} (h : ∀ e, .error e ∉ items) :
    items = (items.filterMap Except.toOption).map .ok := by
  induction items with
  | nil => rfl
  | cons item rest ih =>
      cases item with
      | error e => exact absurd List.mem_cons_self (h e)
      | ok entry => exact congrArg (.ok entry :: ·) (ih fun e he => h e (List.mem_cons_of_mem _ he))

/-- Whether a scan is clean does not depend on the order of the items, failures included. -/
theorem allValid_scanItems_of_perm (report : WalkEntry → Logged BinaryReport) (root : Path) {items items' : List WalkItem}
    (h : items.Perm items') : (scanItems report root {} items).allValid = (scanItems report root {} items').allValid := by
  rw [Bool.eq_iff_iff, allValid_scanItems_iff, allValid_scanItems_iff, scanItems_clean_iff, scanItems_clean_iff]
  simp only [h.mem_iff]

/-- **Scans of a tree that is listed in another order** come to the same yes or no. They come to the same in all else,
    too, unless the walk fails once it has begun: then it may have come to other files before. -/
theorem scanTree_reordered (policy : Policy) (root : Path) (h : fs.Rearranged fs') :
    (scanTree policy fs root).allValid = (scanTree policy fs' root).allValid ∧
      ((∀ e, .error e ∈ fs.walk root → fs.walk root = [.error e]) →
        (scanTree policy fs root).Reordered (scanTree policy fs' root)) := by
  have hreport : WalkEntry.report policy fs root = WalkEntry.report policy fs' root :=
    funext fun e => e.report_congr policy root rfl (h.read _)
  have hwalk := h.walk root
  rw [scanTree, scanTree, hreport]
  refine ⟨allValid_scanItems_of_perm _ root hwalk, fun hwhole => ?_⟩
  by_cases hfails : ∃ e, .error e ∈ fs.walk root
  · obtain ⟨e, he⟩ := hfails
    rw [hwhole e he] at hwalk ⊢
    rw [List.singleton_perm.mp hwalk]
    exact Scan.Reordered.of_outcome rfl (List.Perm.refl _)
  · have hended : ∀ e, .error e ∉ fs.walk root := fun e he => hfails ⟨e, he⟩
    have hended' : ∀ e, .error e ∉ fs'.walk root := fun e he => hended e (hwalk.mem_iff.mpr he)
    rw [eq_map_ok_of_ended hended, eq_map_ok_of_ended hended']
    obtain ⟨-, -, hreordered⟩ := scanItems_reordered (WalkEntry.report policy fs' root) root (hwalk.filterMap _)
    exact hreordered

/-! ## Libraries -/

namespace FileSystem.Rearranged

/-- A library directory has the same entries. -/
theorem libraryEntries (h : fs.Rearranged fs') (root : Path) (directory : String) :
    (fs.libraryEntries root directory).Perm (fs'.libraryEntries root directory) := by
  rw [libraryEntries_eq, libraryEntries_eq, h.resolve]
  cases (fs'.resolve false (root.resolveUnder (.ofString directory))).toOption.bind directory? with
  | none => exact .nil
  | some l =>
      rw [Option.elim_some, Option.elim_some, FileSystem.listed, FileSystem.listed]
      rcases h.listing l with ⟨cause, hlisting, hlisting'⟩ | ⟨hlisting, hlisting'⟩
      · rw [hlisting, hlisting']
      · rw [hlisting, hlisting']
        exact h.children l

/-- **The libraries of a root are the same, and in the same order.** -/
theorem libraries (h : fs.Rearranged fs') (root : Path) (directories : List String) (pattern : Pattern) :
    fs.libraries root directories pattern = fs'.libraries root directories pattern := by
  have hnames (directory : String) : matchingNames pattern (fs.libraryEntries root directory) =
      matchingNames pattern (fs'.libraryEntries root directory) := matchingNames_perm (h.libraryEntries root directory)
  simp only [FileSystem.libraries, hnames]

end FileSystem.Rearranged

/-! ## Sessions -/

/-- Two sessions with the same files in another order, and tools that cannot see the order. -/
structure Session.Rearranged (s t : Session) : Prop where
  /-- The files are listed in another order. -/
  files : s.files.Rearranged t.files
  /-- A call is answered in the same way, in whatever order the files are listed. -/
  tools : ∀ n c (f f' : FileSystem), f.Rearranged f' → s.tools n c f = t.tools n c f'
  /-- The same calls so far. -/
  calls : s.calls = t.calls

namespace Session.Rearranged

variable {s t : Session}

/-- A call has the same result. -/
theorem replyTo (h : s.Rearranged t) (c : Call) : s.replyTo c = t.replyTo c := by
  rw [Session.replyTo, Session.replyTo, h.calls, h.tools _ _ _ _ h.files]

/-- After a call the files are listed in another order again. -/
theorem after (h : s.Rearranged t) (c : Call) : (s.after c).Rearranged (t.after c) := by
  refine ⟨?_, h.tools, ?_⟩
  · simp only [Session.after, h.calls, h.tools _ _ _ _ h.files]
    exact h.files.createIn _ _
  · simp only [Session.after, h.calls]

end Session.Rearranged

namespace Run

variable {ε α β : Type}

/-- The operation cannot see in which order files are listed. -/
def OrderFree (x : Run ε α) : Prop :=
  ∀ s t, s.Rearranged t → (exec x s).1 = (exec x t).1 ∧ (exec x s).2.Rearranged (exec x t).2

namespace OrderFree

theorem pure (a : α) : OrderFree (pure a : Run ε α) := fun _ _ h => ⟨rfl, h⟩

theorem throw (e : ε) : OrderFree (throw e : Run ε α) := fun _ _ h => ⟨rfl, h⟩

theorem leave (notes : List Note) : OrderFree (leave notes : Run ε Unit) :=
  fun _ _ h => ⟨rfl, h.files, h.tools, h.calls⟩

theorem call (c : Call) : OrderFree (call c : Run ε (Except RunError Output)) :=
  fun _ _ h => ⟨congrArg Except.ok (h.replyTo c), h.after c⟩

/-- What goes on in the same way after each result cannot see the order. -/
theorem bind {x : Run ε α} {f : α → Run ε β} (hx : OrderFree x) (hf : ∀ a, OrderFree (f a)) :
    OrderFree (x >>= f) := by
  intro s t h
  obtain ⟨hresult, hafter⟩ := hx s t h
  rw [exec_bind, exec_bind, ← hresult]
  cases (exec x s).1 with
  | ok a => exact hf a _ _ hafter
  | error e => exact ⟨rfl, hafter⟩

/-- Files may be looked at, as long as what is done with them does not depend on the order. -/
theorem files {f : FileSystem → Run ε α} (hsame : ∀ fs fs' : FileSystem, fs.Rearranged fs' → f fs = f fs')
    (hf : ∀ fs, OrderFree (f fs)) : OrderFree (files >>= f) := by
  intro s t h
  rw [exec_bind_of_ok (exec_files s), exec_bind_of_ok (exec_files t), ← hsame _ _ h.files]
  exact hf _ s t h

end OrderFree

/-- What is done with a result makes no calls. -/
theorem calls_exec_bind_pure (x : Run ε α) (f : α → β) (s : Session) :
    (exec (x >>= fun a => Pure.pure (f a)) s).2.calls = (exec x s).2.calls := by
  rw [exec_bind]
  cases (exec x s).1 <;> rfl

end Run

/-! ## The library scan -/

theorem checkLibrary_orderFree (policy : Policy) (root : Path) (library : String) :
    OrderFree (checkLibrary policy root library) := by
  refine (OrderFree.call _).bind fun reply => ?_
  cases reply with
  | error cause => exact OrderFree.throw _
  | ok output => exact (OrderFree.leave _).bind fun _ => OrderFree.pure _

theorem checkLibraries_orderFree (policy : Policy) (root : Path) (libraries : List String) :
    OrderFree (checkLibraries policy root libraries) := by
  induction libraries with
  | nil => exact OrderFree.pure []
  | cons library rest ih =>
      exact (checkLibrary_orderFree policy root library).bind fun _ => ih.bind fun _ => OrderFree.pure _

/-- **The library scan cannot see the order**: the libraries are the same, and so are the calls. -/
theorem scanLibraries_orderFree (policy : Policy) (root : Path) : OrderFree (scanLibraries policy root) := by
  rw [scanLibraries]
  split
  · exact OrderFree.throw _
  · refine OrderFree.files (fun fs fs' h => ?_) fun fs => ?_
    · rw [h.libraries]
    · exact (checkLibraries_orderFree policy root _).bind fun _ => OrderFree.pure _

/-- Whatever the tool answers, it is called for the libraries in their order, up to one of them. -/
theorem exists_calls_checkLibraries (policy : Policy) (root : Path) (libraries : List String) (s : Session) :
    ∃ n, (exec (checkLibraries policy root libraries) s).2.calls =
      s.calls ++ (libraries.map (listingCall policy root)).take n := by
  induction libraries generalizing s with
  | nil => exact ⟨0, (List.append_nil _).symm⟩
  | cons library rest ih =>
      cases hreply : s.replyTo (listingCall policy root library) with
      | error cause =>
          refine ⟨1, ?_⟩
          rw [checkLibraries, exec_bind_of_error (exec_checkLibrary_of_error hreply)]
          exact calls_after s _
      | ok output =>
          obtain ⟨u, hchecked, halike⟩ := exec_checkLibrary_of_ok hreply
          obtain ⟨n, hcalls⟩ := ih u
          refine ⟨n + 1, ?_⟩
          rw [checkLibraries, exec_bind_of_ok hchecked, calls_exec_bind_pure, hcalls, ← halike.calls, calls_after,
            List.map_cons, List.take_succ_cons, List.append_assoc, List.singleton_append]

/-- Two scans of a root that is listed in two orders take their calls from one list in its order, whatever the tools
    answer. -/
theorem exists_calls_scanLibraries (policy : Policy) (root : Path) {s t : Session}
    (h : s.files.Rearranged t.files) :
    ∃ (commands : List Call) (m n : Nat),
      (exec (scanLibraries policy root) s).2.calls = s.calls ++ commands.take m ∧
        (exec (scanLibraries policy root) t).2.calls = t.calls ++ commands.take n := by
  cases hpattern : Pattern.parse policy.cryptoLibraryPattern with
  | error fault =>
      rw [scanLibraries, hpattern]
      exact ⟨[], 0, 0, (List.append_nil _).symm, (List.append_nil _).symm⟩
  | ok pattern =>
      have hsame := h.libraries root policy.libraryDirs pattern
      obtain ⟨m, hs⟩ := exists_calls_checkLibraries policy root (s.files.libraries root policy.libraryDirs pattern) s
      obtain ⟨n, ht⟩ := exists_calls_checkLibraries policy root (s.files.libraries root policy.libraryDirs pattern) t
      refine ⟨(s.files.libraries root policy.libraryDirs pattern).map (listingCall policy root), m, n, ?_, ?_⟩
      · rw [exec_scanLibraries hpattern, calls_exec_bind_pure]
        exact hs
      · rw [exec_scanLibraries hpattern, calls_exec_bind_pure, ← hsame]
        exact ht

/-! ## All scans -/

/-- **Scans do not depend on the order in which directories list their entries.** Two walks of a tree that visit the
    same entries in two orders without failure are scanned to the same summary and the same yes or no, with the same
    reports in another order; each report goes by the path of its file and what reading the file delivers. The same
    holds of the scans of two trees that are listed in two orders, unless the walk fails once it has begun: then the yes
    or no is the same. Their libraries are the same list in any case. So the library
    scans of both take their calls from one list in its order, whatever the tools answer, though an answer may end one
    of them earlier; and if the tools cannot see the order, then both come to the same with the same calls. -/
theorem scans_listingOrder (policy : Policy) (root : Path) :
    (∀ (fs : FileSystem) (entries entries' : List WalkEntry), entries.Perm entries' →
      let scan (visited : List WalkEntry) := scanItems (WalkEntry.report policy fs root) root {} (visited.map .ok)
      ∃ summary, (scan entries).outcome = .ok summary ∧ (scan entries).Reordered (scan entries')) ∧
    (∀ (fs fs' : FileSystem) (e e' : WalkEntry), e.path = e'.path →
      fs.read (Path.resolveUnder root (Path.innerTo root e.path)) =
        fs'.read (Path.resolveUnder root (Path.innerTo root e.path)) →
      e.report policy fs root = e'.report policy fs' root) ∧
    (∀ fs fs' : FileSystem, fs.Rearranged fs' →
      ((∀ e, .error e ∈ fs.walk root → fs.walk root = [.error e]) →
        (scanTree policy fs root).Reordered (scanTree policy fs' root)) ∧
      (scanTree policy fs root).allValid = (scanTree policy fs' root).allValid ∧
      ∀ directories pattern, fs.libraries root directories pattern = fs'.libraries root directories pattern) ∧
    (∀ s t : Session, s.files.Rearranged t.files → ∃ (commands : List Call) (m n : Nat),
      (exec (scanLibraries policy root) s).2.calls = s.calls ++ commands.take m ∧
        (exec (scanLibraries policy root) t).2.calls = t.calls ++ commands.take n) ∧
    ∀ s t : Session, s.Rearranged t →
      (exec (scanLibraries policy root) s).1 = (exec (scanLibraries policy root) t).1 ∧
        (exec (scanLibraries policy root) s).2.calls = (exec (scanLibraries policy root) t).2.calls := by
  refine ⟨?_, ?_, ?_, ?_, ?_⟩
  · intro fs entries entries' hperm
    exact scanItems_reordered (WalkEntry.report policy fs root) root hperm
  · intro fs fs' e e' hpath hread
    exact e.report_congr policy root hpath hread
  · intro fs fs' h
    obtain ⟨hyes, hreordered⟩ := scanTree_reordered policy root h
    exact ⟨hreordered, hyes, h.libraries root⟩
  · intro s t h
    exact exists_calls_scanLibraries policy root h
  · intro s t h
    obtain ⟨hresult, hafter⟩ := scanLibraries_orderFree policy root s t h
    exact ⟨hresult, hafter.calls⟩

/-- A library directory with two versions of a library, the later one listed first. -/
def twoVersions : FileSystem where
  entries := [
    (FileSystem.placeOf ["r"], .directory),
    (FileSystem.placeOf ["r", "lib64"], .directory),
    (FileSystem.placeOf ["r", "lib64", "libcrypto.so.3"], .file 0o755 .empty),
    (FileSystem.placeOf ["r", "lib64", "libcrypto.so.1.1"], .file 0o755 .empty)]
  nodup := by decide

/-- The same directory with the earlier version listed first. -/
def twoVersionsReversed : FileSystem where
  entries := twoVersions.entries.reverse
  nodup := by decide

theorem libraries_twoVersionsReversed :
    twoVersionsReversed.libraries (.ofString "/r") ["/lib64"] .empty =
      ["/lib64/libcrypto.so.1.1", "/lib64/libcrypto.so.3"] := by
  have hentries : twoVersionsReversed.libraryEntries (.ofString "/r") "/lib64" =
      [(Utf8.encode "libcrypto.so.1.1", .file 0o755 .empty), (Utf8.encode "libcrypto.so.3", .file 0o755 .empty)] := by
    simp only [FileSystem.libraryEntries_eq]
    cbv
  have hmatch : ([(Utf8.encode "libcrypto.so.1.1", .file 0o755 .empty),
      (Utf8.encode "libcrypto.so.3", .file 0o755 .empty)].filterMap regularName?).filter Pattern.empty.isMatch =
      ["libcrypto.so.1.1", "libcrypto.so.3"] := by
    cbv
  have hnames : matchingNames .empty (twoVersionsReversed.libraryEntries (.ofString "/r") "/lib64") =
      ["libcrypto.so.1.1", "libcrypto.so.3"] := by
    rw [matchingNames, hentries, hmatch]
    exact List.mergeSort_of_pairwise (by decide)
  rw [FileSystem.libraries, List.flatMap_singleton, hnames]
  cbv

/-- The files with a tool that has nothing to say. -/
def withSilentTool (files : FileSystem) : Session where
  files := files
  tools := fun _ _ _ => { result := .ok {} }

/-- A library that the walk of such a root visits. -/
def visitedLibrary (name : String) : WalkEntry := ⟨.ofString ("/r/lib64/" ++ name), .file 0o755 .empty⟩

/-- The earlier version comes first, in whatever order the directory lists them, and the report on the later one is that
    of another root with the same library. -/
theorem scans_listingOrder_twoVersions :
    let policy : Policy := { libraryDirs := ["/lib64"], cryptoLibraryPattern := "" }
    let root := Path.ofString "/r"
    let scan (visited : List WalkEntry) :=
      scanItems (WalkEntry.report policy twoVersions root) root {} (visited.map .ok)
    let calls (files : FileSystem) := (exec (scanLibraries policy root) (withSilentTool files)).2.calls
    (scan [visitedLibrary "libcrypto.so.3", visitedLibrary "libcrypto.so.1.1"]).Reordered
        (scan [visitedLibrary "libcrypto.so.1.1", visitedLibrary "libcrypto.so.3"]) ∧
      (visitedLibrary "libcrypto.so.3").report policy twoVersions root =
        (visitedLibrary "libcrypto.so.3").report policy twoLibraries root ∧
      (scanTree policy twoVersions root).Reordered (scanTree policy twoVersionsReversed root) ∧
      twoVersions.libraries root ["/lib64"] .empty = ["/lib64/libcrypto.so.1.1", "/lib64/libcrypto.so.3"] ∧
      calls twoVersions = calls twoVersionsReversed ∧
      calls twoVersionsReversed = [
        { program := "nm", arguments := ["-D", "/r/lib64/libcrypto.so.1.1"] },
        { program := "nm", arguments := ["-D", "/r/lib64/libcrypto.so.3"] }] := by
  intro policy root scan calls
  have hread : twoVersions.read (Path.resolveUnder root (Path.innerTo root (visitedLibrary "libcrypto.so.3").path)) =
      twoLibraries.read (Path.resolveUnder root (Path.innerTo root (visitedLibrary "libcrypto.so.3").path)) := by
    cbv
  have hrearranged : twoVersions.Rearranged twoVersionsReversed :=
    FileSystem.rearranged_of_perm (List.reverse_perm _).symm rfl rfl rfl
  obtain ⟨hwalks, hreport, htrees, -, hsessions⟩ := scans_listingOrder policy root
  obtain ⟨-, -, hreordered⟩ := hwalks twoVersions _ _
    (List.Perm.swap (visitedLibrary "libcrypto.so.1.1") (visitedLibrary "libcrypto.so.3") [])
  have hwalk : ∀ e, .error e ∈ twoVersions.walk (.ofString "/r") → twoVersions.walk (.ofString "/r") = [.error e] := by
    have hended : (twoVersions.walk (.ofString "/r")).all Except.isOk = true := by cbv
    exact fun e he => absurd (List.all_eq_true.mp hended _ he) Bool.false_ne_true
  obtain ⟨hreorder, -, hsame⟩ := htrees _ _ hrearranged
  have hscan := hreorder hwalk
  obtain ⟨-, hcalls⟩ := hsessions (withSilentTool twoVersions) (withSilentTool twoVersionsReversed)
    ⟨hrearranged, fun _ _ _ _ _ => rfl, rfl⟩
  refine ⟨hreordered, hreport _ _ _ _ rfl hread, hscan, (hsame _ _).trans libraries_twoVersionsReversed, hcalls, ?_⟩
  have hpattern : Pattern.parse policy.cryptoLibraryPattern = .ok .empty := rfl
  have hlibraries : (withSilentTool twoVersionsReversed).files.libraries root policy.libraryDirs .empty =
      ["/lib64/libcrypto.so.1.1", "/lib64/libcrypto.so.3"] := libraries_twoVersionsReversed
  have hlisted : (withSilentTool twoVersionsReversed).repliesTo
      (["/lib64/libcrypto.so.1.1", "/lib64/libcrypto.so.3"].map (listingCall policy root)) =
      [({} : Output), {}].map .ok := rfl
  obtain ⟨reasons, t, hexec, -, hmade⟩ := exec_checkLibraries_of_listed hlisted
  show (exec (scanLibraries policy root) (withSilentTool twoVersionsReversed)).2.calls = _
  rw [exec_scanLibraries hpattern, hlibraries, exec_bind_of_ok hexec]
  refine hmade.trans ?_
  cbv

end FipsAudit
