import FipsAudit.Proofs.FileSystem.Walk
import FipsAudit.Report

/-!
# `FipsAudit.Proofs.TreeScan` — when a scan is clean

A scan is clean if the walk did not fail and every report passed. What the scan goes by are walk items and counters;
this file says what its being clean means for the tree.

* `Node.Executable`, `Node.isExecutable_iff` — files that someone may execute.
* `Accepts` — a file passes or is skipped.
* `Scan.Clean`, `scanItems_clean_iff` — clean scans, for any sequence of walk items.
* `CleanTree`, `scanTree_clean_iff` — clean trees are those whose scans are clean.
-/

namespace FipsAudit

/-! ## Executables -/

namespace Node

/-- A regular file that its owner, its group or others may execute. -/
inductive Executable : Node → Prop
  | file {mode : Nat} {content : ByteArray} (bit : mode.testBit 6 ∨ mode.testBit 3 ∨ mode.testBit 0) :
    Executable (.file mode content)

theorem testBit_executeBits (i : Nat) : executeBits.testBit i = true ↔ i = 6 ∨ i = 3 ∨ i = 0 := by
  have hbits : executeBits = 2 ^ 6 ||| 2 ^ 3 ||| 2 ^ 0 := rfl
  rw [hbits, Nat.testBit_or, Nat.testBit_or, Nat.testBit_two_pow, Nat.testBit_two_pow, Nat.testBit_two_pow]
  simp only [Bool.or_eq_true, decide_eq_true_eq, or_assoc, eq_comm (b := i)]

/-- Some execute bit is set exactly if it is one of the three. -/
theorem and_executeBits_ne_zero {mode : Nat} :
    mode &&& executeBits ≠ 0 ↔ mode.testBit 6 ∨ mode.testBit 3 ∨ mode.testBit 0 := by
  have hbit (i : Nat) : (mode &&& executeBits).testBit i = true ↔ mode.testBit i ∧ (i = 6 ∨ i = 3 ∨ i = 0) := by
    rw [Nat.testBit_and, Bool.and_eq_true, testBit_executeBits]
  constructor
  · intro h
    obtain ⟨i, hi⟩ := Nat.exists_testBit_of_ne_zero h
    obtain ⟨hmode, rfl | rfl | rfl⟩ := (hbit i).mp hi
    · exact .inl hmode
    · exact .inr (.inl hmode)
    · exact .inr (.inr hmode)
  · intro hmode hzero
    simp only [hzero, Nat.zero_testBit, Bool.false_eq_true, false_iff, not_and] at hbit
    rcases hmode with hmode | hmode | hmode
    · exact hbit 6 hmode (.inl rfl)
    · exact hbit 3 hmode (.inr (.inl rfl))
    · exact hbit 0 hmode (.inr (.inr rfl))

/-- **The scan takes a node for an executable exactly if it is one.** -/
theorem isExecutable_iff {node : Node} : node.isExecutable = true ↔ node.Executable := by
  constructor
  · intro h
    cases node with
    | directory => cases h
    | link target => cases h
    | file mode content => exact .file (and_executeBits_ne_zero.mp (bne_iff_ne.mp h))
  · rintro ⟨bit⟩
    exact bne_iff_ne.mpr (and_executeBits_ne_zero.mpr bit)

instance : DecidablePred Executable := fun _ => decidable_of_iff _ isExecutable_iff

end Node

/-! ## Files -/

/-- The policy accepts the file at `path`, taken inside `root`: the file passes or is skipped. -/
def Accepts (policy : Policy) (fs : FileSystem) (root path : Path) : Prop :=
  (validate policy fs root path).value = .ok .passed ∨
    ∃ reason, (validate policy fs root path).value = .ok (.skipped reason)

/-- Only passed and skipped files are successes. -/
theorem BinaryReport.passed_iff (r : BinaryReport) :
    r.passed = true ↔ r.result = .ok .passed ∨ ∃ reason, r.result = .ok (.skipped reason) := by
  cases r with
  | mk path result =>
      cases result with
      | error e => simp [passed]
      | ok outcome => cases outcome <;> simp [passed, Outcome.isSuccess]

/-- The report on an entry passes exactly if the policy accepts its file. -/
theorem WalkEntry.report_passed_iff (policy : Policy) (fs : FileSystem) (root : Path) (e : WalkEntry) :
    (e.report policy fs root).value.passed = true ↔ Accepts policy fs root (Path.innerTo root e.path) :=
  BinaryReport.passed_iff _

/-- An entry of a report is a success exactly if what it is the entry of passed. -/
theorem BinaryEntry.passed_ofReport (r : BinaryReport) : (BinaryEntry.ofReport r).passed = r.passed := by
  cases r with
  | mk path result =>
      cases result with
      | error e => rfl
      | ok outcome => cases outcome <;> rfl

/-! ## Scans -/

/-- A scan to its end without a report that did not pass. -/
structure Scan.Clean (s : Scan) : Prop where
  /-- The walk did not fail. -/
  finished : ∃ summary, s.outcome = .ok summary
  /-- Every report passed. -/
  passed : ∀ r ∈ s.reports, r.value.passed = true

/-- Nothing that the walk delivers gets lost: a scan is clean exactly if there was no failure among the items and
    the report on every executable passes. -/
theorem scanItems_clean_iff (report : WalkEntry → Logged BinaryReport) (root : Path) (summary : Summary)
    (items : List WalkItem) :
    (scanItems report root summary items).Clean ↔
      (∀ e, .error e ∉ items) ∧
        ∀ entry, .ok entry ∈ items → entry.node.Executable → (report entry).value.passed = true := by
  induction items generalizing summary with
  | nil => exact ⟨fun _ => by simp, fun _ => ⟨⟨summary, rfl⟩, by simp [scanItems]⟩⟩
  | cons item rest ih =>
      cases item with
      | error e =>
          constructor
          · rintro ⟨⟨_, hfinished⟩, -⟩
            contradiction
          · rintro ⟨hnone, -⟩
            exact absurd List.mem_cons_self (hnone e)
      | ok entry =>
          -- The items after this one are clean on their own; what remains is the report on this one.
          have hsplit : ((∀ e, .error e ∉ Except.ok entry :: rest) ∧
              ∀ entry', .ok entry' ∈ Except.ok entry :: rest → entry'.node.Executable →
                (report entry').value.passed = true) ↔
              (entry.node.Executable → (report entry).value.passed = true) ∧
                (scanItems report root summary rest).Clean := by
            simp only [ih summary, List.mem_cons, reduceCtorEq, false_or, Except.ok.injEq, forall_eq_or_imp]
            exact and_left_comm
          rw [hsplit, scanItems]
          by_cases hexec : entry.node.Executable
          · rw [if_pos (Node.isExecutable_iff.mpr hexec)]
            have hrest := (ih (summary.record (report entry).value)).trans (ih summary).symm
            constructor
            · rintro ⟨hfinished, hpassed⟩
              exact ⟨fun _ => hpassed _ List.mem_cons_self,
                hrest.mp ⟨hfinished, fun r hr => hpassed r (List.mem_cons_of_mem _ hr)⟩⟩
            · rintro ⟨hentry, hclean⟩
              obtain ⟨hfinished, hpassed⟩ := hrest.mpr hclean
              refine ⟨hfinished, fun r hr => ?_⟩
              rcases List.mem_cons.mp hr with rfl | hr
              · exact hentry hexec
              · exact hpassed r hr
          · rw [if_neg (mt Node.isExecutable_iff.mp hexec)]
            exact ⟨fun hclean => ⟨fun h => absurd h hexec, hclean⟩, fun h => h.2⟩

/-! ## Trees -/

/-- A tree that the policy has nothing against: it can be walked, and every executable in it is accepted. -/
structure CleanTree (policy : Policy) (fs : FileSystem) (root : Path) : Prop where
  /-- The walk does not fail. -/
  walked : ∀ e, .error e ∉ fs.walk root
  /-- Every regular file with an execute bit passes or is skipped. -/
  accepted : ∀ entry, fs.Under root entry → entry.node.Executable →
    Accepts policy fs root (Path.innerTo root entry.path)

/-- The scan of a tree is clean exactly if the tree is. -/
theorem scanTree_clean_iff (policy : Policy) (fs : FileSystem) (root : Path) :
    (scanTree policy fs root).Clean ↔ CleanTree policy fs root := by
  rw [scanTree, scanItems_clean_iff]
  constructor
  · rintro ⟨hwalked, hpassed⟩
    refine ⟨hwalked, fun entry hunder hexec => ?_⟩
    exact (entry.report_passed_iff policy fs root).mp (hpassed entry ((FileSystem.mem_walk_iff hwalked).mpr hunder) hexec)
  · rintro ⟨hwalked, haccepted⟩
    refine ⟨hwalked, fun entry hmem hexec => ?_⟩
    exact (entry.report_passed_iff policy fs root).mpr (haccepted entry ((FileSystem.mem_walk_iff hwalked).mp hmem) hexec)

end FipsAudit
