import FipsAudit.LibraryScan
import FipsAudit.Proofs.Ending
import FipsAudit.Proofs.LibraryRoot
import FipsAudit.Proofs.Text.Pieces

/-!
# `FipsAudit.Proofs.LibraryVerdict` — what a library scan comes to

A scan has a tool list the symbols of each library, one library after the other. The tool may answer anything, and each
answer may depend on the calls before it. So the scan is described by its answers: the first one that is lost ends the
scan, and if none is, the reasons of the verdict follow the libraries, at most one reason for each.

* `Session.repliesTo` — what becomes of calls that are made one after the other.
* `Indicated`, `Objections` — what is held against libraries, given the outputs of the tool.
* `exec_checkLibrary_of_error`, `exec_checkLibrary_of_ok` — one library.
* `exec_checkLibraries_of_lost`, `exec_checkLibraries_of_listed` — all libraries.
* `scanLibraries_verdict` — the whole scan.
-/

namespace FipsAudit

open Run Session Text

/-! ## Replies -/

/-- What becomes of calls that are made one after the other. -/
def Session.repliesTo (s : Session) : List Call → List (Except RunError Output)
  | [] => []
  | c :: cs => s.replyTo c :: (s.after c).repliesTo cs

/-- Notes and prints make no difference to the replies. -/
theorem Session.Alike.repliesTo {s t : Session} (h : Alike s t) (cs : List Call) : s.repliesTo cs = t.repliesTo cs := by
  induction cs generalizing s t with
  | nil => rfl
  | cons c cs ih => rw [Session.repliesTo, Session.repliesTo, h.replyTo c, ih (h.after c)]

/-! ## Verdicts -/

variable {policy : Policy} {root : Path}

/-- The tool's listing holds one of the indicators of FIPS mode. -/
def Indicated (policy : Policy) (output : Output) : Prop :=
  ∃ symbol ∈ policy.fipsIndicatorSymbols, symbol.toList <:+: (Utf8.decodeLossy output.stdout).toList

theorem isSome_indicator?_iff {output : Output} :
    (policy.indicator? (Utf8.decodeLossy output.stdout)).isSome = true ↔ Indicated policy output := by
  simp only [Policy.indicator?, List.find?_isSome, occursIn_iff, Indicated]

/-- **What is held against libraries**, given the outputs of the tool for each of them. -/
inductive Objections (policy : Policy) : List String → List Output → List Violation → Prop where
  | nil : Objections policy [] [] []
  /-- The tool failed. -/
  | unlisted {library : String} {output : Output} {libraries : List String} {outputs : List Output}
      {reasons : List Violation} (code : output.exitCode ≠ 0) (rest : Objections policy libraries outputs reasons) :
      Objections policy (library :: libraries) (output :: outputs)
        (.symbolListingFailed library (Utf8.decodeLossy output.stderr) :: reasons)
  /-- No indicator is in the listing. -/
  | incapable {library : String} {output : Output} {libraries : List String} {outputs : List Output}
      {reasons : List Violation} (code : output.exitCode = 0) (indicated : ¬Indicated policy output)
      (rest : Objections policy libraries outputs reasons) :
      Objections policy (library :: libraries) (output :: outputs) (.notFipsCapable library :: reasons)
  /-- Nothing is wrong with the library. -/
  | capable {library : String} {output : Output} {libraries : List String} {outputs : List Output}
      {reasons : List Violation} (code : output.exitCode = 0) (indicated : Indicated policy output)
      (rest : Objections policy libraries outputs reasons) :
      Objections policy (library :: libraries) (output :: outputs) reasons

namespace Objections

/-- One library is judged by its own output alone. -/
theorem judge {library : String} {output : Output} {libraries : List String} {outputs : List Output}
    {reasons : List Violation} (h : Objections policy libraries outputs reasons) :
    Objections policy (library :: libraries) (output :: outputs)
      ((judgeListing policy library output).toList ++ reasons) := by
  rw [judgeListing]
  by_cases hcode : output.exitCode = 0
  · rw [if_pos (output.success_iff.mpr hcode)]
    cases hindicator : policy.indicator? (Utf8.decodeLossy output.stdout) with
    | some symbol => exact .capable hcode (isSome_indicator?_iff.mp (by rw [hindicator]; rfl)) h
    | none =>
        refine .incapable hcode (fun hindicated => ?_) h
        have hsome := isSome_indicator?_iff.mpr hindicated
        rw [hindicator] at hsome
        cases hsome
  · rw [if_neg (fun hsuccess => hcode (output.success_iff.mp hsuccess))]
    exact .unlisted hcode h

/-- There are no reasons exactly if every listing went well and holds an indicator. -/
theorem eq_nil_iff {libraries : List String} {outputs : List Output} {reasons : List Violation}
    (h : Objections policy libraries outputs reasons) :
    reasons = [] ↔ ∀ output ∈ outputs, output.exitCode = 0 ∧ Indicated policy output := by
  induction h with
  | nil => exact iff_of_true rfl (fun output hmem => absurd hmem List.not_mem_nil)
  | unlisted code _ _ =>
      exact iff_of_false (List.cons_ne_nil _ _) fun hall => code (hall _ List.mem_cons_self).1
  | incapable _ indicated _ _ =>
      exact iff_of_false (List.cons_ne_nil _ _) fun hall => indicated (hall _ List.mem_cons_self).2
  | capable code indicated _ ih =>
      rw [ih, List.forall_mem_cons]
      exact (and_iff_right ⟨code, indicated⟩).symm

/-- The verdict of a scan: no library at all is a reason too, and then there is no other. -/
theorem verdict {libraries : List String} {outputs : List Output} {reasons : List Violation}
    (h : Objections policy libraries outputs reasons) :
    let verdict : Verdict := ⟨(if libraries.isEmpty then [.libraryNotFound] else []) ++ reasons⟩
    (libraries = [] → verdict.reasons = [.libraryNotFound]) ∧
      (libraries ≠ [] → Objections policy libraries outputs verdict.reasons) ∧
      (verdict.ok = true ↔ libraries ≠ [] ∧ ∀ output ∈ outputs, output.exitCode = 0 ∧ Indicated policy output) := by
  cases libraries with
  | nil =>
      cases h
      exact ⟨fun _ => rfl, fun hne => absurd rfl hne, iff_of_false Bool.false_ne_true fun hne => hne.1 rfl⟩
  | cons library rest =>
      refine ⟨fun hnil => absurd hnil (List.cons_ne_nil _ _), fun _ => h, ?_⟩
      rw [Verdict.ok, List.isEmpty_iff, and_iff_right (List.cons_ne_nil _ _)]
      exact h.eq_nil_iff

end Objections

/-! ## One library -/

variable {s : Session} {library : String} {libraries : List String}

theorem exec_checkLibrary_of_error {cause : RunError} (h : s.replyTo (listingCall policy root library) = .error cause) :
    exec (checkLibrary policy root library) s =
      (.error (.listing library cause), s.after (listingCall policy root library)) := by
  rw [checkLibrary, exec_bind_of_ok (exec_call _ s), h]
  rfl

theorem exec_checkLibrary_of_ok {output : Output} (h : s.replyTo (listingCall policy root library) = .ok output) :
    ∃ t, exec (checkLibrary policy root library) s = (.ok (judgeListing policy library output), t) ∧
      Alike (s.after (listingCall policy root library)) t := by
  have htells : Tells (do
      leave (listingNotes policy library output)
      return judgeListing policy library output : Run LibraryScanError (Option Violation))
        (judgeListing policy library output) := (Tells.leave _).bind (Tells.pure _)
  rw [checkLibrary, exec_bind_of_ok (exec_call _ s), h]
  exact htells _

/-! ## All libraries -/

/-- **The first lost reply ends the checks**: no later library is examined. -/
theorem exec_checkLibraries_of_lost {i : Nat} {cause : RunError}
    (hlost : (s.repliesTo (libraries.map (listingCall policy root)))[i]? = some (.error cause))
    (hbefore : ∀ j < i, ∃ output, (s.repliesTo (libraries.map (listingCall policy root)))[j]? = some (.ok output)) :
    ∃ library t, libraries[i]? = some library ∧
      exec (checkLibraries policy root libraries) s = (.error (.listing library cause), t) ∧
      t.calls = s.calls ++ (libraries.map (listingCall policy root)).take (i + 1) := by
  induction libraries generalizing s i with
  | nil => cases hlost
  | cons library rest ih =>
      cases i with
      | zero =>
          have hreply : s.replyTo (listingCall policy root library) = .error cause := Option.some.inj hlost
          exact ⟨library, _, rfl, exec_bind_of_error (exec_checkLibrary_of_error hreply) _, rfl⟩
      | succ i =>
          obtain ⟨output, hfirst⟩ := hbefore 0 (Nat.succ_pos i)
          have hreply : s.replyTo (listingCall policy root library) = .ok output := Option.some.inj hfirst
          obtain ⟨u, hchecked, halike⟩ := exec_checkLibrary_of_ok hreply
          -- The rest of the replies come from a session that is alike.
          have hrest : (s.after (listingCall policy root library)).repliesTo (rest.map (listingCall policy root)) =
              u.repliesTo (rest.map (listingCall policy root)) := halike.repliesTo _
          obtain ⟨missed, t, hmissed, hexec, hcalls⟩ := ih (s := u) (i := i) (hrest ▸ hlost)
            (fun j hj => hrest ▸ hbefore (j + 1) (Nat.succ_lt_succ hj))
          refine ⟨missed, t, hmissed, (exec_bind_of_ok hchecked _).trans (exec_bind_of_error hexec _), ?_⟩
          rw [hcalls, ← halike.calls, calls_after, List.map_cons, List.take_succ_cons, List.append_assoc,
            List.singleton_append]

/-- **Without a lost reply all libraries are examined**, and the reasons follow the libraries. -/
theorem exec_checkLibraries_of_listed {outputs : List Output}
    (h : s.repliesTo (libraries.map (listingCall policy root)) = outputs.map .ok) :
    ∃ reasons t, exec (checkLibraries policy root libraries) s = (.ok reasons, t) ∧
      Objections policy libraries outputs reasons ∧
      t.calls = s.calls ++ libraries.map (listingCall policy root) := by
  induction libraries generalizing s outputs with
  | nil =>
      obtain rfl : outputs = [] := List.map_eq_nil_iff.mp h.symm
      exact ⟨[], s, rfl, .nil, (List.append_nil _).symm⟩
  | cons library rest ih =>
      cases outputs with
      | nil => cases h
      | cons output outputs =>
          obtain ⟨hreply, hreplies⟩ := List.cons.inj h
          obtain ⟨u, hchecked, halike⟩ := exec_checkLibrary_of_ok hreply
          obtain ⟨reasons, t, hexec, hobjections, hcalls⟩ := ih (s := u) ((halike.repliesTo _).symm.trans hreplies)
          refine ⟨_, t, (exec_bind_of_ok hchecked _).trans (exec_bind_of_ok hexec _), hobjections.judge, ?_⟩
          rw [hcalls, ← halike.calls, calls_after, List.map_cons, List.append_assoc, List.singleton_append]

/-! ## The scan -/

/-- The scan finds all libraries before it checks the first one. -/
theorem exec_scanLibraries {pattern : Pattern} (h : Pattern.parse policy.cryptoLibraryPattern = .ok pattern)
    (root : Path) (s : Session) :
    let libraries := s.files.libraries root policy.libraryDirs pattern
    exec (scanLibraries policy root) s =
      exec (do
        let violations ← checkLibraries policy root libraries
        return ⟨libraries, ⟨(if libraries.isEmpty then [.libraryNotFound] else []) ++ violations⟩⟩) s := by
  rw [scanLibraries, h]
  exact exec_bind_of_ok (exec_files s) _

/-- **What a library scan comes to**, whatever the tool answers. The tool is called once for each library that was
    found, in their order, until a call has no output. If one has none, the scan fails for the library of that call. If
    all have one, the scan delivers the libraries, and the verdict on them holds what is held against each by its own
    output, or that there is no library at all. So the verdict is good exactly if there is a library and all listings
    went well and hold an indicator. -/
theorem scanLibraries_verdict {pattern : Pattern} (h : Pattern.parse policy.cryptoLibraryPattern = .ok pattern)
    (root : Path) (s : Session) :
    let libraries := s.files.libraries root policy.libraryDirs pattern
    let calls : List Call := libraries.map fun library =>
      { program := policy.nmCommand, arguments := ["-D", (Path.resolveUnder root (.ofString library)).text] }
    let result := (exec (scanLibraries policy root) s).1
    let made := (exec (scanLibraries policy root) s).2.calls
    (∀ i cause, (s.repliesTo calls)[i]? = some (.error cause) →
      (∀ j < i, ∃ output, (s.repliesTo calls)[j]? = some (.ok output)) →
      ∃ library, libraries[i]? = some library ∧ result = .error (.listing library cause) ∧
        made = s.calls ++ calls.take (i + 1)) ∧
    ∀ outputs, s.repliesTo calls = outputs.map .ok →
      ∃ verdict, result = .ok ⟨libraries, verdict⟩ ∧ made = s.calls ++ calls ∧
        (libraries = [] → verdict.reasons = [.libraryNotFound]) ∧
        (libraries ≠ [] → Objections policy libraries outputs verdict.reasons) ∧
        (verdict.ok = true ↔ libraries ≠ [] ∧ ∀ output ∈ outputs, output.exitCode = 0 ∧ Indicated policy output) := by
  intro libraries calls result made
  have hscan := exec_scanLibraries h root s
  refine ⟨fun i cause hlost hbefore => ?_, fun outputs hlisted => ?_⟩
  · obtain ⟨library, t, hlibrary, hexec, hcalls⟩ := exec_checkLibraries_of_lost hlost hbefore
    have hended := hscan.trans (exec_bind_of_error hexec _)
    exact ⟨library, hlibrary, congrArg (·.1) hended, (congrArg (·.2.calls) hended).trans hcalls⟩
  · obtain ⟨reasons, t, hexec, hobjections, hcalls⟩ := exec_checkLibraries_of_listed hlisted
    have hended := hscan.trans (exec_bind_of_ok hexec _)
    exact ⟨_, congrArg (·.1) hended, (congrArg (·.2.calls) hended).trans hcalls, hobjections.verdict⟩

/-- A root with two libraries. -/
def twoLibraries : FileSystem where
  entries := [
    (FileSystem.placeOf ["r"], .directory),
    (FileSystem.placeOf ["r", "lib64"], .directory),
    (FileSystem.placeOf ["r", "lib64", "libcrypto.so.3"], .file 0o755 .empty),
    (FileSystem.placeOf ["r", "lib"], .directory),
    (FileSystem.placeOf ["r", "lib", "libcrypto.so.3"], .file 0o755 .empty)]
  nodup := by decide

/-- The first library is listed with an indicator, then comes another reply. -/
def listedThen (reply : Except Failure Output) : Session where
  files := twoLibraries
  tools := fun made _ _ => { result := if made = 0 then .ok { stdout := Utf8.encode "T FIPS_mode" } else reply }

/-- The reply for the second library decides: without an output the scan fails for it, and a listing without an
    indicator is the only reason against the root. -/
theorem scanLibraries_verdict_twoLibraries :
    let policy : Policy := { libraryDirs := ["/lib64", "/lib"], cryptoLibraryPattern := "" }
    let result (second : Except Failure Output) := (exec (scanLibraries policy (.ofString "/r")) (listedThen second)).1
    Pattern.parse policy.cryptoLibraryPattern = .ok .empty ∧
      result (.error .canceled) = .error (.listing "/lib/libcrypto.so.3" ⟨"nm", .canceled⟩) ∧
      ∃ verdict, result (.ok {}) = .ok ⟨["/lib64/libcrypto.so.3", "/lib/libcrypto.so.3"], verdict⟩ ∧
        verdict.reasons = [.notFipsCapable "/lib/libcrypto.so.3"] := by
  intro policy result
  have hpattern : Pattern.parse policy.cryptoLibraryPattern = .ok .empty := rfl
  have hlibraries (second : Except Failure Output) : (listedThen second).files.libraries (.ofString "/r")
      policy.libraryDirs .empty = ["/lib64/libcrypto.so.3", "/lib/libcrypto.so.3"] := by
    show twoLibraries.libraries (.ofString "/r") ["/lib64", "/lib"] .empty = _
    simp only [FileSystem.libraries, FileSystem.libraryEntries_eq]
    cbv
  refine ⟨hpattern, ?_, ?_⟩
  · have hscan := (scanLibraries_verdict hpattern (.ofString "/r") (listedThen (.error .canceled))).1
    rw [hlibraries] at hscan
    obtain ⟨library, hlibrary, hresult, -⟩ := hscan 1 ⟨"nm", .canceled⟩ rfl fun j hj => by
      obtain rfl : j = 0 := Nat.lt_one_iff.mp hj
      exact ⟨_, rfl⟩
    obtain rfl : "/lib/libcrypto.so.3" = library := Option.some.inj hlibrary
    exact hresult
  · have hscan := (scanLibraries_verdict hpattern (.ofString "/r") (listedThen (.ok {}))).2
    rw [hlibraries] at hscan
    obtain ⟨⟨reasons⟩, hresult, -, -, hobjections, -⟩ := hscan [{ stdout := Utf8.encode "T FIPS_mode" }, {}] rfl
    refine ⟨⟨reasons⟩, hresult, ?_⟩
    have hindicated : Indicated policy { stdout := Utf8.encode "T FIPS_mode" } := isSome_indicator?_iff.mp (by cbv)
    have hmissing : ¬Indicated policy {} := isSome_indicator?_iff.not.mp (by decide)
    cases hobjections (List.cons_ne_nil _ _) with
    | unlisted code => exact absurd rfl code
    | incapable _ indicated => exact absurd hindicated indicated
    | capable _ _ rest =>
        cases rest with
        | unlisted code => exact absurd rfl code
        | capable _ indicated => exact absurd indicated hmissing
        | incapable _ _ rest =>
            cases rest
            rfl

end FipsAudit
