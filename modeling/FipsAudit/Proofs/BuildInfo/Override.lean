import FipsAudit.Proofs.BuildInfo.ModuleText

/-!
# `FipsAudit.Proofs.BuildInfo.Override` — later lines override earlier ones

A line changes the record by what it says itself: the record of the line alone is laid over the record so far. Laying
one record over another is associative, so a whole text changes a record by the record of the text alone. Lines can be
grouped in any way, therefore, lines that say nothing can come and go, and build lines with different keys can change
places.

* `BuildMetadata.override` — one record laid over another, which is associative.
* `addLine_eq_override` — a line lays its own record over the record so far.
* `addLines_eq_override` — so does a sequence of lines.
* `Tells`, `addLines_filter_tells` — lines that say nothing.
* `buildKey?`, `addLines_perm` — build lines with different keys, in any order.
* `parseModuleText_append` — whole texts.
-/

namespace FipsAudit

/-! ## Records over records -/

/-- Settings with different keys can be recorded in any order. -/
theorem Settings.insert_comm {key key' : String} (h : key ≠ key') (settings : Settings) (value value' : String) :
    (settings.insert key value).insert key' value' = (settings.insert key' value').insert key value := by
  apply Std.ExtTreeMap.ext_getElem?
  intro other
  simp only [Std.ExtTreeMap.getElem?_insert, Std.LawfulEqCmp.compare_eq_iff_eq]
  by_cases hother : key' = other
  · subst hother
    simp [h]
  · simp [hother]

/-- The record with another one laid over it: what the other one says counts. -/
def BuildMetadata.override (m later : BuildMetadata) : BuildMetadata where
  runtimeVersion := m.runtimeVersion
  path := later.path.or m.path
  mainModule := later.mainModule.or m.mainModule
  settings := m.settings ∪ later.settings

namespace BuildMetadata

/-- Records are equal if they say the same. -/
theorem ext_setting? {m m' : BuildMetadata} (hversion : m.runtimeVersion = m'.runtimeVersion) (hpath : m.path = m'.path)
    (hmodule : m.mainModule = m'.mainModule) (hsettings : ∀ key, m.setting? key = m'.setting? key) : m = m' := by
  obtain ⟨version, path, mainModule, settings⟩ := m
  obtain ⟨version', path', mainModule', settings'⟩ := m'
  obtain rfl : settings = settings' := Std.ExtTreeMap.ext_getElem? hsettings
  subst hversion hpath hmodule
  rfl

theorem setting?_override (m later : BuildMetadata) (key : String) :
    (m.override later).setting? key = (later.setting? key).or (m.setting? key) :=
  Std.ExtTreeMap.getElem?_union

/-- The value of a setting after another one was recorded. -/
theorem setting?_insert (m : BuildMetadata) (key value other : String) :
    setting? { m with settings := m.settings.insert key value } other =
      if key = other then some value else m.setting? other := by
  simp only [setting?, Std.ExtTreeMap.getElem?_insert, Std.LawfulEqCmp.compare_eq_iff_eq]

theorem setting?_new (runtimeVersion key : String) : setting? { runtimeVersion } key = none :=
  Std.ExtTreeMap.getElem?_empty

/-- A record that says nothing changes nothing. -/
theorem override_new (m : BuildMetadata) (runtimeVersion : String) : m.override { runtimeVersion } = m := by
  refine ext_setting? rfl rfl rfl fun key => ?_
  rw [setting?_override, setting?_new, Option.none_or]

theorem override_assoc (m later last : BuildMetadata) :
    (m.override later).override last = m.override (later.override last) := by
  refine ext_setting? rfl Option.or_assoc.symm Option.or_assoc.symm fun key => ?_
  simp only [setting?_override, Option.or_assoc]

/-- To record a setting is to lay a record of that setting over. -/
theorem override_insert (m : BuildMetadata) (runtimeVersion key value : String) :
    m.override { runtimeVersion, settings := ({} : Settings).insert key value } =
      { m with settings := m.settings.insert key value } := by
  refine ext_setting? rfl rfl rfl fun other => ?_
  have hover : setting? { runtimeVersion, settings := ({} : Settings).insert key value } other =
      if key = other then some value else none :=
    (setting?_insert { runtimeVersion } key value other).trans (by rw [setting?_new])
  rw [setting?_override, setting?_insert, hover]
  by_cases h : key = other
  · rw [if_pos h, if_pos h, Option.some_or]
  · rw [if_neg h, if_neg h, Option.none_or]

end BuildMetadata

namespace BuildInfo

open Text

variable {m : BuildMetadata} {line line' : List Char} {lines block block' : List (List Char)}

/-! ## Laying lines over a record -/

/-- **A line lays its own record over the record so far**, or fails whatever that is. -/
theorem addLine_eq_override (m : BuildMetadata) (runtimeVersion : String) (line : List Char) :
    BuildMetadata.addLine m line = (BuildMetadata.addLine { runtimeVersion } line).map m.override := by
  have hsettings : m.settings ∪ {} = m.settings := congrArg BuildMetadata.settings (m.override_new runtimeVersion)
  cases hline : Line.ofChars line with
  | path p =>
      simp only [BuildMetadata.addLine, hline, Except.map, BuildMetadata.override, hsettings, Option.some_or,
        Option.none_or]
  | mainModule p =>
      simp only [BuildMetadata.addLine, hline, Except.map, BuildMetadata.override, hsettings, Option.some_or,
        Option.none_or]
  | setting payload =>
      simp only [BuildMetadata.addLine, hline]
      cases parseSetting payload with
      | error e => rfl
      | ok setting => exact congrArg Except.ok (m.override_insert runtimeVersion _ _).symm
  | other => simp only [BuildMetadata.addLine, hline, Except.map, m.override_new]

/-- **Lines lay their own record over the record so far**, or fail whatever that is. -/
theorem addLines_eq_override (m : BuildMetadata) (runtimeVersion : String) (lines : List (List Char)) :
    addLines m lines = (addLines { runtimeVersion } lines).map m.override := by
  induction lines generalizing m with
  | nil => exact congrArg Except.ok (m.override_new runtimeVersion).symm
  | cons line rest ih =>
      rw [addLines, addLines, List.foldlM_cons, List.foldlM_cons, addLine_eq_override m runtimeVersion]
      cases BuildMetadata.addLine { runtimeVersion } line with
      | error e => rfl
      | ok first =>
          show addLines (m.override first) rest = (addLines first rest).map m.override
          rw [ih (m.override first), ih first]
          cases addLines { runtimeVersion } rest with
          | error e => rfl
          | ok later => exact congrArg Except.ok (m.override_assoc first later)

/-! ## Lines that say nothing -/

/-- A line says something: it begins in one of three ways. -/
def Tells (line : List Char) : Prop := ∃ beginning ∈ ["path\t", "mod\t", "build\t"], beginning.toList <+: line

instance : DecidablePred Tells := fun _ => inferInstanceAs (Decidable (∃ _ ∈ _, _))

theorem ofChars_of_not_tells (h : ¬Tells line) : Line.ofChars line = .other := by
  have hnone (beginning : String) (hmem : beginning ∈ ["path\t", "mod\t", "build\t"]) :
      after? beginning.toList line = none := by
    apply Option.eq_none_iff_forall_ne_some.mpr
    intro r hr
    exact h ⟨beginning, hmem, r, (after?_eq_some_iff.mp hr).symm⟩
  rw [Line.ofChars, hnone "path\t" (by decide), hnone "mod\t" (by decide), hnone "build\t" (by decide)]

/-- **Lines that say nothing make no difference.** -/
theorem addLines_filter_tells (m : BuildMetadata) (lines : List (List Char)) :
    addLines m (lines.filter (Tells ·)) = addLines m lines := by
  induction lines generalizing m with
  | nil => rfl
  | cons line rest ih =>
      by_cases h : Tells line
      · rw [List.filter_cons, if_pos (decide_eq_true h), addLines, addLines, List.foldlM_cons, List.foldlM_cons]
        exact congrArg _ (funext ih)
      · rw [List.filter_cons, if_neg (fun hc => h (of_decide_eq_true hc)), ih, addLines, addLines, List.foldlM_cons,
          BuildMetadata.addLine, ofChars_of_not_tells h]
        rfl

/-! ## Build lines with different keys -/

/-- The key of a build line. -/
def buildKey? (line : List Char) : Option (List Char) :=
  match Line.ofChars line with
  | .setting payload => (parseKey payload).toOption.map (·.1)
  | _ => none

/-- A value is faulty in one way only. -/
theorem parseValue_eq_error {s : List Char} {e : SettingError} (h : parseValue s = .error e) : e = .badQuotedValue := by
  unfold parseValue at h
  split at h
  · cases h
  · split at h
    · split at h
      · exact (Except.error.inj h).symm
      · cases h
    · cases h

theorem buildKey?_eq_some_iff {key : List Char} :
    buildKey? line = some key ↔
      ∃ payload raw, Line.ofChars line = .setting payload ∧ parseKey payload = .ok (key, raw) := by
  unfold buildKey?
  cases Line.ofChars line with
  | setting payload => cases hkey : parseKey payload <;> simp [Except.toOption, hkey, Prod.ext_iff]
  | _ => simp

/-- A build line with a key records a value for it, unless the value is faulty. -/
theorem addLine_of_buildKey? {key : List Char} (h : buildKey? line = some key) :
    ∃ raw, ∀ m, BuildMetadata.addLine m line = (parseValue raw).map fun value =>
      { m with settings := m.settings.insert (String.ofList key) (String.ofList value) } := by
  obtain ⟨payload, raw, hline, hkey⟩ := buildKey?_eq_some_iff.mp h
  refine ⟨raw, fun m => ?_⟩
  simp only [BuildMetadata.addLine, hline, parseSetting_of_parseKey hkey]
  cases parseValue raw <;> rfl

/-- Two build lines with different keys can change places. Of two faulty values it does not matter which comes first. -/
theorem addLine_comm {key key' : List Char} (hline : buildKey? line = some key) (hline' : buildKey? line' = some key')
    (hne : key ≠ key') (m : BuildMetadata) :
    (BuildMetadata.addLine m line >>= fun m => BuildMetadata.addLine m line') =
      BuildMetadata.addLine m line' >>= fun m => BuildMetadata.addLine m line := by
  obtain ⟨raw, hadd⟩ := addLine_of_buildKey? hline
  obtain ⟨raw', hadd'⟩ := addLine_of_buildKey? hline'
  simp only [hadd, hadd']
  cases hvalue : parseValue raw with
  | error e =>
      cases hvalue' : parseValue raw' with
      | error e' =>
          rw [parseValue_eq_error hvalue, parseValue_eq_error hvalue']
          rfl
      | ok value' => rfl
  | ok value =>
      cases parseValue raw' with
      | error e' => rfl
      | ok value' =>
          have hkeys : String.ofList key ≠ String.ofList key' := fun h => hne (String.ofList_injective h)
          exact congrArg Except.ok (BuildMetadata.ext_setting? rfl rfl rfl fun _ =>
            congrArg (·[_]?) (Settings.insert_comm hkeys m.settings _ _))

/-- **Build lines with different keys can stand in any order.** -/
theorem addLines_perm (h : block.Perm block') (hbuild : ∀ line ∈ block, (buildKey? line).isSome = true)
    (hdistinct : (block.map buildKey?).Nodup) (m : BuildMetadata) : addLines m block = addLines m block' := by
  induction h generalizing m with
  | nil => rfl
  | cons line _ ih =>
      rw [addLines, addLines, List.foldlM_cons, List.foldlM_cons]
      exact congrArg _ (funext fun m => ih (fun l hl => hbuild l (List.mem_cons_of_mem _ hl))
        (List.nodup_cons.mp hdistinct).2 m)
  | swap line line' rest =>
      obtain ⟨key, hkey⟩ := Option.isSome_iff_exists.mp (hbuild line (by simp))
      obtain ⟨key', hkey'⟩ := Option.isSome_iff_exists.mp (hbuild line' (by simp))
      have hne : key' ≠ key := by
        rintro rfl
        have hnot := (List.nodup_cons.mp hdistinct).1
        rw [List.map_cons, hkey, hkey'] at hnot
        exact hnot List.mem_cons_self
      simp only [addLines, List.foldlM_cons]
      rw [← bind_assoc, ← bind_assoc, addLine_comm hkey' hkey hne]
  | trans h _ ih ih' =>
      rw [ih hbuild hdistinct]
      exact ih' (fun l hl => hbuild l (h.mem_iff.mpr hl)) ((h.map buildKey?).nodup_iff.mp hdistinct) m

/-! ## Whole texts -/

theorem addLines_append (m : BuildMetadata) (lines lines' : List (List Char)) :
    addLines m (lines ++ lines') = addLines m lines >>= fun m => addLines m lines' :=
  List.foldlM_append

/-- **A module text is read piece by piece.** Two texts with a line break between them have the record of the first one
    with that of the second laid over it, or else the fault of the first of them that has one. So lines that say nothing
    can stand anywhere or be left out, and in a block of build lines with different keys any order will do. -/
theorem parseModuleText_append (runtimeVersion : String) :
    (∀ a b, parseModuleText runtimeVersion (a ++ "\n" ++ b) = do
      let m ← parseModuleText runtimeVersion a
      let later ← parseModuleText runtimeVersion b
      return m.override later) ∧
    (∀ a b, (pieces '\n' a.toList).filter (Tells ·) = (pieces '\n' b.toList).filter (Tells ·) →
      parseModuleText runtimeVersion a = parseModuleText runtimeVersion b) ∧
    ∀ a b before block block' after, pieces '\n' a.toList = before ++ block ++ after →
      pieces '\n' b.toList = before ++ block' ++ after → block.Perm block' →
      (∀ line ∈ block, (buildKey? line).isSome = true) → (block.map buildKey?).Nodup →
      parseModuleText runtimeVersion a = parseModuleText runtimeVersion b := by
  refine ⟨?_, ?_, ?_⟩
  · intro a b
    have hlines : pieces '\n' (a ++ "\n" ++ b).toList = pieces '\n' a.toList ++ pieces '\n' b.toList := by
      rw [String.toList_append, String.toList_append, List.append_assoc]
      exact pieces_append '\n' a.toList b.toList
    rw [parseModuleText, hlines, addLines_append]
    show (parseModuleText runtimeVersion a >>= fun m => addLines m (pieces '\n' b.toList)) = _
    apply congrArg
    funext m
    rw [addLines_eq_override m runtimeVersion]
    rfl
  · intro a b hsame
    rw [parseModuleText, ← addLines_filter_tells, hsame, addLines_filter_tells]
    rfl
  · intro a b before block block' after ha hb hperm hbuild hdistinct
    rw [parseModuleText, parseModuleText, ha, hb]
    simp only [addLines_append, addLines_perm hperm hbuild hdistinct]

/-- A dependency is left out and two settings change places; a text after that one is laid over it. -/
theorem parseModuleText_append_dependency :
    let text := "build\t-tags=netgo\ndep\texample.org/dep\tv1.0.0\nbuild\tCGO_ENABLED=1"
    let settings := "build\t-tags=netgo\nbuild\tCGO_ENABLED=1"
    let swapped := "build\tCGO_ENABLED=1\nbuild\t-tags=netgo"
    let parse := parseModuleText "go1.23"
    parse text = parse settings ∧ parse settings = parse swapped ∧
      parse (text ++ "\n" ++ "build\tCGO_ENABLED=0") = do
        let m ← parse text
        let later ← parse "build\tCGO_ENABLED=0"
        return m.override later := by
  intro text settings swapped parse
  obtain ⟨happend, htells, hblock⟩ := parseModuleText_append "go1.23"
  refine ⟨htells text settings (by decide), ?_, happend text _⟩
  apply hblock settings swapped [] (pieces '\n' settings.toList) (pieces '\n' swapped.toList) []
  · rw [List.nil_append, List.append_nil]
  · rw [List.nil_append, List.append_nil]
  · decide
  · decide
  · decide

end BuildInfo

end FipsAudit
