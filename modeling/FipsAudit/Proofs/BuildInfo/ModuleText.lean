import FipsAudit.Proofs.BuildInfo.SettingGrammar

/-!
# `FipsAudit.Proofs.BuildInfo.ModuleText` — module texts are read back

A linker writes the module text line by line. Paths stand in it as they are, and keys and values of settings stand as
they are unless they hold something that could be taken for a part of the line. Such keys and values are quoted, and
a line break inside them becomes an escape: so no key and no value can end its line and begin another. What is read
from the text is what was written, whatever the settings hold.

* `ModuleInfo`, `ModuleInfo.write` — what a module text says, and how it is written.
* `keyText_writeKey`, `valueText_writeValue` — keys and values are written in one of the ways that are read.
* `parseSetting_writeSetting` — a written setting is read back.
* `newline_not_mem_writeSetting` — a written setting is one line.
* `getElem?_insertAll` — of several settings with one key the last one counts.
* `parseModuleText_write` — the whole text; `ModuleInfo.forged` — settings that try to bring a line.
-/

namespace FipsAudit.BuildInfo

open Text

/-! ## What is written -/

/-- What a module text says, before it is written. -/
structure ModuleInfo where
  path : String
  path_line : '\n' ∉ path.toList
  mainModule : String
  mainModule_line : '\n' ∉ mainModule.toList
  mainModule_tab : '\t' ∉ mainModule.toList
  version : String
  version_line : '\n' ∉ version.toList
  checksum : String
  checksum_line : '\n' ∉ checksum.toList
  /-- The build settings, in order: any texts. -/
  settings : List (String × String)

/-- The characters for which keys and values are quoted. -/
def isDelicate (c : Char) : Bool := c == ' ' || c == '\t' || c == '\r' || c == '\n' || isQuote c

/-- A key as it is written. -/
def writeKey (shown : Char → Bool) (key : List Char) : List Char :=
  if key = [] ∨ '=' ∈ key ∨ key.any isDelicate then quoteLiteral shown key else key

/-- A value as it is written. -/
def writeValue (shown : Char → Bool) (value : List Char) : List Char :=
  if value.any isDelicate then quoteLiteral shown value else value

/-- A setting as it is written. -/
def writeSetting (shown : Char → Bool) (key value : List Char) : List Char :=
  writeKey shown key ++ '=' :: writeValue shown value

/-- The lines of a module text. -/
def ModuleInfo.lines (shown : Char → Bool) (info : ModuleInfo) : List (List Char) :=
  ("path\t".toList ++ info.path.toList) ::
    ("mod\t".toList ++ (info.mainModule.toList ++ '\t' :: (info.version.toList ++ '\t' :: info.checksum.toList))) ::
    info.settings.map fun setting => "build\t".toList ++ writeSetting shown setting.1.toList setting.2.toList

/-- The module text; `shown` tells which characters beyond ASCII stand as themselves between quotation marks. -/
def ModuleInfo.write (shown : Char → Bool) (info : ModuleInfo) : String :=
  String.ofList ((info.lines shown).flatMap (· ++ ['\n']))

variable {shown : Char → Bool}

/-! ## One setting -/

/-- What holds nothing delicate is not taken for a quoted text. -/
theorem bare_of_not_any {s : List Char} (h : ¬s.any isDelicate = true) : Bare s := by
  cases s with
  | nil => exact bare_nil
  | cons c s =>
      rw [bare_cons_iff, Bool.eq_false_iff]
      intro hc
      exact h (List.any_eq_true.mpr ⟨c, List.mem_cons_self, by simp [isDelicate, hc]⟩)

theorem keyText_writeKey (key : List Char) : KeyText (writeKey shown key) key := by
  unfold writeKey
  split
  · exact .quoted (literal_quoteLiteral shown key)
  · rename_i hplain
    obtain ⟨hne, hequal, hdelicate⟩ : key ≠ [] ∧ '=' ∉ key ∧ ¬key.any isDelicate = true := by
      simpa only [not_or] using hplain
    exact .bare hne (bare_of_not_any hdelicate) hequal

theorem valueText_writeValue (value : List Char) : ValueText (writeValue shown value) value := by
  unfold writeValue
  split
  · exact .quoted (literal_quoteLiteral shown value)
  · rename_i hdelicate
    exact .bare (bare_of_not_any hdelicate)

/-- **A written setting is read back.** -/
theorem parseSetting_writeSetting (key value : List Char) :
    parseSetting (writeSetting shown key value) = .ok (key, value) :=
  parseSetting_eq_ok_iff.mpr ⟨_, _, rfl, keyText_writeKey key, valueText_writeValue value⟩

/-! ## Lines -/

theorem digitChar_ne_newline {v : Nat} (h : v < 16) : Nat.digitChar v ≠ '\n' := by
  have hall : ∀ v : Fin 16, Nat.digitChar v ≠ '\n' := by decide
  exact hall ⟨v, h⟩

theorem newline_not_mem_hexNumeral (width n : Nat) : '\n' ∉ hexNumeral width n := by
  intro h
  obtain ⟨v, hv, hdigit⟩ := List.mem_map.mp h
  exact digitChar_ne_newline (lt_of_mem_hexPlaces hv) hdigit

/-- No character is written with a line break, the line break included. -/
theorem newline_not_mem_spell (c : Char) : '\n' ∉ spell shown c := by
  unfold spell
  split
  · rename_i hmarked
    rcases hmarked with rfl | rfl <;> decide
  · split
    · rename_i hprinted
      intro h
      rw [List.mem_singleton] at h
      subst h
      exact absurd hprinted Bool.false_ne_true
    · split
      · rename_i letter hletter
        have hne : letter ≠ '\n' := by
          rintro rfl
          exact absurd (shortEscape?_of_escapeLetter? hletter) (by simp [shortEscape?])
        simp [Ne.symm hne]
      · split
        · simp [newline_not_mem_hexNumeral]
        · split <;> simp [newline_not_mem_hexNumeral]

theorem newline_not_mem_quoteLiteral (s : List Char) : '\n' ∉ quoteLiteral shown s := by
  simp [quoteLiteral, newline_not_mem_spell]

theorem newline_not_mem_of_not_any {s : List Char} (h : ¬s.any isDelicate = true) : '\n' ∉ s :=
  fun hmem => h (List.any_eq_true.mpr ⟨'\n', hmem, by decide⟩)

/-- **A written setting is one line**: no key and no value brings a line of its own. -/
theorem newline_not_mem_writeSetting (key value : List Char) : '\n' ∉ writeSetting shown key value := by
  have hkey : '\n' ∉ writeKey shown key := by
    unfold writeKey
    split
    · exact newline_not_mem_quoteLiteral key
    · rename_i hplain
      exact newline_not_mem_of_not_any fun h => hplain (Or.inr (Or.inr h))
  have hvalue : '\n' ∉ writeValue shown value := by
    unfold writeValue
    split
    · exact newline_not_mem_quoteLiteral value
    · rename_i hplain
      exact newline_not_mem_of_not_any hplain
  simp [writeSetting, hkey, hvalue]

/-- The lines of a module text hold no line break. -/
theorem ModuleInfo.newline_not_mem_lines (info : ModuleInfo) : ∀ l ∈ info.lines shown, '\n' ∉ l := by
  intro l hl
  rcases List.mem_cons.mp hl with rfl | hl
  · simp [info.path_line]
  · rcases List.mem_cons.mp hl with rfl | hl
    · simp [info.mainModule_line, info.version_line, info.checksum_line]
    · obtain ⟨setting, -, rfl⟩ := List.mem_map.mp hl
      simp [newline_not_mem_writeSetting]

/-- The lines are those that the parser sees, and an empty one after the last line break. -/
theorem ModuleInfo.pieces_write (info : ModuleInfo) :
    pieces '\n' (info.write shown).toList = info.lines shown ++ [[]] := by
  rw [ModuleInfo.write, String.toList_ofList, pieces_flatMap_closed info.newline_not_mem_lines]

/-! ## Several settings -/

/-- The settings put into a map, one after the other. -/
def insertAll (settings : Settings) (pairs : List (String × String)) : Settings :=
  pairs.foldl (fun s pair => s.insert pair.1 pair.2) settings

/-- **Of several settings with one key the last one counts.** -/
theorem getElem?_insertAll (settings : Settings) (pairs : List (String × String)) (key : String) :
    (insertAll settings pairs)[key]? = (pairs.reverse.lookup key).or settings[key]? := by
  induction pairs generalizing settings with
  | nil => rfl
  | cons pair pairs ih =>
      have hlast : (settings.insert pair.1 pair.2)[key]? = ([pair].lookup key).or settings[key]? := by
        rw [Std.ExtTreeMap.getElem?_insert, List.lookup_cons]
        by_cases h : key = pair.1
        · simp [h]
        · have hne : (key == pair.1) = false := beq_eq_false_iff_ne.mpr h
          simp [Ne.symm h, hne]
      rw [insertAll, List.foldl_cons, ← insertAll, ih, hlast, List.reverse_cons, List.lookup_append, Option.or_assoc]

/-! ## The record, line by line -/

theorem addLine_path (m : BuildMetadata) (path : String) :
    BuildMetadata.addLine m ("path\t".toList ++ path.toList) = .ok { m with path := some path } := by
  have hline : Line.ofChars ("path\t".toList ++ path.toList) = .path path.toList := rfl
  simp only [BuildMetadata.addLine, hline, String.ofList_toList]

/-- The path of the main module ends at the first tab. -/
theorem addLine_mainModule (m : BuildMetadata) {path : String} (h : '\t' ∉ path.toList) (rest : List Char) :
    BuildMetadata.addLine m ("mod\t".toList ++ (path.toList ++ '\t' :: rest)) =
      .ok { m with mainModule := some path } := by
  have hline (s : List Char) : Line.ofChars ("mod\t".toList ++ s) = .mainModule (s.takeWhile (· ≠ '\t')) := rfl
  have hpath : (path.toList ++ '\t' :: rest).takeWhile (· ≠ '\t') = path.toList := by
    have hinside : ∀ c ∈ path.toList, decide (c ≠ '\t') = true := fun c hc => decide_eq_true fun htab => h (htab ▸ hc)
    rw [List.takeWhile_append_of_pos hinside]
    simp
  simp only [BuildMetadata.addLine, hline, hpath, String.ofList_toList]

/-- A written setting adds its key and value. -/
theorem addLine_setting (m : BuildMetadata) (key value : String) :
    BuildMetadata.addLine m ("build\t".toList ++ writeSetting shown key.toList value.toList) =
      .ok { m with settings := m.settings.insert key value } := by
  have hline (s : List Char) : Line.ofChars ("build\t".toList ++ s) = .setting s := rfl
  simp only [BuildMetadata.addLine, hline, parseSetting_writeSetting, bind, Except.bind, String.ofList_toList]
  rfl

/-- Written settings are added one after the other, and the empty line at the end adds nothing. -/
theorem addLines_settings (m : BuildMetadata) (pairs : List (String × String)) :
    addLines m (pairs.map (fun pair => "build\t".toList ++ writeSetting shown pair.1.toList pair.2.toList) ++ [[]]) =
      .ok { m with settings := insertAll m.settings pairs } := by
  induction pairs generalizing m with
  | nil => rfl
  | cons pair pairs ih =>
      rw [List.map_cons, List.cons_append, addLines, List.foldlM_cons, addLine_setting]
      exact ih _

/-- **A module text is read back.** Whatever characters its keys and values hold, and whichever characters are shown
    as themselves, the text has no other lines than those that were written: the path, the main module and the
    settings come out, and of several settings with one key the last one. -/
theorem parseModuleText_write (shown : Char → Bool) (info : ModuleInfo) (runtimeVersion : String) :
    ∃ m, parseModuleText runtimeVersion (info.write shown) = .ok m ∧ m.runtimeVersion = runtimeVersion ∧
      m.path = some info.path ∧ m.mainModule = some info.mainModule ∧
      ∀ key, m.setting? key = info.settings.reverse.lookup key := by
  let start : BuildMetadata := { runtimeVersion, path := some info.path, mainModule := some info.mainModule }
  refine ⟨{ start with settings := insertAll start.settings info.settings }, ?_, rfl, rfl, rfl, fun key => ?_⟩
  -- The two lines of paths come first, then the settings one by one.
  · rw [parseModuleText, info.pieces_write, ModuleInfo.lines, List.cons_append, List.cons_append, addLines,
      List.foldlM_cons, addLine_path]
    simp only [bind, Except.bind]
    rw [List.foldlM_cons, addLine_mainModule _ info.mainModule_tab]
    exact addLines_settings start info.settings
  · have hempty : start.settings[key]? = none := Std.ExtTreeMap.getElem?_empty
    rw [BuildMetadata.setting?, getElem?_insertAll, hempty, Option.or_none]

/-- Settings of which the second tries to bring a line of its own, which would undo the first. -/
def ModuleInfo.forged : ModuleInfo where
  path := "example.com/app/cmd"
  path_line := by decide
  mainModule := "example.com/app"
  mainModule_line := by decide
  mainModule_tab := by decide
  version := "v1.2.3"
  version_line := by decide
  checksum := ""
  checksum_line := by decide
  settings := [("CGO_ENABLED", "0"), ("-ldflags", "\nbuild\tCGO_ENABLED=1")]

/-- The line is a part of the value, and the first setting stays as it is. -/
theorem parseModuleText_write_forged :
    ∃ m, parseModuleText "go1.24.3" (ModuleInfo.forged.write fun _ => true) = .ok m ∧
      m.setting? "CGO_ENABLED" = some "0" ∧ m.setting? "-ldflags" = some "\nbuild\tCGO_ENABLED=1" := by
  obtain ⟨m, hparse, -, -, -, hsetting⟩ := parseModuleText_write (fun _ => true) ModuleInfo.forged "go1.24.3"
  exact ⟨m, hparse, hsetting _, hsetting _⟩

/-- Such a value is quoted. -/
example :
    writeSetting (fun _ => true) "-ldflags".toList "\nbuild\tCGO_ENABLED=1".toList =
      "-ldflags=\"\\nbuild\\tCGO_ENABLED=1\"".toList := by decide

end FipsAudit.BuildInfo
