import FipsAudit.BuildInfo.ModuleText
import FipsAudit.Proofs.BuildInfo.Quoted
import FipsAudit.Proofs.Text.Pieces

/-!
# `FipsAudit.Proofs.BuildInfo.SettingGrammar` — which build lines are read

The payload of a build line is a key, an equal sign and a value, and either may be quoted. The reader looks for the
end of a quoted key with one loop and undoes its escapes with another, which knows much more about escapes. Whatever
the second one accepts ends where the first one stops, so the reader accepts the payloads that a grammar describes,
and no others. A payload is split in one way only, so nothing that is written into a key can pass for a value.

* `unquote_eq_some_iff` — the quoted texts are the literals.
* `KeyText`, `ValueText` — the ways to write a key and a value.
* `parseKey_eq_ok_iff`, `parseValue_eq_ok_iff` — keys and values are read when they are written in one of these ways.
* `parseSetting_grammar` — the whole payload.
-/

namespace FipsAudit.BuildInfo

open Text

/-! ## Quoted texts -/

/-- The digits that are read have values, and these make up the number. -/
theorem exists_of_hexDigits? {count value n : Nat} {s rest : List Char}
    (h : hexDigits? count value s = some (n, rest)) :
    ∃ (digits : List Char) (values : List Nat), s = digits ++ rest ∧ count = digits.length ∧
      digits.map hexValue? = values.map some ∧ values.foldl (fun n d => n * 16 + d) value = n := by
  induction count generalizing value s with
  | zero =>
      obtain ⟨rfl, rfl⟩ := Prod.mk.inj (Option.some.inj h)
      exact ⟨[], [], rfl, rfl, rfl, rfl⟩
  | succ count ih =>
      cases s with
      | nil => cases h
      | cons c s =>
          rw [hexDigits?] at h
          split at h
          · cases h
          · rename_i d hd
            obtain ⟨digits, values, rfl, rfl, hread, hnumber⟩ := ih h
            refine ⟨c :: digits, d :: values, rfl, rfl, ?_, hnumber⟩
            rw [List.map_cons, List.map_cons, hd, hread]

theorem toNat_of_charOfNat? {n : Nat} {c : Char} (h : charOfNat? n = some c) : c.toNat = n := by
  unfold charOfNat? at h
  by_cases hvalid : n.isValidChar
  · rw [dif_pos hvalid] at h
    cases Option.some.inj h
    rfl
  · rw [dif_neg hvalid] at h
    cases h

/-- **An escape that is undone is one of the ways to write a character.** -/
theorem exists_spells_of_escape? {s rest : List Char} {c : Char} (h : escape? s = some (c, rest)) :
    ∃ w, s = w ++ rest ∧ Spells ('\\' :: w) c := by
  cases s with
  | nil => cases h
  | cons letter s =>
      rw [escape?] at h
      split at h
      · rename_i d hshort
        obtain ⟨rfl, rfl⟩ := Prod.mk.inj (Option.some.inj h)
        exact ⟨[letter], rfl, .short hshort⟩
      · split at h
        · cases h
        · rename_i count hcount
          split at h
          · cases h
          · rename_i n rest' hdigits
            obtain ⟨c', hc, heq⟩ := Option.map_eq_some_iff.mp h
            obtain ⟨rfl, rfl⟩ := Prod.mk.inj heq
            obtain ⟨digits, values, rfl, rfl, hread, hnumber⟩ := exists_of_hexDigits? hdigits
            exact ⟨letter :: digits, rfl, .numeric hcount hread (hnumber.trans (toNat_of_charOfNat? hc).symm)⟩

/-- **Where undoing the escapes succeeds, a text was written.** -/
theorem exists_spellsAll_of_unescape {seen s t : List Char} (h : unescape seen s = some t) :
    ∃ r, SpellsAll s r ∧ t = seen.reverse ++ r := by
  -- One case for each turn of the loop: the end, a mark, an escape, any other character.
  fun_induction unescape seen s with
  | case1 seen =>
      cases h
      exact ⟨[], .nil, (List.append_nil _).symm⟩
  | case2 => cases h
  | case3 => cases h
  | case4 seen r d rest hescape hmark ih =>
      obtain ⟨w, rfl, hspells⟩ := exists_spells_of_escape? hescape
      obtain ⟨body, hbody, rfl⟩ := ih h
      refine ⟨d :: body, .cons hspells hbody, ?_⟩
      rw [List.reverse_cons, List.append_assoc, List.singleton_append]
  | case5 seen c r hmark hescape ih =>
      obtain ⟨body, hbody, rfl⟩ := ih h
      refine ⟨c :: body, .cons (.plain hmark hescape) hbody, ?_⟩
      rw [List.reverse_cons, List.append_assoc, List.singleton_append]

/-- **The texts that are unquoted are the quoted ones.** -/
theorem unquote_eq_some_iff {q s : List Char} : unquote q = some s ↔ Literal q s := by
  constructor
  · intro h
    rw [unquote] at h
    split at h
    · rename_i inner hraw
      rw [between?_eq_some_iff] at hraw
      split at h
      · cases h
      · rename_i hunclosed
        cases h
        exact hraw ▸ .raw hunclosed
    · obtain ⟨inner, hinner, hescapes⟩ := Option.bind_eq_some_iff.mp h
      obtain ⟨body, hbody, rfl⟩ := exists_spellsAll_of_unescape hescapes
      rw [between?_eq_some_iff.mp hinner]
      exact .escaped hbody
  · exact Literal.unquote

/-! ## Keys and values -/

/-- No quotation mark opens the text. -/
def Bare (s : List Char) : Prop := s.head? ≠ some '"' ∧ s.head? ≠ some backQuote

theorem bare_nil : Bare [] := ⟨fun h => (by cases h), fun h => (by cases h)⟩

theorem bare_cons_iff {c : Char} {s : List Char} : Bare (c :: s) ↔ isQuote c = false := by
  rw [Bare, isQuote, Bool.or_eq_false_iff, beq_eq_false_iff_ne, beq_eq_false_iff_ne, List.head?_cons]
  simp only [ne_eq, Option.some.injEq]

/-- **The ways to write a key.** -/
inductive KeyText : List Char → List Char → Prop where
  /-- As it is. -/
  | bare {key : List Char} (present : key ≠ []) (unquoted : Bare key) (unbroken : '=' ∉ key) : KeyText key key
  /-- Quoted. -/
  | quoted {q key : List Char} (literal : Literal q key) : KeyText q key

/-- **The ways to write a value.** -/
inductive ValueText : List Char → List Char → Prop where
  /-- As it is; it may be empty. -/
  | bare {value : List Char} (unquoted : Bare value) : ValueText value value
  /-- Quoted, and nothing follows. -/
  | quoted {q value : List Char} (literal : Literal q value) : ValueText q value

/-- A quoted text opens with a quotation mark. -/
theorem Literal.exists_cons {q s : List Char} (h : Literal q s) :
    ∃ mark r, q = mark :: r ∧ isQuote mark = true ∧ mark ≠ '=' := by
  cases h with
  | raw => exact ⟨backQuote, _, rfl, by decide, by decide⟩
  | escaped => exact ⟨'"', _, rfl, by decide, by decide⟩

/-- A key that is read was written in one of these ways, and an equal sign follows it. -/
theorem exists_keyText_of_parseKey {p key raw : List Char} (h : parseKey p = .ok (key, raw)) :
    ∃ k, p = k ++ '=' :: raw ∧ KeyText k key := by
  cases p with
  | nil => cases h
  | cons c p =>
      rw [parseKey] at h
      split at h
      · cases h
      · rename_i hfirst
        split at h
        -- A quoted key: the literal in front is what is unquoted.
        · split at h
          · cases h
          · rename_i literal value hlead
            split at h
            · cases h
            · rename_i hunquote
              cases h
              exact ⟨literal, (closeQuote_append hlead).symm, .quoted (unquote_eq_some_iff.mp hunquote)⟩
          · cases h
        -- Any other key: it ends at the first equal sign, which is not its first character.
        · rename_i hquote
          split at h
          · cases h
          · rename_i hcut
            cases h
            obtain ⟨hmade, hequal⟩ := cutAt?_eq_some_iff.mp hcut
            cases key with
            | nil => exact absurd (List.cons.inj hmade).1 hfirst
            | cons d key =>
                obtain ⟨rfl, -⟩ := List.cons.inj hmade
                have hbare : Bare (c :: key) := bare_cons_iff.mpr (Bool.eq_false_iff.mpr hquote)
                exact ⟨c :: key, hmade, .bare (List.cons_ne_nil c key) hbare hequal⟩

/-- **A key is read when it is written in one of these ways**, and what follows the equal sign is left. -/
theorem parseKey_eq_ok_iff {p key raw : List Char} :
    parseKey p = .ok (key, raw) ↔ ∃ k, p = k ++ '=' :: raw ∧ KeyText k key := by
  constructor
  · exact exists_keyText_of_parseKey
  · rintro ⟨k, rfl, hkey⟩
    cases hkey with
    | bare hpresent hunquoted hequal =>
        have hcut := cutAt?_append hequal raw
        obtain ⟨c, k, rfl⟩ := List.exists_cons_of_ne_nil hpresent
        have hc : c ≠ '=' := fun h => hequal (h ▸ List.mem_cons_self)
        rw [List.cons_append] at hcut ⊢
        simp only [parseKey, hc, if_false, bare_cons_iff.mp hunquoted, Bool.false_eq_true, hcut]
    | quoted hliteral =>
        have hlead := hliteral.quotedLead? ('=' :: raw)
        have hunquote := hliteral.unquote
        obtain ⟨mark, r, rfl, hmark, hequal⟩ := hliteral.exists_cons
        rw [List.cons_append] at hlead ⊢
        simp only [parseKey, hequal, if_false, hmark, if_true, hlead, hunquote]

/-- **A value is read when it is written in one of these ways.** -/
theorem parseValue_eq_ok_iff {v value : List Char} : parseValue v = .ok value ↔ ValueText v value := by
  constructor
  · intro h
    cases v with
    | nil =>
        cases h
        exact .bare bare_nil
    | cons c v =>
        rw [parseValue] at h
        split at h
        · split at h
          · cases h
          · rename_i hunquote
            cases h
            exact .quoted (unquote_eq_some_iff.mp hunquote)
        · rename_i hquote
          cases h
          exact .bare (bare_cons_iff.mpr (Bool.eq_false_iff.mpr hquote))
  · intro h
    cases h with
    | bare hunquoted =>
        cases v with
        | nil => rfl
        | cons c v => simp only [parseValue, bare_cons_iff.mp hunquoted, Bool.false_eq_true, if_false]
    | quoted hliteral =>
        have hunquote := hliteral.unquote
        obtain ⟨mark, r, rfl, hmark, -⟩ := hliteral.exists_cons
        simp only [parseValue, hmark, if_true, hunquote]

/-- Once the key of a setting is read, the value decides. -/
theorem parseSetting_of_parseKey {s key raw : List Char} (h : parseKey s = .ok (key, raw)) :
    parseSetting s = (parseValue raw).map (key, ·) := by
  rw [parseSetting, h]
  show (parseValue raw >>= fun value => pure (key, value)) = _
  cases parseValue raw <;> rfl

/-! ## The payload -/

theorem parseSetting_eq_ok_iff {p key value : List Char} :
    parseSetting p = .ok (key, value) ↔ ∃ k v, p = k ++ '=' :: v ∧ KeyText k key ∧ ValueText v value := by
  constructor
  · intro h
    cases hkey : parseKey p with
    | error e =>
        rw [parseSetting, hkey] at h
        cases h
    | ok pair =>
        obtain ⟨key', raw⟩ := pair
        rw [parseSetting_of_parseKey hkey] at h
        cases hvalue : parseValue raw with
        | error e =>
            rw [hvalue] at h
            cases h
        | ok value' =>
            rw [hvalue] at h
            cases h
            obtain ⟨k, rfl, hk⟩ := parseKey_eq_ok_iff.mp hkey
            exact ⟨k, raw, rfl, hk, parseValue_eq_ok_iff.mp hvalue⟩
  · rintro ⟨k, v, rfl, hk, hv⟩
    rw [parseSetting_of_parseKey (parseKey_eq_ok_iff.mpr ⟨k, rfl, hk⟩), parseValue_eq_ok_iff.mpr hv]
    rfl

/-- A payload has one key: where it ends does not depend on what follows. -/
theorem KeyText.unique {k k' key key' v v' : List Char} (h : KeyText k key) (h' : KeyText k' key')
    (hmade : k ++ '=' :: v = k' ++ '=' :: v') : k = k' ∧ key = key' ∧ v = v' := by
  have hread : parseKey (k ++ '=' :: v) = .ok (key, v) := parseKey_eq_ok_iff.mpr ⟨k, rfl, h⟩
  have hread' : parseKey (k ++ '=' :: v) = .ok (key', v') := parseKey_eq_ok_iff.mpr ⟨k', hmade, h'⟩
  obtain ⟨rfl, rfl⟩ := Prod.mk.inj (Except.ok.inj (hread.symm.trans hread'))
  exact ⟨List.append_cancel_right hmade, rfl, rfl⟩

/-- **The payloads that are read are those of the grammar.** A text that can be unquoted is found in front of whatever
    follows it, for both loops stop at the same mark. A payload is read exactly when it is a key, an equal sign and a
    value, each in one of its ways; the result is the key and the value that they stand for; and there is only one
    such split. The texts that can be unquoted are those between back quotes without another back quote, and those
    between double quotes that are written character by character. -/
theorem parseSetting_grammar :
    (∀ q s rest, unquote q = some s → quotedLead? (q ++ rest) = some (q, rest)) ∧
      (∀ p key value, parseSetting p = .ok (key, value) ↔
        ∃ k v, p = k ++ '=' :: v ∧ KeyText k key ∧ ValueText v value) ∧
      (∀ k k' key key' v v', KeyText k key → KeyText k' key' → k ++ '=' :: v = k' ++ '=' :: v' →
        k = k' ∧ key = key' ∧ v = v') ∧
      ∀ q s, unquote q = some s ↔ Literal q s := by
  refine ⟨?_, ?_, ?_, ?_⟩
  · intro q s rest h
    exact (unquote_eq_some_iff.mp h).quotedLead? rest
  · intro p key value
    exact parseSetting_eq_ok_iff
  · intro k k' key key' v v' hk hk' hmade
    exact hk.unique hk' hmade
  · intro q s
    exact unquote_eq_some_iff

/-- A quoted key with an equal sign, a backslash and a control character, and a value between back quotes. The key
    cannot end at the equal sign inside. -/
theorem parseSetting_grammar_quotedKey :
    quotedLead? "\"a=\\\\\\x01\"=`b=c`".toList = some ("\"a=\\\\\\x01\"".toList, "=`b=c`".toList) ∧
      parseSetting "\"a=\\\\\\x01\"=`b=c`".toList = .ok ("a=\\\x01".toList, "b=c".toList) ∧
      ¬KeyText "\"a".toList "\"a".toList := by
  have hkey : Literal "\"a=\\\\\\x01\"".toList "a=\\\x01".toList :=
    literal_quoteLiteral (fun _ => false) "a=\\\x01".toList
  have hvalue : Literal "`b=c`".toList "b=c".toList := Literal.raw (s := "b=c".toList) (by decide)
  obtain ⟨hlead, hsetting, hunique, hliteral⟩ := parseSetting_grammar
  refine ⟨?_, ?_, ?_⟩
  · exact hlead _ _ "=`b=c`".toList ((hliteral _ _).mpr hkey)
  · exact (hsetting _ _ _).mpr ⟨_, "`b=c`".toList, rfl, .quoted hkey, .quoted hvalue⟩
  · intro h
    have hsame := hunique _ _ _ _ "\\\\\\x01\"=`b=c`".toList "`b=c`".toList h (.quoted hkey) rfl
    exact absurd hsame.1 (by decide)

end FipsAudit.BuildInfo
