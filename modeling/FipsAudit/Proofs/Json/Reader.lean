import FipsAudit.Json.Reader
import FipsAudit.Proofs.Json.Skip
import FipsAudit.Proofs.Json.Value

/-!
# `FipsAudit.Proofs.Json.Reader` — values of a wanted shape are read

A reader finds its value in every text that holds the tokens of that value, and stops behind it. In the object of a
record the members may stand in any order, with members between them that the record does not know.

* `Reads` — what a reader makes of given tokens; `reads_parsed`, `reads_list`, `Record.reads_object` — for each shape.
* `reads_values`, `reads_texts` — arrays that are written are read back.
* `Entry`, `Entry.Fits` — the members of an object that a record is read from.
* `Record.readMembers_entries` — each known member changes the record, in the order in which they stand.
* `readDocument_spaced` — a document that holds one value.
-/

namespace FipsAudit.Json

open FipsAudit.Text

/-- The reader makes `a` of the tokens, whatever follows them. -/
structure Reads {α : Type} (reader : Reader α) (tokens : List Token) (a : α) : Prop where
  /-- They begin like a value. -/
  opening : Opening tokens
  /-- They are read, and what follows them is left. -/
  run : ∀ {ts : List Token} {s : List Char}, Spaced (tokens ++ ts) s → ∃ r, reader.run s = .ok (a, r) ∧ Spaced ts r

variable {α β : Type} {a : α} {ts : List Token} {s r q : List Char}

/-! ## Strings -/

/-- A string in any spelling. -/
theorem reads_parsed {expected : String} {convert : String → Except String α} {t : String} (h : convert t = .ok a) :
    Reads (.parsed expected convert) [.text t] a where
  opening := .text t []
  run hs := by
    obtain ⟨body, r, hblankless, hspelled, hr⟩ := hs.text
    refine ⟨r, ?_, hr⟩
    show readString expected convert _ = _
    simp only [readString, hblankless, if_true, readText_spelled hspelled, String.ofList_toList, h]

/-! ## Between brackets -/

theorem spaced_afterClose {b : Bracket} (h : Spaced (.mark (.closing b) :: ts) s) : Spaced ts (afterClose b s) := by
  obtain ⟨r, hblankless, hr⟩ := h.mark
  simp only [afterClose, hblankless, Mark.char, if_true]
  exact hr

/-- After a part there is a comma or the end. -/
theorem closed_parted (ps : List (List Token)) (m : Mark) (ts : List Token) :
    Closed (parted false ps ++ .mark m :: ts) := by
  cases ps with
  | nil => exact .mark m ts
  | cons p ps => exact .mark .comma _

theorem nextElement_closing {first : Bool} (h : Spaced (.mark (.closing .list) :: ts) s) :
    nextElement first s = .ok none := by
  obtain ⟨r, hblankless, -⟩ := h.mark
  rw [nextElement, hblankless]
  rfl

/-- The next element is found. -/
theorem nextElement_opening {first : Bool} (hts : Opening ts) (h : Spaced (separator first ++ ts) s) :
    ∃ r, nextElement first s = .ok (some r) ∧ Spaced ts r := by
  cases first with
  | true =>
      obtain ⟨c, r, hblankless, hbegins, hr⟩ := Spaced.opening h hts
      refine ⟨c :: r, ?_, hr⟩
      rw [nextElement, hblankless]
      exact if_neg (hbegins.ne_close .list)
  | false =>
      obtain ⟨q, hcomma, hq⟩ := Spaced.mark h
      obtain ⟨c, r, hblankless, hbegins, hr⟩ := hq.opening hts
      refine ⟨c :: r, ?_, hr⟩
      have hclose : c ≠ ']' := hbegins.ne_close .list
      have hmark : Mark.comma.char ≠ ']' := by decide
      simp only [nextElement, hcomma, hblankless, if_neg hmark, if_neg hclose, Bool.false_eq_true, if_false]
      rfl

/-! ## Arrays -/

theorem readElements_none {element : Reader α} {seen : List α} (h : nextElement seen.isEmpty s = .ok none) :
    readElements element seen s = .ok (seen.reverse, afterClose .list s) := by
  fun_cases readElements element seen s <;> simp_all

theorem readElements_some {element : Reader α} {seen : List α} (h : nextElement seen.isEmpty s = .ok (some r))
    (ha : element.run r = .ok (a, q)) : readElements element seen s = readElements element (a :: seen) q := by
  fun_cases readElements element seen s <;> simp_all

/-- Elements are read one after the other. -/
theorem readElements_parted {element : Reader α} {tokens : β → List Token} {f : β → α} {elements : List β}
    (h : ∀ b ∈ elements, Reads element (tokens b) (f b)) (seen : List α)
    (hs : Spaced (parted seen.isEmpty (elements.map tokens) ++ .mark (.closing .list) :: ts) s) :
    ∃ r, readElements element seen s = .ok (seen.reverse ++ elements.map f, r) ∧ Spaced ts r := by
  induction elements generalizing seen s with
  | nil =>
      refine ⟨_, ?_, spaced_afterClose hs⟩
      rw [readElements_none (nextElement_closing hs), List.map_nil, List.append_nil]
  | cons b bs ih =>
      obtain ⟨hb, hbs⟩ := List.forall_mem_cons.mp h
      rw [List.map_cons, parted, List.append_assoc, List.append_assoc] at hs
      obtain ⟨r, hnext, hr⟩ := nextElement_opening (hb.opening.append _) hs
      obtain ⟨q, hrun, hq⟩ := hb.run hr
      obtain ⟨v, hrest, hv⟩ := ih hbs (f b :: seen) hq
      refine ⟨v, ?_, hv⟩
      rw [readElements_some hnext hrun, hrest, List.reverse_cons, List.append_assoc]
      rfl

/-- **An array is read** if each of its elements is. -/
theorem reads_list {element : Reader α} {tokens : β → List Token} {f : β → α} {elements : List β}
    (h : ∀ b ∈ elements, Reads element (tokens b) (f b)) :
    Reads (.list element) (enclosed .list (elements.map tokens)) (elements.map f) where
  opening := .bracket .list _
  run hs := by
    rw [enclosed, List.cons_append, List.append_assoc] at hs
    obtain ⟨r, hblankless, hr⟩ := hs.mark
    obtain ⟨q, hrun, hq⟩ := readElements_parted h [] hr
    refine ⟨q, ?_, hq⟩
    show readList element _ = _
    rw [readList, hblankless]
    exact hrun

/-- An array that is written is read back if what is written for each element is. -/
theorem reads_values {element : Reader α} {value : β → Value} {f : β → α} {elements : List β}
    (h : ∀ b ∈ elements, Reads element (value b).tokens (f b)) :
    Reads (.list element) (Value.list (elements.map value)).tokens (elements.map f) := by
  have htokens : (Value.list (elements.map value)).tokens =
      enclosed .list (elements.map fun b => (value b).tokens) := by
    rw [Value.tokens, Value.elementTokens_eq_map, List.map_map]
    rfl
  rw [htokens]
  exact reads_list h

/-- A list of texts is read back. -/
theorem reads_texts (l : List String) : Reads (.list .string) (Value.texts l).tokens l := by
  have hreads : Reads (.list .string) (Value.texts l).tokens (l.map id) :=
    reads_values fun s _ => reads_parsed rfl
  rwa [List.map_id] at hreads

/-! ## Members -/

/-- A member of an object, and what it changes in a record. -/
structure Entry (σ : Type) where
  /-- Its key. -/
  key : String
  /-- The tokens of its value. -/
  value : List Token
  /-- The change of the record, if the record knows it. -/
  change : Option (σ → σ)

/-- The tokens of a member. -/
def Entry.tokens {σ : Type} (e : Entry σ) : List Token := memberOf e.key e.value

variable {σ : Type} {rec : Record σ} {f : σ → σ}

/-- The member is one that the record can read: known with a value of its shape, or unknown with any value. -/
inductive Entry.Fits (rec : Record σ) : Entry σ → Prop
  /-- A member that is known. -/
  | known {m : Member σ} {key : String} {value : List Token} {f : σ → σ}
      (hm : rec.members.find? (·.name == key) = some m) (h : Reads m.reader value f) : Fits rec ⟨key, value, some f⟩
  /-- A member that is not. -/
  | unknown {key : String} {value : List Token} (hm : rec.members.find? (·.name == key) = none) (h : IsJson value) :
      Fits rec ⟨key, value, none⟩

/-- A member stores what its reader makes of a value. -/
theorem Reads.member {reader : Reader α} {tokens : List Token} (h : Reads reader tokens a) (name : String)
    (store : α → σ → σ) : Reads (Member.of name reader store).reader tokens (store a) where
  opening := h.opening
  run hs := by
    obtain ⟨r, hrun, hr⟩ := h.run hs
    refine ⟨r, ?_, hr⟩
    show (reader.run _).map _ = _
    rw [hrun]
    rfl

namespace Record

theorem nextKey_closing {first : Bool} (h : Spaced (.mark (.closing .object) :: ts) s) :
    nextKey first s = .ok none := by
  obtain ⟨r, hblankless, -⟩ := h.mark
  rw [nextKey, hblankless]
  rfl

/-- The next key is found and read. -/
theorem nextKey_text {first : Bool} {key : String} (h : Spaced (separator first ++ .text key :: ts) s) :
    ∃ q r, nextKey first s = .ok (some q) ∧ readText q = .ok (key.toList, r) ∧ Spaced ts r := by
  cases first with
  | true =>
      obtain ⟨body, r, hblankless, hspelled, hr⟩ := Spaced.text h
      refine ⟨_, r, ?_, readText_spelled hspelled r, hr⟩
      rw [nextKey, hblankless]
      rfl
  | false =>
      obtain ⟨q, hcomma, hq⟩ := Spaced.mark h
      obtain ⟨body, r, hblankless, hspelled, hr⟩ := hq.text
      refine ⟨_, r, ?_, readText_spelled hspelled r, hr⟩
      have hmark : Mark.comma.char ≠ '\x7d' := by decide
      simp only [nextKey, hcomma, hblankless, if_neg hmark, Bool.false_eq_true, if_false, if_true]
      rfl

/-- The value of a member is read or read over. -/
theorem readMember_fits {e : Entry σ} (h : e.Fits rec) (hts : Closed ts)
    (hs : Spaced (.mark .colon :: (e.value ++ ts)) s) :
    ∃ r, readMember (rec.members.find? (·.name == e.key)) s = .ok (e.change, r) ∧ Spaced ts r := by
  obtain ⟨q, hcolon, hq⟩ := readColon_spaced hs
  cases h with
  | known hm hreads =>
      obtain ⟨r, hrun, hr⟩ := hreads.run hq
      refine ⟨r, ?_, hr⟩
      simp only [readMember, hcolon, hm, hrun]
      rfl
  | unknown hm hjson =>
      obtain ⟨r, hskip, hr⟩ := skipValue_json hjson hts hq
      refine ⟨r, ?_, hr⟩
      simp only [readMember, hcolon, hm, hskip]
      rfl

theorem readMembers_none {p : Progress σ} (h : nextKey p.first s = .ok none) :
    rec.readMembers p s = .ok (p, afterClose .object s) := by
  fun_cases readMembers rec p s <;> simp_all

theorem readMembers_some {p : Progress σ} {key : String} {change : Option (σ → σ)} {t u v : List Char}
    (h : nextKey p.first s = .ok (some t)) (ht : readText t = .ok (key.toList, u)) (hseen : key ∉ p.seen)
    (hm : readMember (rec.members.find? (·.name == key)) u = .ok (change, v)) :
    rec.readMembers p s = rec.readMembers (p.after key change) v := by
  obtain ⟨k, rfl⟩ : ∃ k, key = String.ofList k := ⟨key.toList, String.ofList_toList.symm⟩
  rw [String.toList_ofList] at ht
  fun_cases readMembers rec p s <;> simp_all +zetaDelta

/-- The progress after some members. -/
def Progress.through (p : Progress σ) (entries : List (Entry σ)) : Progress σ :=
  entries.foldl (fun p e => p.after e.key e.change) p

theorem Progress.first_after (p : Progress σ) (key : String) (change : Option (σ → σ)) :
    (p.after key change).first = false := by
  cases change <;> rfl

theorem Progress.mem_seen_after {p : Progress σ} {key k : String} {change : Option (σ → σ)}
    (h : k ∈ (p.after key change).seen) : k ∈ p.seen ∨ change.isSome = true ∧ k = key := by
  cases change with
  | none => exact Or.inl h
  | some f => exact (List.mem_cons.mp h).symm.imp id fun hk => ⟨rfl, hk⟩

/-- Known members do not occur twice. -/
def Distinct (entries : List (Entry σ)) : Prop :=
  entries.Pairwise fun e e' => e.change.isSome = true → e'.key ≠ e.key

/-- **Members are read one after the other**, in any order, whatever else is between them. -/
theorem readMembers_entries {entries : List (Entry σ)} (h : ∀ e ∈ entries, e.Fits rec) (hdistinct : Distinct entries)
    {p : Progress σ} (hseen : ∀ e ∈ entries, e.key ∉ p.seen)
    (hs : Spaced (parted p.first (entries.map Entry.tokens) ++ .mark (.closing .object) :: ts) s) :
    ∃ r, rec.readMembers p s = .ok (p.through entries, r) ∧ Spaced ts r := by
  induction entries generalizing p s with
  | nil => exact ⟨_, readMembers_none (nextKey_closing hs), spaced_afterClose hs⟩
  | cons e es ih =>
      obtain ⟨hfits, hes⟩ := List.forall_mem_cons.mp h
      obtain ⟨hkey, hkeys⟩ := List.forall_mem_cons.mp hseen
      obtain ⟨hne, hdistinct⟩ := List.pairwise_cons.mp hdistinct
      rw [List.map_cons, parted, List.append_assoc, List.append_assoc, Entry.tokens, memberOf] at hs
      obtain ⟨t, u, hnext, htext, hu⟩ := nextKey_text hs
      obtain ⟨v, hmember, hv⟩ := readMember_fits hfits (closed_parted _ _ _) hu
      have hafter : ∀ e' ∈ es, e'.key ∉ (p.after e.key e.change).seen := by
        intro e' he' hmem
        rcases Progress.mem_seen_after hmem with hold | ⟨hknown, hnew⟩
        · exact hkeys e' he' hold
        · exact hne e' he' hknown hnew
      rw [← Progress.first_after p e.key e.change] at hv
      obtain ⟨r, hrest, hr⟩ := ih hes hdistinct hafter hv
      refine ⟨r, ?_, hr⟩
      rw [readMembers_some hnext htext hkey hmember, hrest]
      rfl

/-- **A record is read from an object** whose members fit it, if none is missing. -/
theorem reads_object {initial : σ} {entries : List (Entry σ)} (h : ∀ e ∈ entries, e.Fits rec)
    (hdistinct : Distinct entries)
    (hcomplete : rec.complete = true →
      ∀ m ∈ rec.members, m.name ∈ (Progress.through ⟨initial, [], true⟩ entries).seen) :
    Reads (.record rec initial) (enclosed .object (entries.map Entry.tokens))
      (Progress.through ⟨initial, [], true⟩ entries).value where
  opening := .bracket .object _
  run hs := by
    rw [enclosed, List.cons_append, List.append_assoc] at hs
    obtain ⟨r, hblankless, hr⟩ := hs.mark
    obtain ⟨q, hrun, hq⟩ := readMembers_entries h hdistinct (p := ⟨initial, [], true⟩) (by simp) hr
    refine ⟨q, ?_, hq⟩
    have hnone : rec.members.find? (fun m =>
        rec.complete && !(Progress.through ⟨initial, [], true⟩ entries).seen.contains m.name) = none := by
      rw [List.find?_eq_none]
      intro m hm hmissing
      obtain ⟨hrec, hnot⟩ := Bool.and_eq_true_iff.mp hmissing
      have hmem := hcomplete hrec m hm
      simp [hmem] at hnot
    show rec.read initial _ = _
    have hmark : (Mark.opening .object).char = '\x7b' := rfl
    simp only [read, hblankless, hmark, if_true, hrun, finish, hnone]

end Record

/-! ## Documents -/

/-- **A document that holds one value** is read. -/
theorem readDocument_spaced {reader : Reader α} (h : Reads reader ts a) (hs : Spaced ts s) :
    readDocument reader s = .ok a := by
  rw [← List.append_nil ts] at hs
  obtain ⟨r, hrun, hr⟩ := h.run hs
  simp only [readDocument, hrun, hr.blankless_nil]

end FipsAudit.Json
