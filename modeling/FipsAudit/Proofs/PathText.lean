import FipsAudit.Proofs.PathComponents
import FipsAudit.Proofs.Text.Utf8

/-!
# `FipsAudit.Proofs.PathText` — paths that are text

A path is bytes, and its text is a lossy reading of them. Nothing is lost if the path is text to begin with, and it
stays text when it is joined to another or taken inside a root: paths are cut at slashes only, and a slash is in no
other character.

* `Path.IsText` — the paths that are text, and `ofString_text`, that nothing of them is lost.
* `Path.pieces_encodeChars` — the parts of a text are texts.
* `Path.IsText.join`, `IsText.inside`, `IsText.resolveUnder` — what is text stays text.
-/

namespace FipsAudit.Path

open Text

/-- The path is text. -/
def IsText (p : Path) : Prop := ∃ s, p = ofString s

variable {p q : Path}

theorem text_ofString (s : String) : (ofString s).text = s := Utf8.decodeLossy_encode s

/-- A path that is text is the path of its text. -/
theorem ofString_text (h : p.IsText) : ofString p.text = p := by
  obtain ⟨s, rfl⟩ := h
  rw [text_ofString]

theorem isText_iff : p.IsText ↔ ∃ chars, p.bytes = Utf8.encodeChars chars := by
  constructor
  · rintro ⟨s, rfl⟩
    exact ⟨s.toList, rfl⟩
  · rintro ⟨chars, hbytes⟩
    refine ⟨String.ofList chars, ?_⟩
    obtain ⟨bytes⟩ := p
    obtain rfl : bytes = _ := hbytes
    rw [ofString, Utf8.encode, String.toList_ofList]

theorem encodeChars_append (front rest : List Char) :
    Utf8.encodeChars (front ++ rest) = Utf8.encodeChars front ++ Utf8.encodeChars rest := List.flatMap_append

theorem encodeChars_slash (chars : List Char) : Utf8.encodeChars ('/' :: chars) = slash :: Utf8.encodeChars chars := rfl

theorem IsText.join (hp : p.IsText) (hq : q.IsText) : (p.join q).IsText := by
  obtain ⟨front, hfront⟩ := isText_iff.mp hp
  obtain ⟨rest, hrest⟩ := isText_iff.mp hq
  unfold Path.join
  split
  next => exact hq
  next =>
    split
    next =>
      refine isText_iff.mpr ⟨front ++ rest, ?_⟩
      rw [encodeChars_append, hfront, hrest]
    next =>
      refine isText_iff.mpr ⟨front ++ '/' :: rest, ?_⟩
      rw [encodeChars_append, encodeChars_slash, hfront, hrest]

/-- Texts that are joined are the text of what is joined. -/
theorem unpieces_map_encodeChars (parts : List (List Char)) :
    unpieces slash (parts.map Utf8.encodeChars) = Utf8.encodeChars (unpieces '/' parts) := by
  induction parts with
  | nil => rfl
  | cons part parts ih =>
      cases parts with
      | nil => rfl
      | cons next parts =>
          rw [List.map_cons] at ih
          rw [List.map_cons, List.map_cons, unpieces, ih, unpieces, encodeChars_append, encodeChars_slash]

/-- The parts of a text are the texts of its parts: the slash is in no other character. -/
theorem pieces_encodeChars (chars : List Char) :
    pieces slash (Utf8.encodeChars chars) = (pieces '/' chars).map Utf8.encodeChars := by
  refine pieces_eq_iff.mpr ⟨?_, ?_, ?_⟩
  · rw [Ne, List.map_eq_nil_iff]
    exact pieces_ne_nil '/' chars
  · intro part hpart
    obtain ⟨part, hmem, rfl⟩ := List.mem_map.mp hpart
    exact Utf8.not_mem_encodeChars (by decide) (not_mem_of_mem_pieces hmem)
  · rw [← unpieces_eq_intercalate, unpieces_map_encodeChars, unpieces_pieces]

theorem IsText.inside (h : p.IsText) : p.inside.IsText := by
  by_cases habsolute : p.isAbsolute = true
  · obtain ⟨chars, hchars⟩ := isText_iff.mp h
    have htexts := pieces_encodeChars chars
    rw [← hchars] at htexts
    have hparts : ∃ parts : List (List Char), p.split.parts = parts.map Utf8.encodeChars := by
      cases p.begins with
      | root _ hsplit hpieces =>
          refine ⟨(pieces '/' chars).tail, ?_⟩
          rw [hsplit, List.map_tail, ← htexts, hpieces]
          rfl
      | empty hbytes =>
          rw [isAbsolute, hbytes] at habsolute
          cases habsolute
      | current hrelative =>
          rw [hrelative] at habsolute
          cases habsolute
      | part hrelative =>
          rw [hrelative] at habsolute
          cases habsolute
    obtain ⟨parts, hparts⟩ := hparts
    -- Leaving parts out at the ends leaves texts.
    have hkept : ∃ kept : List (List Char), p.insideParts = kept.map Utf8.encodeChars := by
      rw [insideParts, hparts, trimParts, List.dropWhile_map, ← List.map_reverse, List.dropWhile_map,
        ← List.map_reverse]
      exact ⟨_, rfl⟩
    obtain ⟨kept, hkept⟩ := hkept
    rw [inside_of_isAbsolute habsolute, hkept, unpieces_map_encodeChars]
    exact isText_iff.mpr ⟨unpieces '/' kept, rfl⟩
  · rw [inside_of_not_isAbsolute (Bool.not_eq_true _ ▸ habsolute)]
    exact h

theorem IsText.resolveUnder {root : Path} (hroot : root.IsText) (h : p.IsText) : (root.resolveUnder p).IsText :=
  hroot.join h.inside

end FipsAudit.Path
