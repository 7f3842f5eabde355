import FipsAudit.Audit.Rpm
import FipsAudit.Shell.Script

/-!
# `FipsAudit.Proofs.Shell.Quoted` — a quoted text is one word

What stands between single quotes is read as it is, so the only character to worry about is the quote itself. It is
written as four characters: they leave the quotes, stand for a quote, and enter the quotes again. The reader is between
quotes before each character of the text and after it, and this is what carries the induction over the text. No
character of the text is read outside of quotes, and so none can end the word, the command or the script.

* `Lexer.foldl_quoteChar` — one character of a quoted text makes the pieces that stand for it.
* `Lexer.foldl_quoteChars` — a quoted text goes on the word at hand, wherever it stands.
* `tokens?_quote` — alone it is one word.
* `parse?_unpackScript` — in the script that unpacks a package it is the second word of the first command.
-/

namespace FipsAudit.Shell

/-! ## Words -/

/-- Words that follow each other without a blank stand for one text. -/
theorem Word.literal?_append {u v : Word} {s t : List Char} (hu : u.literal? = some s) (hv : v.literal? = some t) :
    Word.literal? (u ++ v) = some (s ++ t) := by
  induction u generalizing s with
  | nil =>
      obtain rfl : [] = s := Option.some.inj hu
      exact hv
  | cons p u ih =>
      cases p with
      | char c =>
          obtain ⟨r, hr, rfl⟩ := Option.map_eq_some_iff.mp hu
          rw [List.cons_append, Word.literal?, ih hr]
          rfl
      | quotes => exact ih hu
      | parameter name quoted => cases hu

/-- The pieces that a character makes between single quotes. A quote leaves them and enters them again. -/
def quotedPieces (c : Char) : Word := if c = '\'' then [.char c, .quotes] else [.char c]

/-- The pieces that a quoted text makes. -/
def quotedWord (s : List Char) : Word := .quotes :: s.flatMap quotedPieces

theorem literal?_quotedPieces (c : Char) : Word.literal? (quotedPieces c) = some [c] := by
  unfold quotedPieces
  split <;> rfl

/-- The pieces of a quoted text stand for the text. -/
theorem literal?_quotedWord (s : List Char) : Word.literal? (quotedWord s) = some s := by
  show Word.literal? (s.flatMap quotedPieces) = some s
  induction s with
  | nil => rfl
  | cons c s ih => exact Word.literal?_append (literal?_quotedPieces c) ih

/-! ## Reading a quoted text -/

namespace Lexer

variable {w : Word} {ts : List Token}

/-- **Between single quotes one character of a text is read as what it stands for**, and the reader stays there. -/
theorem foldl_quoteChar (c : Char) :
    (quoteChar c).foldl step ⟨.single, some w, ts⟩ = ⟨.single, some ((quotedPieces c).reverse ++ w), ts⟩ := by
  unfold quoteChar quotedPieces
  by_cases hquote : c = '\''
  · rw [if_pos hquote, if_pos hquote, hquote]
    rfl
  · rw [if_neg hquote, if_neg hquote]
    show step ⟨.single, some w, ts⟩ c = _
    simp only [step, if_neg hquote]
    rfl

theorem foldl_flatMap_quoteChar (s : List Char) :
    (s.flatMap quoteChar).foldl step ⟨.single, some w, ts⟩ =
      ⟨.single, some ((s.flatMap quotedPieces).reverse ++ w), ts⟩ := by
  induction s generalizing w with
  | nil => rfl
  | cons c s ih =>
      rw [List.flatMap_cons, List.foldl_append, foldl_quoteChar, ih, List.flatMap_cons, List.reverse_append,
        List.append_assoc]

/-- **A quoted text goes on the word at hand**, and what comes after it is read outside of quotes. -/
theorem foldl_quoteChars (word : Option Word) (ts : List Token) (s : List Char) :
    (quoteChars s).foldl step ⟨.plain, word, ts⟩ = ⟨.plain, some ((quotedWord s).reverse ++ word.getD []), ts⟩ := by
  have hopen : step ⟨.plain, word, ts⟩ '\'' = ⟨.single, some (.quotes :: word.getD []), ts⟩ := rfl
  have hclose (w : Word) : step ⟨.single, some w, ts⟩ '\'' = ⟨.plain, some w, ts⟩ := rfl
  rw [quoteChars, List.cons_append, List.foldl_cons, hopen, List.foldl_append, foldl_flatMap_quoteChar, List.foldl_cons,
    hclose, List.foldl_nil, quotedWord, List.reverse_cons, List.append_assoc, List.singleton_append]

end Lexer

theorem toList_quote (s : String) : (quote s).toList = quoteChars s.toList := String.toList_ofList

/-- Alone, a quoted text is one word. -/
theorem tokens?_quote (s : String) : tokens? (quote s).toList = some [.word (quotedWord s.toList)] := by
  rw [tokens?, toList_quote, Lexer.foldl_quoteChars]
  simp [Lexer.finish?, Lexer.endWord]

/-! ## The script that unpacks a package -/

/-- The command has no redirections, and its words stand for the given texts. -/
def Command.Says (c : Command) (words : List String) : Prop :=
  c.redirects = [] ∧ c.words.map Word.literal? = words.map fun word => some word.toList

/-- A word without quotes. -/
def plainWord (s : String) : Word := s.toList.map .char

/-- The tokens of the script: the package is the second word, and the sign between the commands is the only one. -/
theorem tokens?_unpackScript (s : String) :
    tokens? (Audit.unpackScript s).toList =
      some [.word (plainWord "rpm2cpio"), .word (quotedWord s.toList), .sign .pipe, .word (plainWord "cpio"),
        .word (plainWord "-idm")] := by
  have hscript : (Audit.unpackScript s).toList =
      "rpm2cpio ".toList ++ (quoteChars s.toList ++ " | cpio -idm".toList) := by
    show ("rpm2cpio " ++ quote s ++ " | cpio -idm").toList = _
    rw [String.toList_append, String.toList_append, toList_quote, List.append_assoc]
  have hbefore : "rpm2cpio ".toList.foldl Lexer.step {} = ⟨.plain, none, [.word (plainWord "rpm2cpio")]⟩ := by decide
  have hafter (w : Word) (ts : List Token) : " | cpio -idm".toList.foldl Lexer.step ⟨.plain, some w, ts⟩ =
      ⟨.plain, some (plainWord "-idm").reverse,
        .word (plainWord "cpio") :: .sign .pipe :: .word w.reverse :: ts⟩ := by cbv
  rw [tokens?, hscript, List.foldl_append, hbefore, List.foldl_append, Lexer.foldl_quoteChars, hafter]
  simp [Lexer.finish?, Lexer.endWord]

/-- **No text breaks out of its quotes.** The script that unpacks a package is one pipeline of two commands, whatever
    the package is called: its name is one word of the first command, and nothing else comes of it. Alone, the quoted
    name is one word, too. -/
theorem parse?_unpackScript (s : String) :
    (∃ first second, Script.parse? (Audit.unpackScript s).toList = some [(.always, [first, second])] ∧
      first.Says ["rpm2cpio", s] ∧ second.Says ["cpio", "-idm"]) ∧
    ∃ w, tokens? (quote s).toList = some [.word w] ∧ w.literal? = some s.toList := by
  refine ⟨⟨⟨[plainWord "rpm2cpio", quotedWord s.toList], []⟩, ⟨[plainWord "cpio", plainWord "-idm"], []⟩, ?_, ?_, ?_⟩,
    quotedWord s.toList, tokens?_quote s, literal?_quotedWord s.toList⟩
  · rw [Script.parse?, tokens?_unpackScript]
    rfl
  · refine ⟨rfl, ?_⟩
    simp only [List.map_cons, List.map_nil, literal?_quotedWord]
    rfl
  · exact ⟨rfl, rfl⟩

/-- A name full of signs is still one word. -/
example : tokens? (quote "a'; rm \\\n$x | `y`").toList = some [.word (quotedWord "a'; rm \\\n$x | `y`".toList)] := by
  decide +kernel

end FipsAudit.Shell
