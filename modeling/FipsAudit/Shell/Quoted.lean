/-!
# `FipsAudit.Shell.Quoted` — words for shell scripts

A text becomes one word of a script when it stands between single quotes, where nothing has a meaning of its own
except the quote. A quote is written by closing the quotes, a quote after a backslash, and opening them again.

* `quote` — the word that stands for a text.
-/

namespace FipsAudit.Shell

/-- A character between single quotes. -/
def quoteChar (c : Char) : List Char := if c = '\'' then ['\'', '\\', '\'', '\''] else [c]

/-- The word that stands for `s`. -/
def quoteChars (s : List Char) : List Char := '\'' :: s.flatMap quoteChar ++ ['\'']

/-- The word that stands for `s`. -/
def quote (s : String) : String := String.ofList (quoteChars s.toList)

end FipsAudit.Shell
