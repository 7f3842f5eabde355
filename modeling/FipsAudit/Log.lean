/-!
# `FipsAudit.Log` — notes about what was done

Beside its result an operation leaves notes for the log, in the order in which they arise.

* `Note` — a text with its level; `Note.line` is its written form.
* `Logged` — a result with notes; sequencing puts the notes one after the other.
-/

namespace FipsAudit

/-- How much a note matters. -/
inductive Level where
  | error
  | warn
  | info
  | debug
deriving DecidableEq, Repr

/-- The written form of a level. -/
def Level.text : Level → String
  | .error => "ERROR"
  | .warn => "WARN"
  | .info => "INFO"
  | .debug => "DEBUG"

/-- A note for the log. -/
structure Note where
  /-- How much it matters. -/
  level : Level
  /-- What it says. -/
  text : String
deriving DecidableEq, Repr

/-- The written form of a note. -/
def Note.line (n : Note) : String := n.level.text ++ " " ++ n.text

/-- A note of details. -/
def Note.debug (text : String) : Note := ⟨.debug, text⟩

/-- A result with the notes that were left on the way to it. -/
structure Logged (α : Type) where
  /-- The result. -/
  value : α
  /-- The notes, oldest first. -/
  notes : List Note := []

namespace Logged

/-- `x`, then `f` on its result. -/
def andThen {α β : Type} (x : Logged α) (f : α → Logged β) : Logged β :=
  let y := f x.value
  ⟨y.value, x.notes ++ y.notes⟩

instance : Monad Logged where
  pure a := ⟨a, []⟩
  bind := andThen

instance : LawfulMonad Logged := LawfulMonad.mk' Logged
  (by intro α x; cases x; simp [Functor.map, andThen])
  (by intro α β a f; simp [bind, pure, andThen])
  (by intro α β γ x f g; simp [bind, andThen, List.append_assoc])

/-- Leaves notes. -/
def leave (notes : List Note) : Logged Unit := ⟨(), notes⟩

@[simp] theorem value_pure {α : Type} (a : α) : (pure a : Logged α).value = a := rfl

@[simp] theorem notes_pure {α : Type} (a : α) : (pure a : Logged α).notes = [] := rfl

@[simp] theorem value_bind {α β : Type} (x : Logged α) (f : α → Logged β) :
    (x >>= f).value = (f x.value).value := rfl

@[simp] theorem notes_bind {α β : Type} (x : Logged α) (f : α → Logged β) :
    (x >>= f).notes = x.notes ++ (f x.value).notes := rfl

end Logged

end FipsAudit
