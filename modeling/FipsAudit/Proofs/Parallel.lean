import FipsAudit.Proofs.Run

/-!
# `FipsAudit.Proofs.Parallel` — two operations side by side

Operations that make the same calls and come to the same may still print different things. To compare them they are run
side by side, in sessions that are alike: after each part both have failed in the same way, or their results and what
they have printed so far stand in a relation; the sessions are alike again.

* `Run.Beside` — one operation in one session beside another one in another.
* `Run.Parallel` — two operations side by side in all sessions that are alike, with a rule for each way to build them.
* `Run.Silent` — an operation that prints nothing and cannot see what was noted and printed.
-/

namespace FipsAudit

open Session

namespace Run

variable {ε ε' α α' β β' : Type} {text text' : String}

/-! ## Two results -/

/-- Two results that stand in relation, or the same failure twice. -/
inductive Both (R : α → β → Prop) : Except ε α → Except ε β → Prop
  /-- Two results. -/
  | ok {a : α} {b : β} (related : R a b) : Both R (.ok a) (.ok b)
  /-- One failure. -/
  | error (e : ε) : Both R (.error e) (.error e)

theorem Both.mapError {R : α → β → Prop} {p : Except ε α} {q : Except ε β} (h : Both R p q) (f : ε → ε') :
    Both R (p.mapError f) (q.mapError f) := by
  cases h with
  | ok related => exact .ok related
  | error e => exact .error (f e)

theorem Both.mono {R S : α → β → Prop} {p : Except ε α} {q : Except ε β} (h : Both R p q) (hRS : ∀ a b, R a b → S a b) :
    Both S p q := by
  cases h with
  | ok related => exact .ok (hRS _ _ related)
  | error e => exact .error e

/-- If only equal results stand in relation, then both are equal. -/
theorem Both.eq {R : α → α → Prop} {p q : Except ε α} (h : Both R p q) (hR : ∀ a b, R a b → a = b) : p = q := by
  cases h with
  | ok related => exact congrArg _ (hR _ _ related)
  | error e => rfl

/-- A result stands in relation to another one. -/
theorem Both.exists_of_ok {R : α → β → Prop} {p : Except ε α} {q : Except ε β} {b : β} (h : Both R p q)
    (hq : q = .ok b) : ∃ a, R a b := by
  cases h with
  | ok related => exact Except.ok.inj hq ▸ ⟨_, related⟩
  | error e => cases hq

/-! ## Side by side -/

/-- A relation between two texts and two results. -/
abbrev Relation (α β : Type) : Type := String → String → α → β → Prop

/-- The operation `x` begins in `s`, the operation `y` in `t`. They come to two results that stand in relation with the
    texts that they print, or to the same failure; the sessions are alike then. -/
structure Beside (R : Relation α β) (x : Run ε α) (s : Session) (y : Run ε β) (t : Session) (told told' : String) :
    Prop where
  /-- The results. -/
  results : Both (R told told') (exec x s).1 (exec y t).1
  /-- The sessions. -/
  alike : Alike (exec x s).2 (exec y t).2
  /-- What the first one prints. -/
  printed : (exec x s).2.printed = s.printed ++ told
  /-- What the second one prints. -/
  printed' : (exec y t).2.printed = t.printed ++ told'

/-- The operations go side by side in all sessions that are alike. -/
def Parallel (R : Relation α β) (x : Run ε α) (y : Run ε β) : Prop :=
  ∀ s t, Alike s t → ∃ told told', Beside R x s y t told told'

/-- The same result, and nothing printed. -/
def Same : Relation α α := fun told told' a b => told = "" ∧ told' = "" ∧ a = b

/-- An operation that prints nothing, and cannot see what was noted and printed. -/
abbrev Silent (x : Run ε α) : Prop := Parallel Same x x

variable {R : Relation α β} {S : Relation α' β'} {x : Run ε α} {y : Run ε β} {s t : Session}

/-- What comes before operations that go side by side, where nothing is printed and the session is left as it is. -/
theorem Beside.first {f : α → Run ε α'} {g : β → Run ε β'} {a : α} {b : β} (hx : exec x s = (.ok a, s))
    (hy : exec y t = (.ok b, t)) (h : ∃ told told', Beside S (f a) s (g b) t told told') :
    ∃ told told', Beside S (x >>= f) s (y >>= g) t told told' := by
  obtain ⟨told, told', hresults, halike, hprinted, hprinted'⟩ := h
  refine ⟨told, told', ?_, ?_, ?_, ?_⟩
  · rwa [exec_bind_of_ok hx, exec_bind_of_ok hy]
  · rwa [exec_bind_of_ok hx, exec_bind_of_ok hy]
  · rwa [exec_bind_of_ok hx]
  · rwa [exec_bind_of_ok hy]

theorem Beside.adapt (h : ∃ told told', Beside R x s y t told told') (f : ε → ε') :
    ∃ told told', Beside R (adapt f x) s (adapt f y) t told told' := by
  obtain ⟨told, told', hresults, halike, hprinted, hprinted'⟩ := h
  refine ⟨told, told', ?_, ?_, ?_, ?_⟩
  · rw [exec_adapt, exec_adapt]
    exact hresults.mapError f
  · rwa [exec_adapt, exec_adapt]
  · rwa [exec_adapt]
  · rwa [exec_adapt]

namespace Parallel

theorem mono {R' : Relation α β} (h : Parallel R x y) (hR : ∀ told told' a b, R told told' a b → R' told told' a b) :
    Parallel R' x y := by
  intro s t halike
  obtain ⟨told, told', hresults, halike', hprinted, hprinted'⟩ := h s t halike
  exact ⟨told, told', hresults.mono (hR told told'), halike', hprinted, hprinted'⟩

/-- Operations that only note and print. -/
theorem of_says {a : α} {b : β} (hx : Says x a text) (hy : Says y b text') (h : R text text' a b) : Parallel R x y := by
  intro s t halike
  obtain ⟨s', hs, halike₁, hprinted⟩ := hx s
  obtain ⟨t', ht, halike₂, hprinted'⟩ := hy t
  refine ⟨text, text', ?_, ?_, ?_, ?_⟩
  · rw [hs, ht]
    exact .ok h
  · rw [hs, ht]
    exact (halike₁.symm.trans halike).trans halike₂
  · rw [hs, hprinted]
  · rw [ht, hprinted']

theorem pure {a : α} {b : β} (h : R "" "" a b) : Parallel R (pure a : Run ε α) (pure b) :=
  of_says (Says.pure a) (Says.pure b) h

/-- What comes to the same in both goes side by side with itself. -/
theorem mk {p : Except ε α} {q : Except ε β} (h : Both (R "" "") p q) :
    Parallel R (ExceptT.mk (Pure.pure p)) (ExceptT.mk (Pure.pure q)) :=
  fun _ _ halike => ⟨"", "", h, halike, String.append_empty.symm, String.append_empty.symm⟩

theorem throw (e : ε) : Parallel R (throw e : Run ε α) (throw e) := mk (.error e)

theorem call (c : Call) : Silent (call c : Run ε (Except RunError Output)) :=
  fun _ _ halike => ⟨"", "", .ok ⟨rfl, rfl, halike.replyTo c⟩, halike.after c, String.append_empty.symm,
    String.append_empty.symm⟩

theorem files : Silent (files : Run ε FileSystem) :=
  fun _ _ halike => ⟨"", "", .ok ⟨rfl, rfl, halike.files⟩, halike, String.append_empty.symm, String.append_empty.symm⟩

theorem changeFiles (f : FileSystem → FileSystem) : Silent (changeFiles f : Run ε Unit) :=
  fun _ _ halike => ⟨"", "", .ok ⟨rfl, rfl, rfl⟩,
    ⟨congrArg f halike.files, halike.tools, halike.scratch, halike.calls⟩, String.append_empty.symm,
    String.append_empty.symm⟩

theorem adapt (h : Parallel R x y) (f : ε → ε') : Parallel R (adapt f x) (adapt f y) :=
  fun s t halike => Beside.adapt (h s t halike) f

theorem attempt (h : Parallel R x y) :
    Parallel (fun told told' => Both (R told told')) (attempt x : Run ε' (Except ε α)) (attempt y) := by
  intro s t halike
  obtain ⟨told, told', hresults, halike', hprinted, hprinted'⟩ := h s t halike
  refine ⟨told, told', ?_, ?_, ?_, ?_⟩
  · rw [exec_attempt, exec_attempt]
    exact .ok hresults
  · rwa [exec_attempt, exec_attempt]
  · rwa [exec_attempt]
  · rwa [exec_attempt]

end Parallel

/-- Operations go on side by side after operations that did; what is printed is printed one after the other. -/
theorem Beside.bind {f : α → Run ε α'} {g : β → Run ε β'} (h : ∃ told told', Beside R x s y t told told')
    (hfg : ∀ told told' a b, R told told' a b →
      Parallel (fun next next' => S (told ++ next) (told' ++ next')) (f a) (g b)) :
    ∃ told told', Beside S (x >>= f) s (y >>= g) t told told' := by
  obtain ⟨told, told', hresults, halike, hprinted, hprinted'⟩ := h
  rcases hx : exec x s with ⟨p, s'⟩
  rcases hy : exec y t with ⟨q, t'⟩
  rw [hx] at hresults halike hprinted
  rw [hy] at hresults halike hprinted'
  cases hresults with
  | error e =>
      refine ⟨told, told', ?_, ?_, ?_, ?_⟩
      · rw [exec_bind_of_error hx, exec_bind_of_error hy]
        exact .error e
      · rwa [exec_bind_of_error hx, exec_bind_of_error hy]
      · rwa [exec_bind_of_error hx]
      · rwa [exec_bind_of_error hy]
  | ok related =>
      obtain ⟨next, next', hresults, halike', hnext, hnext'⟩ := hfg _ _ _ _ related s' t' halike
      refine ⟨told ++ next, told' ++ next', ?_, ?_, ?_, ?_⟩
      · rwa [exec_bind_of_ok hx, exec_bind_of_ok hy]
      · rwa [exec_bind_of_ok hx, exec_bind_of_ok hy]
      · rw [exec_bind_of_ok hx, hnext, hprinted, String.append_assoc]
      · rw [exec_bind_of_ok hy, hnext', hprinted', String.append_assoc]

namespace Parallel

theorem bind {f : α → Run ε α'} {g : β → Run ε β'} (h : Parallel R x y)
    (hfg : ∀ told told' a b, R told told' a b →
      Parallel (fun next next' => S (told ++ next) (told' ++ next')) (f a) (g b)) :
    Parallel S (x >>= f) (y >>= g) :=
  fun s t halike => Beside.bind (h s t halike) hfg

/-- After printing, operations go on with their results. -/
theorem says_bind {a : α} {b : β} {f : α → Run ε α'} {g : β → Run ε β'} (hx : Says x a text) (hy : Says y b text')
    (h : Parallel (fun next next' => S (text ++ next) (text' ++ next')) (f a) (g b)) :
    Parallel S (x >>= f) (y >>= g) := by
  have hfirst : Parallel (fun told told' c d => told = text ∧ told' = text' ∧ c = a ∧ d = b) x y :=
    of_says hx hy ⟨rfl, rfl, rfl, rfl⟩
  refine bind hfirst fun told told' c d => ?_
  rintro ⟨rfl, rfl, rfl, rfl⟩
  exact h

/-- After a silent operation, operations go on with the same result. -/
theorem silent_bind {S : Relation α' β'} {x : Run ε α} {f : α → Run ε α'} {g : α → Run ε β'} (hx : Silent x)
    (h : ∀ a, Parallel S (f a) (g a)) : Parallel S (x >>= f) (x >>= g) := by
  refine bind hx fun told told' a b => ?_
  rintro ⟨rfl, rfl, rfl⟩
  simp only [String.empty_append]
  exact h a

end Parallel

/-- Of a reply nothing is accepted but success. -/
theorem silent_reply {c : Call} {lost : RunError → ε} {refused : Output → ε} {result : Output → β} :
    Silent (call c >>= fun reply : Except RunError Output =>
      (match reply with
      | .error cause => throw (lost cause)
      | .ok output => if output.success then pure (result output) else throw (refused output) : Run ε β)) := by
  refine Parallel.silent_bind (Parallel.call c) fun reply => ?_
  cases reply with
  | error cause => exact Parallel.throw _
  | ok output =>
      by_cases hsuccess : output.success = true
      · simp only [if_pos hsuccess]
        exact Parallel.pure ⟨rfl, rfl, rfl⟩
      · simp only [if_neg hsuccess]
        exact Parallel.throw _

/-- Whether a silent operation succeeds is a quiet condition, if what has to hold at its end is. -/
theorem Silent.quiet_yields {x : Run ε α} {Q : α → Session → Prop} (hx : Silent x) (hQ : ∀ a, Quiet (Q a)) :
    Quiet fun s => Yields x s Q := by
  intro s t halike
  show Yields x s Q ↔ Yields x t Q
  obtain ⟨told, told', hresults, halike', -, -⟩ := hx s t halike
  rcases hs : exec x s with ⟨p, s'⟩
  rcases ht : exec x t with ⟨q, t'⟩
  rw [hs, ht] at hresults halike'
  cases hresults with
  | error e => exact iff_of_false (not_yields_of_error hs) (not_yields_of_error ht)
  | ok related =>
      obtain ⟨-, -, rfl⟩ := related
      rw [yields_iff_of_ok hs, yields_iff_of_ok ht]
      exact hQ _ s' t' halike'

end Run

end FipsAudit
