import FipsAudit.Request

/-!
# `FipsAudit.Proofs.Request` — one more option in front

Options may stand before the name of an audit. An option that was not given can be put in front of all words, and all
that it does to the request is its own part.

* `Request.Given.read_withJson` — reading the words of one side, a document being asked for before.
* `Request.parse_json_cons` — asking for a document with the first word.
-/

namespace FipsAudit.Request

/-! ## Words

If no document is asked for in the end, then it was not asked for at the beginning, nor on the way; and if it had been
asked for at the beginning, that would be the only difference. -/

/-- What was given, and a document is asked for. -/
def Given.withJson (g : Given) : Given := { g with json := true }

/-- What one side delivers, and a document is asked for. -/
def Side.withJson (side : Side) : Side := { side with given := side.given.withJson }

theorem once_eq_ok_iff {isSet : Bool} {value : Option String} {g g₁ : Given} :
    once isSet value g = .ok g₁ ↔ isSet = false ∧ value = none ∧ g = g₁ := by
  cases isSet <;> cases value <;> simp [once]

/-- Taking a word leaves the wish for a document as it is, and takes no notice of it. -/
def Given.Disregards (step : Given → Except Stop Given) : Prop :=
  ∀ g g₁, step g = .ok g₁ → g₁.json = false → g.json = false ∧ step g.withJson = .ok g₁.withJson

theorem Given.disregards_long (place : Place) (name : String) (value : Option String) :
    Disregards fun g => g.long place name value := by
  intro g g₁ h hjson
  simp only [Given.long] at h ⊢
  split at h
  · obtain ⟨hset, rfl, rfl⟩ := once_eq_ok_iff.mp h
    exact ⟨hjson, once_eq_ok_iff.mpr ⟨hset, rfl, rfl⟩⟩
  · obtain ⟨-, -, rfl⟩ := once_eq_ok_iff.mp h
    cases hjson
  · obtain ⟨hset, rfl, rfl⟩ := once_eq_ok_iff.mp h
    exact ⟨hjson, once_eq_ok_iff.mpr ⟨hset, rfl, rfl⟩⟩
  · cases h
  · cases h
  · cases h

theorem Given.disregards_setConfig (path : String) : Disregards fun g => g.setConfig path := by
  intro g g₁ h hjson
  simp only [Given.setConfig] at h ⊢
  split at h
  · cases h
  · rename_i hunset
    cases h
    exact ⟨hjson, if_neg hunset⟩

theorem Given.disregards_setOperand (place : Place) (text : String) : Disregards fun g => g.setOperand place text := by
  intro g g₁ h hjson
  simp only [Given.setOperand] at h ⊢
  split at h
  · cases h
  · rename_i hunset
    cases h
    exact ⟨hjson, if_neg hunset⟩

/-- A word is taken, and then the words after it. -/
theorem Given.Disregards.bind {step : Given → Except Stop Given} (hstep : Disregards step)
    {next : Given → Except Stop Side} {side : Side}
    (hnext : ∀ g₁, next g₁ = .ok side → g₁.json = false ∧ next g₁.withJson = .ok side.withJson) {g : Given}
    (h : (step g >>= next) = .ok side) : g.json = false ∧ (step g.withJson >>= next) = .ok side.withJson := by
  cases hg : step g with
  | error e =>
      rw [hg] at h
      cases h
  | ok g₁ =>
      rw [hg] at h
      obtain ⟨hjson, hrest⟩ := hnext g₁ h
      obtain ⟨hjson', hfirst⟩ := hstep g g₁ hg hjson
      rw [hfirst]
      exact ⟨hjson', hrest⟩

theorem Given.operands_withJson {g : Given} {place : Place} {ws : List String} {side : Side}
    (h : g.operands place ws = .ok side) (hjson : side.given.json = false) :
    g.json = false ∧ g.withJson.operands place ws = .ok side.withJson := by
  induction ws generalizing g with
  | nil =>
      cases h
      exact ⟨hjson, rfl⟩
  | cons w ws ih => exact (Given.disregards_setOperand place _).bind (fun _ => ih) h

/-- **A document that is not asked for by the words of one side** can be asked for before them. -/
theorem Given.read_withJson {g : Given} {place : Place} {due : Bool} {ws : List String} {side : Side}
    (h : g.read place due ws = .ok side) (hjson : side.given.json = false) :
    g.json = false ∧ g.withJson.read place due ws = .ok side.withJson := by
  induction ws generalizing g due with
  | nil =>
      unfold Given.read at h ⊢
      cases due with
      | true => cases h
      | false =>
          cases h
          exact ⟨hjson, rfl⟩
  | cons w ws ih =>
      unfold Given.read at h ⊢
      split at h
      · exact (Given.disregards_setConfig _).bind (fun _ => ih) h
      · exact (Given.disregards_setConfig _).bind (fun _ => ih) h
      · cases h
      · exact Given.operands_withJson h hjson
      · exact ih h
      · exact (Given.disregards_long place _ _).bind (fun _ => ih) h
      · cases h
      · -- The name of the audit ends this side; any other word is a target.
        split at h
        next hplace =>
          rw [if_pos hplace]
          split at h
          · cases h
            exact ⟨hjson, rfl⟩
          · cases h
        next hplace =>
          rw [if_neg hplace]
          exact (Given.disregards_setOperand place _).bind (fun _ => ih) h

/-! ## Requests

An audit is not asked for by a word at which reading ends early. -/

/-- Reading ended early for a question about the program, or for a word that is not understood. -/
inductive Stop.Question : Stop → Prop
  | version : Question (.answered .version)
  | help : Question (.answered .help)
  | misused : Question .misused

section Questions

variable {g : Given} {place : Place} {text name : String} {value : Option String} {stop : Stop}

theorem question_once {isSet : Bool} (h : once isSet value g = .error stop) : stop.Question := by
  unfold once at h
  split at h
  · cases h
    exact .misused
  · cases h

theorem question_long (h : g.long place name value = .error stop) : stop.Question := by
  unfold Given.long at h
  split at h
  · exact question_once h
  · exact question_once h
  · exact question_once h
  · cases h
    split
    · exact .misused
    · exact .help
  · cases h
    split
    · exact .misused
    · exact .version
  · cases h
    exact .misused

theorem question_setConfig (h : g.setConfig text = .error stop) : stop.Question := by
  unfold Given.setConfig at h
  split at h
  · cases h
    exact .misused
  · cases h

theorem question_setOperand (h : g.setOperand place text = .error stop) : stop.Question := by
  unfold Given.setOperand at h
  split at h
  · cases h
    exact .misused
  · cases h

theorem question_shortStop (place : Place) (letters : List Char) : (shortStop place letters).Question := by
  unfold shortStop
  split
  · exact .help
  · split
    · exact .version
    · exact .misused
  · exact .misused

theorem question_helpStop (words : List String) : (helpStop words).Question := by
  unfold helpStop
  split
  · exact .help
  · split
    · exact .help
    · exact .misused
  · exact .misused

/-- A word ends the reading, or one of those after it does. -/
theorem question_bind {p : Except Stop Given} {next : Given → Except Stop Side}
    (hfirst : ∀ stop, p = .error stop → stop.Question) (hnext : ∀ g₁, next g₁ = .error stop → stop.Question)
    (h : (p >>= next) = .error stop) : stop.Question := by
  cases hp : p with
  | error e =>
      rw [hp] at h
      cases h
      exact hfirst _ hp
  | ok g₁ =>
      rw [hp] at h
      exact hnext g₁ h

theorem question_operands {ws : List String} (h : g.operands place ws = .error stop) : stop.Question := by
  induction ws generalizing g with
  | nil => cases h
  | cons w ws ih => exact question_bind (fun _ => question_setOperand) (fun _ => ih) h

theorem question_read {due : Bool} {ws : List String} (h : g.read place due ws = .error stop) : stop.Question := by
  induction ws generalizing g due with
  | nil =>
      unfold Given.read at h
      cases due with
      | true =>
          cases h
          exact .misused
      | false => cases h
  | cons w ws ih =>
      unfold Given.read at h
      split at h
      · exact question_bind (fun _ => question_setConfig) (fun _ => ih) h
      · exact question_bind (fun _ => question_setConfig) (fun _ => ih) h
      · cases h
        exact .misused
      · exact question_operands h
      · exact ih h
      · exact question_bind (fun _ => question_long) (fun _ => ih) h
      · cases h
        exact question_shortStop place _
      · split at h
        · split at h
          · cases h
          · cases h
            split
            · exact question_helpStop ws
            · exact .misused
        · exact question_bind (fun _ => question_setOperand) (fun _ => ih) h

end Questions

/-- Words are read to the end, and ask for an audit. -/
inductive Reads (words : List String) : Options → Target → Prop
  /-- The options before the name of the audit, and the options and the target after it. -/
  | audit {side side' : Side} {c : Subcommand} {rest : List String} {operand : String}
      (before : Given.read {} none false words = .ok side) (name : side.next = some (c, rest))
      (after : Given.read {} (some c) false rest = .ok side') (target : side'.given.operand = some operand) :
      Reads words (side.given.options side'.given) (c.target side'.given operand)

variable {words : List String} {options : Options} {target : Target}

theorem Reads.read_eq (h : Reads words options target) : read words = .ok (.audit options target) := by
  cases h with
  | audit before name after target =>
      simp only [read, before, bind, Except.bind, name, after, target]
      rfl

/-- Reading comes to an audit, or it ends early. -/
theorem reads_or_question (words : List String) :
    (∃ options target, Reads words options target) ∨ ∃ stop, stop.Question ∧ read words = .error stop := by
  unfold read
  cases hbefore : Given.read {} none false words with
  | error stop => exact Or.inr ⟨stop, question_read hbefore, rfl⟩
  | ok side =>
      simp only [bind, Except.bind]
      cases hname : side.next with
      | none => exact Or.inr ⟨.misused, .misused, rfl⟩
      | some next =>
          obtain ⟨c, rest⟩ := next
          simp only
          cases hafter : Given.read {} (some c) false rest with
          | error stop => exact Or.inr ⟨stop, question_read hafter, rfl⟩
          | ok side' =>
              simp only
              cases htarget : side'.given.operand with
              | none => exact Or.inr ⟨.misused, .misused, rfl⟩
              | some operand => exact Or.inl ⟨_, _, .audit hbefore hname hafter htarget⟩

/-- An audit is what the words ask for exactly if they are read to the end. -/
theorem parse_eq_audit_iff : parse words = some (.audit options target) ↔ Reads words options target := by
  constructor
  · intro h
    rcases reads_or_question words with ⟨options', target', hreads⟩ | ⟨stop, hquestion, hread⟩
    · rw [parse, hreads.read_eq] at h
      cases h
      exact hreads
    · rw [parse, hread] at h
      cases hquestion <;> cases h
  · intro h
    rw [parse, h.read_eq]

/-- **A document can be asked for with the first word.** If the words ask for an audit without a document, then with
    that option in front they ask for the same audit with one. -/
theorem parse_json_cons (h : parse words = some (.audit { options with json := false } target)) :
    parse ("--json" :: words) = some (.audit { options with json := true } target) := by
  generalize hoptions : { options with json := false } = plain at h
  cases parse_eq_audit_iff.mp h with
  | @audit side side' c rest operand before name after htarget =>
      have hjson : side.given.json = false ∧ side'.given.json = false := by
        have hboth := congrArg Options.json hoptions
        rw [Given.options, eq_comm, Bool.or_eq_false_iff] at hboth
        exact hboth
      have hread : Given.read {} none false ("--json" :: words) = .ok side.withJson :=
        (Given.read_withJson before hjson.1).2
      have hdocument : { options with json := true } = side.withJson.given.options side'.given := by
        show _ = { side.given.options side'.given with json := true }
        rw [← hoptions]
      rw [hdocument]
      exact parse_eq_audit_iff.mpr (.audit hread name after htarget)

end FipsAudit.Request
