import Mathlib.Tactic
import PointRecords.Proofs.Colour.PackedNumber
import PointRecords.Proofs.Entries
import PointRecords.Session

/-!
# Steps of a session

A step stores one record and shows it, changes the set of colours by one colour, replaces
the buffer, or leaves the session as it was.  A step whose reply reports a failure is of
the last kind.  Names remain distinct, and the colours of the set in order.
-/

namespace PointRecords.Session

/-! ## The set of colours -/

section Colours

variable {colour made : Colour} {colours : List Colour}

/-- Colours in increasing order of their packed numbers, each of them once. -/
def IsIncreasing (colours : List Colour) : Prop :=
  colours.Pairwise fun first second => first.toPacked < second.toPacked

theorem IsIncreasing.nodup (increasing : IsIncreasing colours) : colours.Nodup := by
  refine List.Pairwise.imp ?_ increasing
  rintro first second less rfl
  exact UInt32.lt_irrefl _ less

theorem mem_insertColour :
    colour ∈ insertColour made colours ↔ colour = made ∨ colour ∈ colours := by
  induction colours with
  | nil => simp [insertColour]
  | cons other rest ih =>
      rw [insertColour]
      split_ifs with same less
      · subst same
        simp
      · exact List.mem_cons
      · rw [List.mem_cons, ih, List.mem_cons, or_left_comm]

theorem IsIncreasing.insertColour (increasing : IsIncreasing colours) (made : Colour) :
    IsIncreasing (Session.insertColour made colours) := by
  induction colours with
  | nil => exact List.pairwise_singleton _ _
  | cons other rest ih =>
      obtain ⟨below, restIncreasing⟩ := List.pairwise_cons.mp increasing
      rw [Session.insertColour]
      split_ifs with same less
      · exact increasing
      · apply List.pairwise_cons.mpr
        refine ⟨fun colour member => ?_, increasing⟩
        rcases List.mem_cons.mp member with rfl | member
        · exact less
        · exact UInt32.lt_trans less (below colour member)
      · apply List.pairwise_cons.mpr
        refine ⟨fun colour member => ?_, ih restIncreasing⟩
        rcases mem_insertColour.mp member with rfl | member
        · have different := Colour.toPacked_inj.not.mpr same
          exact (UInt32.lt_or_lt_of_ne different).resolve_left less
        · exact below colour member

end Colours

/-! ## What a step does -/

/-- The slot that a step stores a record in. -/
def Step.target? : Step → Option String
  | .make target _ | .check target _ | .copy _ target | .change target _ | .repack _ target _
  | .rescale _ target _ | .exchange _ target => some target
  | .compare _ _ | .insert _ | .remove _ | .members | .encode _ _ | .decode _ => none

/-- A step that only asks something. -/
def Step.IsQuestion : Step → Prop
  | .compare _ _ | .members | .decode _ => True
  | _ => False

/-- A reply that reports a failure. -/
def Reply.IsFailure : Reply → Prop
  | .rejected _ | .exchanged _ (.error _) | .unpackable _ | .missing _ => True
  | _ => False

/-- The record that a reply shows as the one stored. -/
def Reply.record? : Reply → Option Record
  | .slot record | .exchanged _ (.ok record) => some record
  | _ => none

theorem Step.target?_of_isQuestion {step : Step} (isQuestion : step.IsQuestion) :
    step.target? = none := by
  unfold IsQuestion at isQuestion
  split at isQuestion
  · rfl
  · rfl
  · rfl
  · exact isQuestion.elim

theorem Reply.record?_of_isFailure {reply : Reply} (isFailure : reply.IsFailure) :
    reply.record? = none := by
  unfold IsFailure at isFailure
  split at isFailure
  · rfl
  · rfl
  · rfl
  · rfl
  · exact isFailure.elim

/-- The step inserts the colour, which is the one of the slot it names. -/
def Inserts (session : Session) (step : Step) (colour : Colour) : Prop :=
  ∃ source, step = .insert source ∧ session.find? source = some (.colour colour)

/-- The step takes the colour out of the set. -/
def Removes (session : Session) (step : Step) (colour : Colour) : Prop :=
  ∃ source, step = .remove source ∧ session.find? source = some (.colour colour)

/-- What a step can do to a session, and reply. -/
inductive Effect (session : Session) (step : Step) : Reply × Session → Prop
  | asked {reply : Reply} (isQuestion : step.IsQuestion) : Effect session step (reply, session)
  | failed {reply : Reply} (isFailure : reply.IsFailure)
      (idle : ∀ colour, ¬ session.Inserts step colour ∧ ¬ session.Removes step colour) :
      Effect session step (reply, session)
  | stored {reply : Reply} {target : String} {record : Record}
      (isTarget : step.target? = some target) (isShown : reply.record? = some record) :
      Effect session step (reply, session.store target record)
  | inserted {colour : Colour} (inserts : session.Inserts step colour) :
      Effect session step (session.insert colour)
  | removed {colour : Colour} (removes : session.Removes step colour) :
      Effect session step (session.remove colour)
  | encoded {kind : Kind} {names : List String} (isEncoding : step = .encode kind names) :
      Effect session step (session.encode kind names)

section Effect

variable {session : Session} {step : Step} {source target : String}

theorem idle_of_target? (isTarget : step.target? = some target) (colour : Colour) :
    ¬ session.Inserts step colour ∧ ¬ session.Removes step colour := by
  constructor
  · rintro ⟨source, rfl, -⟩
    cases isTarget
  · rintro ⟨source, rfl, -⟩
    cases isTarget

theorem idle_of_isQuestion (isQuestion : step.IsQuestion) (colour : Colour) :
    ¬ session.Inserts step colour ∧ ¬ session.Removes step colour := by
  constructor
  · rintro ⟨source, rfl, -⟩
    exact isQuestion
  · rintro ⟨source, rfl, -⟩
    exact isQuestion

theorem inserts_insert_iff {made : Colour} (held : session.find? source = some (.colour made))
    {colour : Colour} : session.Inserts (.insert source) colour ↔ colour = made := by
  simp [Inserts, held, eq_comm]

theorem removes_remove_iff {made : Colour} (held : session.find? source = some (.colour made))
    {colour : Colour} : session.Removes (.remove source) colour ↔ colour = made := by
  simp [Removes, held, eq_comm]

theorem effect_withRecord {carryOut : Record → Reply × Session}
    (idle : ∀ colour, ¬ session.Inserts step colour ∧ ¬ session.Removes step colour)
    (effect : ∀ record, session.find? source = some record →
      Effect session step (carryOut record)) :
    Effect session step (session.withRecord source carryOut) := by
  rw [withRecord]
  cases held : session.find? source with
  | none => exact .failed trivial idle
  | some record => exact effect record held

theorem effect_withColour {carryOut : Colour → Reply × Session}
    (idle : (∀ colour, session.find? source ≠ some (.colour colour)) →
      ∀ colour, ¬ session.Inserts step colour ∧ ¬ session.Removes step colour)
    (effect : ∀ colour, session.find? source = some (.colour colour) →
      Effect session step (carryOut colour)) :
    Effect session step (session.withColour source carryOut) := by
  rw [withColour]
  split
  · rename_i colour held
    exact effect colour held
  · rename_i noColour
    exact .failed trivial (idle noColour)

theorem effect_rework (isTarget : step.target? = some target) (change : Colour → Colour) :
    Effect session step (session.rework source target change) :=
  effect_withColour (fun _ => idle_of_target? isTarget) fun _ _ => .stored isTarget rfl

theorem effect_step (session : Session) (step : Step) :
    Effect session step (session.step step) := by
  cases step with
  | make target record => exact .stored rfl rfl
  | check target components =>
      rw [Session.step, check]
      split
      · exact .stored rfl rfl
      · exact .failed trivial (idle_of_target? rfl)
  | copy source target =>
      exact effect_withRecord (idle_of_target? rfl) fun _ _ => .stored rfl rfl
  | change target change =>
      exact effect_withRecord (idle_of_target? rfl) fun _ _ => .stored rfl rfl
  | compare first second =>
      exact effect_withRecord (idle_of_isQuestion trivial) fun _ _ =>
        effect_withRecord (idle_of_isQuestion trivial) fun _ _ => .asked trivial
  | repack source target top => exact effect_rework rfl _
  | rescale source target shift => exact effect_rework rfl _
  | exchange source target =>
      refine effect_withRecord (idle_of_target? rfl) fun record _ => ?_
      split
      · exact .stored rfl rfl
      · exact .failed trivial (idle_of_target? rfl)
  | insert source =>
      refine effect_withColour (fun noColour colour => ⟨?_, ?_⟩)
        fun colour held => .inserted ⟨source, rfl, held⟩
      · rintro ⟨_, ⟨⟩, held⟩
        exact noColour colour held
      · rintro ⟨_, ⟨⟩, _⟩
  | remove source =>
      refine effect_withColour (fun noColour colour => ⟨?_, ?_⟩)
        fun colour held => .removed ⟨source, rfl, held⟩
      · rintro ⟨_, ⟨⟩, _⟩
      · rintro ⟨_, ⟨⟩, held⟩
        exact noColour colour held
  | members => exact .asked trivial
  | encode kind names => exact .encoded rfl
  | decode kind => exact .asked trivial

end Effect

/-! ## A session after a step -/

theorem find?_store (session : Session) (name other : String) (record : Record) :
    (session.store name record).find? other =
      if other = name then some record else session.find? other :=
  lookup_replaced session.slots name other record

/-- Every slot has a name of its own, and the colours are in order. -/
structure IsOrderly (session : Session) : Prop where
  names_nodup : (session.slots.map Prod.fst).Nodup
  increasing : IsIncreasing session.colours

theorem isOrderly_empty : empty.IsOrderly :=
  ⟨List.nodup_nil, List.Pairwise.nil⟩

section

variable {session : Session} {step : Step} {outcome : Reply × Session}

/-- Only the target of a step is written. -/
theorem Effect.find? (effect : Effect session step outcome) {name : String}
    (apart : step.target? ≠ some name) : outcome.2.find? name = session.find? name := by
  cases effect with
  | asked => rfl
  | failed => rfl
  | stored isTarget =>
      rw [find?_store, if_neg]
      rintro rfl
      exact apart isTarget
  | inserted => rfl
  | removed => rfl
  | encoded => rfl

/-- What is shown has been stored. -/
theorem Effect.find?_target (effect : Effect session step outcome) {target : String}
    {record : Record} (isTarget : step.target? = some target)
    (isShown : outcome.1.record? = some record) : outcome.2.find? target = some record := by
  cases effect with
  | asked isQuestion =>
      rw [Step.target?_of_isQuestion isQuestion] at isTarget
      cases isTarget
  | failed isFailure =>
      rw [Reply.record?_of_isFailure isFailure] at isShown
      cases isShown
  | stored sameTarget sameRecord =>
      rw [isTarget] at sameTarget
      rw [isShown] at sameRecord
      cases sameTarget
      cases sameRecord
      rw [find?_store, if_pos rfl]
  | inserted => cases isShown
  | removed => cases isShown
  | encoded => cases isShown

/-- A step that fails leaves the session as it was. -/
theorem Effect.eq_of_isFailure (effect : Effect session step outcome)
    (isFailure : outcome.1.IsFailure) : outcome.2 = session := by
  cases effect with
  | asked => rfl
  | failed => rfl
  | stored isTarget isShown =>
      rw [Reply.record?_of_isFailure isFailure] at isShown
      cases isShown
  | inserted => cases isFailure
  | removed => cases isFailure
  | encoded => cases isFailure

/-- Only packing replaces the buffer. -/
theorem Effect.buffer (effect : Effect session step outcome)
    (noEncoding : ∀ kind names, step ≠ .encode kind names) :
    outcome.2.buffer = session.buffer := by
  cases effect with
  | asked => rfl
  | failed => rfl
  | stored => rfl
  | inserted => rfl
  | removed => rfl
  | encoded isEncoding => exact absurd isEncoding (noEncoding _ _)

theorem Effect.isOrderly (effect : Effect session step outcome) (orderly : session.IsOrderly) :
    outcome.2.IsOrderly := by
  obtain ⟨distinct, increasing⟩ := orderly
  cases effect with
  | asked => exact ⟨distinct, increasing⟩
  | failed => exact ⟨distinct, increasing⟩
  | stored => exact ⟨nodup_replaced distinct _ _, increasing⟩
  | inserted => exact ⟨distinct, increasing.insertColour _⟩
  | removed => exact ⟨distinct, increasing.sublist List.erase_sublist⟩
  | encoded => exact ⟨distinct, increasing⟩

/-- The set holds the colour that a step inserts, and those it held before and that the
step does not remove. -/
theorem Effect.mem_colours_iff (effect : Effect session step outcome)
    (increasing : IsIncreasing session.colours) {colour : Colour} :
    colour ∈ outcome.2.colours ↔ session.Inserts step colour ∨
      colour ∈ session.colours ∧ ¬ session.Removes step colour := by
  have unchanged : ¬ session.Inserts step colour ∧ ¬ session.Removes step colour →
      (colour ∈ session.colours ↔ session.Inserts step colour ∨
        colour ∈ session.colours ∧ ¬ session.Removes step colour) := by
    tauto
  cases effect with
  | asked isQuestion => exact unchanged (idle_of_isQuestion isQuestion colour)
  | failed _ idle => exact unchanged (idle colour)
  | stored isTarget => exact unchanged (idle_of_target? isTarget colour)
  | inserted inserts =>
      obtain ⟨source, rfl, held⟩ := inserts
      have keeps : ¬ session.Removes (.insert source) colour := by
        rintro ⟨_, ⟨⟩, _⟩
      refine mem_insertColour.trans ?_
      rw [inserts_insert_iff held, and_iff_left keeps]
  | removed removes =>
      obtain ⟨source, rfl, held⟩ := removes
      have adds : ¬ session.Inserts (.remove source) colour := by
        rintro ⟨_, ⟨⟩, _⟩
      refine increasing.nodup.mem_erase_iff.trans ?_
      rw [removes_remove_iff held, or_iff_right adds, and_comm]
  | encoded isEncoding =>
      subst isEncoding
      refine unchanged ⟨?_, ?_⟩
      · rintro ⟨_, ⟨⟩, _⟩
      · rintro ⟨_, ⟨⟩, _⟩

end

end PointRecords.Session
