import PointRecords.Proofs.Packed.Record
import PointRecords.Proofs.Session.Steps

/-!
# Runs of a session

What a step keeps, a run keeps.  A slot that is no target keeps its record, so a copy may
be changed without what it was copied from; the buffer is unpacked to the records that
were packed last; and the set holds the colours that were inserted and not removed since,
in order.  Steps that fail can be left out.
-/

namespace PointRecords.Session

/-- The session after some steps. -/
def after (session : Session) : List Step → Session
  | [] => session
  | step :: rest => (session.step step).2.after rest

section

variable {session : Session} {steps : List Step}

theorem after_append (session : Session) (front back : List Step) :
    session.after (front ++ back) = (session.after front).after back := by
  induction front generalizing session with
  | nil => rfl
  | cons step rest ih => exact ih _

theorem replies_append (session : Session) (front back : List Step) :
    session.replies (front ++ back) =
      session.replies front ++ (session.after front).replies back := by
  induction front generalizing session with
  | nil => rfl
  | cons step rest ih => exact congrArg (_ :: ·) (ih _)

theorem isOrderly_after (orderly : session.IsOrderly) (steps : List Step) :
    (session.after steps).IsOrderly := by
  induction steps generalizing session with
  | nil => exact orderly
  | cons step rest ih => exact ih ((effect_step session step).isOrderly orderly)

/-- A slot that no step has as its target keeps its record. -/
theorem find?_after {name : String} (apart : ∀ step ∈ steps, step.target? ≠ some name) :
    (session.after steps).find? name = session.find? name := by
  induction steps generalizing session with
  | nil => rfl
  | cons step rest ih =>
      obtain ⟨stepApart, restApart⟩ := List.forall_mem_cons.mp apart
      exact (ih restApart).trans ((effect_step session step).find? stepApart)

theorem buffer_after (noEncoding : ∀ step ∈ steps, ∀ kind names, step ≠ .encode kind names) :
    (session.after steps).buffer = session.buffer := by
  induction steps generalizing session with
  | nil => rfl
  | cons step rest ih =>
      obtain ⟨stepNoEncoding, restNoEncoding⟩ := List.forall_mem_cons.mp noEncoding
      exact (ih restNoEncoding).trans ((effect_step session step).buffer stepNoEncoding)

/-! ## Slots and failures -/

/-- A record that was shown stays in its slot until another step has the slot as its
target. -/
theorem find?_after_shown {step : Step} {target : String} {record : Record}
    (isTarget : step.target? = some target)
    (isShown : (session.step step).1.record? = some record)
    (apart : ∀ later ∈ steps, later.target? ≠ some target) :
    (session.after (step :: steps)).find? target = some record :=
  (find?_after apart).trans ((effect_step session step).find?_target isTarget isShown)

/-- Whatever becomes of a copy and of other slots, the record that was copied stays. -/
theorem find?_after_copy {source target : String} (different : target ≠ source)
    (apart : ∀ step ∈ steps, step.target? ≠ some source) :
    (session.after (.copy source target :: steps)).find? source = session.find? source := by
  have copyApart : (Step.copy source target).target? ≠ some source := by
    rintro ⟨⟩
    exact different rfl
  exact find?_after (List.forall_mem_cons.mpr ⟨copyApart, apart⟩)

/-- Without a step that fails, the session comes out the same, and so do the replies to
the steps behind it. -/
theorem without_failure {front back : List Step} {step : Step}
    (isFailure : ((session.after front).step step).1.IsFailure) :
    session.after (front ++ step :: back) = session.after (front ++ back) ∧
      session.replies (front ++ step :: back) =
        session.replies front ++ ((session.after front).step step).1 ::
          (session.after front).replies back := by
  have same := (effect_step (session.after front) step).eq_of_isFailure isFailure
  constructor
  · rw [after_append, after_append, after, same]
  · rw [replies_append, replies]
    simp only [same]

end

/-! ## The buffer -/

/-- The records of one kind under some names, as a reply. -/
def recorded (session : Session) (names : List String) : Kind → Reply
  | .point => .points (session.pointsNamed names)
  | .colour => .colours (session.coloursNamed names)

theorem decode_of_packed {session packed : Session} {names : List String}
    (notHuge : names.length < Packed.hugeLength) {kind : Kind}
    (buffer : packed.buffer = (session.step (.encode kind names)).2.buffer) :
    packed.decode kind = session.recorded names kind := by
  cases kind with
  | point =>
      have inverse : ∀ point : Point, Point.ofTriple point.toTriple = point := fun _ => rfl
      have few : (session.pointsNamed names).length < Packed.hugeLength :=
        (List.length_filterMap_le _ _).trans_lt notHuge
      obtain ⟨list, decoded, same⟩ := map_eq_ok_iff.mp
        (Packed.decodeList_encodeList_map inverse Packed.Column.isFaithful_coordinates few)
      simp only [decode, buffer, Session.step, encode, decoded, same, recorded]
  | colour =>
      have inverse : ∀ colour : Colour, Colour.ofTriple colour.toTriple = colour := fun _ => rfl
      have few : (session.coloursNamed names).length < Packed.hugeLength :=
        (List.length_filterMap_le _ _).trans_lt notHuge
      obtain ⟨list, decoded, same⟩ := map_eq_ok_iff.mp
        (Packed.decodeList_encodeList_map inverse Packed.Column.isFaithful_channels few)
      simp only [decode, buffer, Session.step, encode, decoded, same, recorded]

/-- What has been packed is unpacked, whatever steps but packings are between. -/
theorem step_decode_after_encode (session : Session) {names : List String}
    (notHuge : names.length < Packed.hugeLength) (kind : Kind) {steps : List Step}
    (noEncoding : ∀ step ∈ steps, ∀ kind names, step ≠ .encode kind names) :
    ((session.after (.encode kind names :: steps)).step (.decode kind)).1 =
      session.recorded names kind :=
  decode_of_packed notHuge (buffer_after noEncoding)

/-! ## The set of colours -/

/-- A run keeps a colour if it is inserted at some step and removed at no later one. -/
def Keeps (session : Session) (steps : List Step) (colour : Colour) : Prop :=
  ∃ front insertion back, steps = front ++ insertion :: back ∧
    (session.after front).Inserts insertion colour ∧
    ∀ middle removal rest, back = middle ++ removal :: rest →
      ¬ (session.after (front ++ insertion :: middle)).Removes removal colour

section

variable {session : Session} {steps : List Step} {colour : Colour}

theorem append_last_eq_iff {front middle rest : List Step} {step last other : Step} :
    front ++ [last] = middle ++ step :: (rest ++ [other]) ↔
      front = middle ++ step :: rest ∧ last = other := by
  rw [← List.cons_append, ← List.append_assoc, List.append_singleton_inj]

theorem keeps_append_singleton_iff {last : Step} :
    session.Keeps (steps ++ [last]) colour ↔
      (session.after steps).Inserts last colour ∨
        session.Keeps steps colour ∧ ¬ (session.after steps).Removes last colour := by
  constructor
  · rintro ⟨front, insertion, back, split, inserts, stays⟩
    rcases List.eq_nil_or_concat' back with rfl | ⟨before, step, rfl⟩
    · obtain ⟨rfl, rfl⟩ := List.append_singleton_inj.mp split
      exact Or.inl inserts
    · obtain ⟨rfl, rfl⟩ := append_last_eq_iff.mp split
      refine Or.inr ⟨⟨front, insertion, before, rfl, inserts, ?_⟩, stays before last [] rfl⟩
      rintro middle removal rest rfl
      exact stays middle removal (rest ++ [last]) (by simp)
  · rintro (inserts | ⟨⟨front, insertion, back, rfl, inserts, stays⟩, notRemoved⟩)
    · refine ⟨steps, last, [], rfl, inserts, fun middle removal rest split => ?_⟩
      simp at split
    · refine ⟨front, insertion, back ++ [last], by simp, inserts, ?_⟩
      intro middle removal rest split
      rcases List.eq_nil_or_concat' rest with rfl | ⟨before, step, rfl⟩
      · obtain ⟨rfl, rfl⟩ := List.append_singleton_inj.mp split
        exact notRemoved
      · exact stays middle removal before (append_last_eq_iff.mp split).1

/-- After any steps the set holds the colours that they keep. -/
theorem mem_colours_after_iff :
    colour ∈ (empty.after steps).colours ↔ empty.Keeps steps colour := by
  induction steps using List.reverseRecOn with
  | nil =>
      constructor
      · intro member
        cases member
      · rintro ⟨front, insertion, back, split, -⟩
        simp at split
  | append_singleton steps last ih =>
      have orderly := isOrderly_after isOrderly_empty steps
      have effect := effect_step (empty.after steps) last
      rw [keeps_append_singleton_iff, ← ih, ← effect.mem_colours_iff orderly.increasing,
        after_append]
      rfl

theorem length_colours_after (steps : List Step) :
    (empty.after steps).colours.length = {colour | empty.Keeps steps colour}.ncard := by
  have nodup := (isOrderly_after isOrderly_empty steps).increasing.nodup
  have same : {colour | empty.Keeps steps colour} = (empty.after steps).colours.toFinset := by
    ext colour
    simp [mem_colours_after_iff]
  rw [same, Set.ncard_coe_finset, List.toFinset_card_of_nodup nodup]

/-- The colours that a run keeps are shown in order, each of them once. -/
theorem step_members_after (steps : List Step) :
    ∃ colours, ((empty.after steps).step .members).1 = .colours colours ∧
      IsIncreasing colours ∧ ∀ colour, colour ∈ colours ↔ empty.Keeps steps colour :=
  ⟨_, rfl, (isOrderly_after isOrderly_empty steps).increasing, fun _ => mem_colours_after_iff⟩

/-- An insertion is told whether the colour is new, and how many there are then. -/
theorem step_insert_after {source : String}
    (held : (empty.after steps).find? source = some (.colour colour)) :
    ∃ isNew, ((empty.after steps).step (.insert source)).1 =
        .inserted isNew {colour | empty.Keeps (steps ++ [.insert source]) colour}.ncard ∧
      (isNew = true ↔ ¬ empty.Keeps steps colour) := by
  rw [← length_colours_after, ← mem_colours_after_iff, after_append]
  refine ⟨!(empty.after steps).colours.contains colour, ?_, by simp⟩
  simp only [after, Session.step, withColour, held, insert]

/-- A removal is told whether the colour was there, and how many are left. -/
theorem step_remove_after {source : String}
    (held : (empty.after steps).find? source = some (.colour colour)) :
    ∃ wasThere, ((empty.after steps).step (.remove source)).1 =
        .removed wasThere {colour | empty.Keeps (steps ++ [.remove source]) colour}.ncard ∧
      (wasThere = true ↔ empty.Keeps steps colour) := by
  rw [← length_colours_after, ← mem_colours_after_iff, after_append]
  refine ⟨(empty.after steps).colours.contains colour, ?_, by simp⟩
  simp only [after, Session.step, withColour, held, remove]

end

end PointRecords.Session
