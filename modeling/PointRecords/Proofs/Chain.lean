/-!
# Chains of steps that can fail

A chain gives a result exactly if each of its steps gives one.
-/

namespace PointRecords

variable {ε β γ : Type}

theorem bind_eq_ok_iff {first : Except ε β} {next : β → Except ε γ} {result : γ} :
    first >>= next = .ok result ↔ ∃ value, first = .ok value ∧ next value = .ok result := by
  cases first with
  | error fault => simp [bind, Except.bind]
  | ok value => simp [bind, Except.bind]

/-- A chain fails where its first step fails, or where it goes on and fails there. -/
theorem bind_eq_error_iff {first : Except ε β} {next : β → Except ε γ} {fault : ε} :
    first >>= next = .error fault ↔
      first = .error fault ∨ ∃ value, first = .ok value ∧ next value = .error fault := by
  cases first with
  | error other => simp [bind, Except.bind]
  | ok value => simp [bind, Except.bind]

theorem mapError_eq_ok_iff {δ : Type} {first : Except ε β} {change : ε → δ} {result : β} :
    first.mapError change = .ok result ↔ first = .ok result := by
  cases first with
  | error fault => exact ⟨fun given => (by cases given), fun given => (by cases given)⟩
  | ok value =>
      constructor
      · intro given
        cases given
        rfl
      · intro given
        cases given
        rfl

theorem map_eq_ok_iff {first : Except ε β} {next : β → γ} {result : γ} :
    first.map next = .ok result ↔ ∃ value, first = .ok value ∧ next value = result := by
  cases first with
  | error fault => simp [Except.map]
  | ok value => simp [Except.map]

/-- A loop that gives a result has taken its first step and gone on from there. -/
theorem exists_foldlM_cons_iff {step : γ → β → Except ε γ} {state : γ} {first : β} {rest : List β}
    (goesOn : γ → Prop) :
    (∃ result, (first :: rest).foldlM step state = .ok result ∧ goesOn result) ↔
      ∃ next, step state first = .ok next ∧
        ∃ result, rest.foldlM step next = .ok result ∧ goesOn result := by
  simp only [List.foldlM_cons, bind_eq_ok_iff]
  constructor
  · rintro ⟨result, ⟨next, taken, others⟩, readOn⟩
    exact ⟨next, taken, result, others, readOn⟩
  · rintro ⟨next, taken, result, others, readOn⟩
    exact ⟨result, ⟨next, taken, others⟩, readOn⟩

theorem mapM_append_eq_ok_iff {step : β → Except ε γ} {first second : List β} {results : List γ} :
    (first ++ second).mapM step = .ok results ↔ ∃ firstResults secondResults,
      first.mapM step = .ok firstResults ∧ second.mapM step = .ok secondResults ∧
        results = firstResults ++ secondResults := by
  simp only [List.mapM_append, bind_eq_ok_iff, pure, Except.pure, Except.ok.injEq]
  constructor
  · rintro ⟨firstResults, firstGiven, secondResults, secondGiven, rfl⟩
    exact ⟨firstResults, secondResults, firstGiven, secondGiven, rfl⟩
  · rintro ⟨firstResults, secondResults, firstGiven, secondGiven, rfl⟩
    exact ⟨firstResults, firstGiven, secondResults, secondGiven, rfl⟩

theorem mapM_append_cons_eq_ok_iff {step : β → Except ε γ} {first last : List β}
    {element : β} {results : List γ} :
    (first ++ element :: last).mapM step = .ok results ↔ ∃ firstResults result lastResults,
      first.mapM step = .ok firstResults ∧ step element = .ok result ∧
        last.mapM step = .ok lastResults ∧ results = firstResults ++ result :: lastResults := by
  simp only [mapM_append_eq_ok_iff, List.mapM_cons, bind_eq_ok_iff, pure, Except.pure,
    Except.ok.injEq]
  constructor
  · rintro ⟨firstResults, _, firstGiven, ⟨result, given, lastResults, lastGiven, rfl⟩, rfl⟩
    exact ⟨firstResults, result, lastResults, firstGiven, given, lastGiven, rfl⟩
  · rintro ⟨firstResults, result, lastResults, firstGiven, given, lastGiven, rfl⟩
    exact ⟨firstResults, _, firstGiven, ⟨result, given, lastResults, lastGiven, rfl⟩, rfl⟩

theorem length_of_mapM {step : β → Except ε γ} {list : List β} {results : List γ}
    (given : list.mapM step = .ok results) : results.length = list.length := by
  induction list generalizing results with
  | nil =>
      cases given
      rfl
  | cons first rest ih =>
      simp only [List.mapM_cons, bind_eq_ok_iff, pure, Except.pure, Except.ok.injEq] at given
      obtain ⟨_, -, restResults, restGiven, rfl⟩ := given
      rw [List.length_cons, List.length_cons, ih restGiven]

theorem exists_of_mem_mapM {step : β → Except ε γ} {list : List β} {results : List γ}
    (given : list.mapM step = .ok results) {element : β} (mem : element ∈ list) :
    ∃ result, step element = .ok result := by
  induction list generalizing results with
  | nil => cases mem
  | cons first rest ih =>
      simp only [List.mapM_cons, bind_eq_ok_iff] at given
      obtain ⟨result, firstGiven, _, restGiven, -⟩ := given
      rcases List.mem_cons.mp mem with rfl | inRest
      · exact ⟨result, firstGiven⟩
      · exact ih restGiven inRest

/-- Every result of a list comes from one of its elements. -/
theorem exists_of_mem_results {step : β → Except ε γ} {list : List β} {results : List γ}
    (given : list.mapM step = .ok results) {result : γ} (mem : result ∈ results) :
    ∃ element ∈ list, step element = .ok result := by
  induction list generalizing results with
  | nil =>
      cases given
      cases mem
  | cons first rest ih =>
      simp only [List.mapM_cons, bind_eq_ok_iff, pure, Except.pure, Except.ok.injEq] at given
      obtain ⟨firstResult, firstGiven, restResults, restGiven, rfl⟩ := given
      rcases List.mem_cons.mp mem with rfl | inRest
      · exact ⟨first, List.mem_cons_self, firstGiven⟩
      · obtain ⟨element, isElement, elementGiven⟩ := ih restGiven inRest
        exact ⟨element, List.mem_cons_of_mem _ isElement, elementGiven⟩

end PointRecords
