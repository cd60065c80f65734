import PointRecords.Proofs.Json.Numerals
import PointRecords.Proofs.Json.Strings

/-!
# Skipping follows the grammar

The skipper keeps the open containers on a stack and never looks back.  What the
stack still asks of the text is a relation, `Closes`: the rest of the innermost
container, its closing bracket, and the same for the containers around it.  With
it the loop and the recursive grammar are shown to agree, for values of every
depth.
-/

namespace PointRecords.Json

open Decimal

/-- If the value is a numeral, then one that the rest does not continue. -/
def IsGreedy (text rest : List Char) : Prop :=
  ∀ numeral : Numeral, numeral.SpelledAt text rest →
    ∃ whole : Numeral, whole.SpelledAt text rest ∧ whole.Stops rest

/-- What follows a value inside open containers, up to the end of the outermost. -/
inductive Closes : List Container → List Char → List Char → Prop
  | done {rest : List Char} : Closes [] rest rest
  | close {container : Container} {outer : List Container} {text afterBracket rest : List Char}
      (bracket : Blanks text (container.closer :: afterBracket))
      (more : Closes outer afterBracket rest) : Closes (container :: outer) text rest
  | comma {container : Container} {outer : List Container}
      {text afterComma afterItems rest : List Char}
      (comma : Blanks text (',' :: afterComma))
      (items : Derives (.items container) afterComma afterItems)
      (more : Closes outer afterItems rest) : Closes (container :: outer) text rest

/-- A value inside open containers, and what closes these. -/
def Completes (stack : List Container) (text rest : List Char) : Prop :=
  ∃ valueText afterValue, Blanks text valueText ∧ Derives .value valueText afterValue ∧
    IsGreedy valueText afterValue ∧ Closes stack afterValue rest

/-! ## Scalars and keys -/

theorem skipWord_eq_ok_iff {word text rest : List Char} :
    skipWord word text = .ok rest ↔ text = word ++ rest := by
  induction word generalizing text with
  | nil => simp [skipWord]
  | cons expected word ih =>
      cases text with
      | nil => simp [skipWord]
      | cons character text =>
          simp only [skipWord, List.cons_append, List.cons.injEq]
          split
          · rename_i same
            simp [same, ih]
          · rename_i different
            simp [different]

theorem skipKey_eq_ok {text rest : List Char} :
    skipKey text = .ok rest ↔
      ∃ inKey key afterKey, Blanks text ('"' :: inKey) ∧
        StringAt LooseEscape inKey key afterKey ∧ Blanks afterKey (':' :: rest) := by
  constructor
  · intro accepted
    unfold skipKey at accepted
    split at accepted
    · cases accepted
    · rename_i inKey blank
      split at accepted
      · cases accepted
      · rename_i key afterKey read
        split at accepted
        · cases accepted
        · rename_i afterColon colon
          cases accepted
          exact ⟨inKey, key, afterKey, (skipBlank_eq_iff rfl).mp blank,
            (readString_eq_ok_iff reads_unpaired).mp read, (skipBlank_eq_iff rfl).mp colon⟩
        · cases accepted
    · cases accepted
  · rintro ⟨inKey, key, afterKey, quote, isString, colon⟩
    simp [skipKey, (skipBlank_eq_iff rfl).mpr quote,
      (readString_eq_ok_iff reads_unpaired).mpr isString, (skipBlank_eq_iff rfl).mpr colon]

/-- The value behind a key or at once: what `enter` leaves begins with the blanks
before a value. -/
theorem lead_of_enter {container : Container} {text rest valueText : List Char}
    (entered : enter container text = .ok rest) (blanks : Blanks rest valueText) :
    Lead container text valueText := by
  cases container with
  | list =>
      cases entered
      exact blanks
  | object =>
      obtain ⟨inKey, key, afterKey, quote, isString, colon⟩ := skipKey_eq_ok.mp entered
      exact ⟨inKey, key, afterKey, rest, quote, isString, colon, blanks⟩

theorem isGreedy_of_blanks {text afterValue rest : List Char} {character : Char}
    (blanks : Blanks afterValue (character :: rest))
    (isDelimiter : character = ',' ∨ ∃ container : Container, character = container.closer) :
    IsGreedy text afterValue :=
  fun numeral spelled => ⟨numeral, spelled, Numeral.stops_of_blanks blanks isDelimiter⟩

theorem isGreedy_of_not_isStart {first : Char} {more rest : List Char}
    (notStart : Numeral.isStart first = false) : IsGreedy (first :: more) rest := by
  intro numeral spelled
  obtain ⟨character, others, equal, isStart⟩ := spelled.isStart
  cases equal
  rw [notStart] at isStart
  cases isStart

theorem derives_of_skipScalar {text rest : List Char} (accepted : skipScalar text = .ok rest) :
    Derives .value text rest ∧ IsGreedy text rest := by
  unfold skipScalar at accepted
  split at accepted
  · rw [skipWord_eq_ok_iff] at accepted
    subst accepted
    exact ⟨.null, isGreedy_of_not_isStart rfl⟩
  · rw [skipWord_eq_ok_iff] at accepted
    subst accepted
    exact ⟨.yes, isGreedy_of_not_isStart rfl⟩
  · rw [skipWord_eq_ok_iff] at accepted
    subst accepted
    exact ⟨.no, isGreedy_of_not_isStart rfl⟩
  · split at accepted
    · cases accepted
    · rename_i read
      cases accepted
      exact ⟨.string ((readString_eq_ok_iff reads_unpaired).mp read), isGreedy_of_not_isStart rfl⟩
  · split at accepted
    · split at accepted
      · cases accepted
      · rename_i numeral after scanned
        cases accepted
        obtain ⟨spelled, stops⟩ := Numeral.scan_eq_ok_iff.mp scanned
        exact ⟨.numeral spelled, fun _ _ => ⟨numeral, spelled, stops⟩⟩
    · cases accepted

/-! ## The loop reads what the grammar derives -/

/-- After an opening bracket: the container is empty, or it has items. -/
def Opened (container : Container) (outer : List Container) (text rest : List Char) : Prop :=
  ∃ afterBracket, (Blanks text (container.closer :: afterBracket) ∨
    Derives (.items container) text afterBracket) ∧ Closes outer afterBracket rest

/-- The items of a container from a lead on. -/
theorem exists_items {container : Container} {outer : List Container}
    {text afterLead rest : List Char} (entered : enter container text = .ok afterLead)
    (completes : Completes (container :: outer) afterLead rest) :
    ∃ afterItems, Derives (.items container) text afterItems ∧ Closes outer afterItems rest := by
  obtain ⟨valueText, afterValue, blanks, value, -, closes⟩ := completes
  have lead := lead_of_enter entered blanks
  cases closes with
  | close bracket more => exact ⟨_, .last lead value bracket, more⟩
  | comma comma items more => exact ⟨_, .more lead value comma items, more⟩

/-- What `settle` passes over after a value closes containers and opens none. -/
theorem closes_of_settle {stack remaining : List Container} {text after rest : List Char}
    (settled : settle true stack text = .ok (remaining, after))
    (completes : if remaining = [] then after = rest else Completes remaining after rest) :
    Closes stack text rest := by
  induction stack generalizing text with
  | nil =>
      cases settled
      rw [if_pos rfl] at completes
      subst completes
      exact .done
  | cons container outer ih =>
      unfold settle at settled
      split at settled
      · cases settled
      · rename_i character more blank
        have blanks := (skipBlank_eq_iff (not_isBlank_of_skipBlank blank)).mp blank
        split at settled
        · rename_i isComma
          rw [isComma.1] at blanks
          split at settled
          · cases settled
          · rename_i entered
            cases settled
            rw [if_neg (by simp)] at completes
            obtain ⟨afterItems, items, closes⟩ := exists_items entered completes
            exact .comma blanks items closes
        · split at settled
          · rename_i isCloser
            rw [isCloser] at blanks
            exact .close blanks (ih settled)
          · cases settled

theorem lead_of_blanks {container : Container} {text middle rest : List Char}
    (blanks : Blanks text middle) (lead : Lead container middle rest) :
    Lead container text rest := by
  cases container with
  | list => exact blanks.trans lead
  | object =>
      obtain ⟨inKey, key, afterKey, afterColon, quote, more⟩ := lead
      exact ⟨inKey, key, afterKey, afterColon, blanks.trans quote, more⟩

theorem derives_items_of_blanks {container : Container} {text middle rest : List Char}
    (blanks : Blanks text middle) (items : Derives (.items container) middle rest) :
    Derives (.items container) text rest := by
  cases items with
  | last lead value closed => exact .last (lead_of_blanks blanks lead) value closed
  | more lead value comma items => exact .more (lead_of_blanks blanks lead) value comma items

theorem opened_of_settle {container : Container} {outer remaining : List Container}
    {text after rest : List Char}
    (settled : settle false (container :: outer) text = .ok (remaining, after))
    (completes : if remaining = [] then after = rest else Completes remaining after rest) :
    Opened container outer text rest := by
  unfold settle at settled
  split at settled
  · cases settled
  · rename_i character more blank
    have blanks := (skipBlank_eq_iff (not_isBlank_of_skipBlank blank)).mp blank
    split at settled
    · simp_all
    · split at settled
      · rename_i isCloser
        rw [isCloser] at blanks
        exact ⟨more, Or.inl blanks, closes_of_settle settled completes⟩
      · split at settled
        · cases settled
        · split at settled
          · cases settled
          · rename_i entered
            cases settled
            rw [if_neg (by simp)] at completes
            obtain ⟨afterItems, items, closes⟩ := exists_items entered completes
            exact ⟨afterItems, Or.inr (derives_items_of_blanks blanks items), closes⟩

theorem completes_of_skipStep {stack remaining : List Container} {text after rest : List Char}
    (stepped : skipStep stack text = .ok (remaining, after))
    (completes : if remaining = [] then after = rest else Completes remaining after rest) :
    Completes stack text rest := by
  have bracket : ∀ (container : Container) {inside : List Char},
      Numeral.isStart container.opener = false →
      Blanks text (container.opener :: inside) → Opened container stack inside rest →
      Completes stack text rest := by
    rintro container inside notStart blanks ⟨afterBracket, isEmpty | items, closes⟩
    · exact ⟨_, afterBracket, blanks, .empty isEmpty, isGreedy_of_not_isStart notStart, closes⟩
    · exact ⟨_, afterBracket, blanks, .full items, isGreedy_of_not_isStart notStart, closes⟩
  unfold skipStep at stepped
  split at stepped
  · cases stepped
  · rename_i inside blank
    exact bracket .list rfl ((skipBlank_eq_iff rfl).mp blank) (opened_of_settle stepped completes)
  · rename_i inside blank
    exact bracket .object rfl ((skipBlank_eq_iff rfl).mp blank)
      (opened_of_settle stepped completes)
  · split at stepped
    · cases stepped
    · rename_i after skipped
      obtain ⟨value, isGreedy⟩ := derives_of_skipScalar skipped
      exact ⟨skipBlank text, after, blanks_skipBlank text, value, isGreedy,
        closes_of_settle stepped completes⟩

theorem completes_of_skipWithin {stack : List Container} {text rest : List Char}
    (accepted : skipWithin stack text = .ok rest) : Completes stack text rest := by
  induction stack, text using skipWithin.induct with
  | case1 stack text fault step =>
      rw [skipWithin] at accepted
      split at accepted <;> simp_all
  | case2 stack text after step =>
      rw [skipWithin] at accepted
      split at accepted
      · cases accepted
      · rename_i found
        rw [step] at found
        cases found
        cases accepted
        exact completes_of_skipStep step (if_pos rfl ▸ rfl)
      · simp_all
  | case3 stack text container outer after step ih =>
      rw [skipWithin] at accepted
      split at accepted
      · cases accepted
      · simp_all
      · rename_i found
        rw [step] at found
        cases found
        exact completes_of_skipStep step (by rw [if_neg (by simp)]; exact ih accepted)

/-! ## The loop reads all that the grammar derives -/

/-- Go on where a step has come to. -/
def resume : Except Fault (List Container × List Char) → Except Fault (List Char)
  | .error fault => .error fault
  | .ok ([], rest) => .ok rest
  | .ok (container :: outer, rest) => skipWithin (container :: outer) rest

theorem skipWithin_eq (stack : List Container) (text : List Char) :
    skipWithin stack text = resume (skipStep stack text) := by
  rw [skipWithin]
  split
  · rename_i step
    rw [step]
    rfl
  · rename_i step
    rw [step]
    rfl
  · rename_i step
    rw [step]
    rfl

/-- What skipping a phrase comes to: the place behind it, where the stack is
settled. -/
def Skips : Phrase → List Char → List Char → Prop
  | .value, text, rest =>
      ∀ stack front, skipBlank front = skipBlank text → IsGreedy text rest →
        skipWithin stack front = resume (settle true stack rest)
  | .items container, text, rest =>
      ∀ outer front, skipBlank front = skipBlank text →
        ∃ after, enter container front = .ok after ∧
          skipWithin (container :: outer) after = resume (settle true outer rest)

theorem derives_head {text rest : List Char} (value : Derives .value text rest) :
    ∃ first more, text = first :: more ∧ isBlank first = false ∧
      ∀ container : Container, first ≠ container.closer := by
  have notCloser : ∀ first, (∀ container : Container, first ≠ container.closer) ↔
      first ≠ ']' ∧ first ≠ '\x7d' := by
    intro first
    exact ⟨fun differs => ⟨differs .list, differs .object⟩, fun differs container => by
      cases container
      · exact differs.1
      · exact differs.2⟩
  simp only [notCloser]
  cases value with
  | null => exact ⟨_, _, rfl, rfl, by decide⟩
  | yes => exact ⟨_, _, rfl, rfl, by decide⟩
  | no => exact ⟨_, _, rfl, rfl, by decide⟩
  | string isString => exact ⟨_, _, rfl, rfl, by decide⟩
  | @empty container _ _ _ => cases container <;> exact ⟨_, _, rfl, rfl, by decide⟩
  | @full container _ _ _ => cases container <;> exact ⟨_, _, rfl, rfl, by decide⟩
  | numeral spelled =>
      obtain ⟨first, more, rfl, isStart⟩ := spelled.isStart
      refine ⟨first, more, rfl, ?_, ?_, ?_⟩
      · by_contra blank
        rw [Bool.not_eq_false] at blank
        rcases isBlank_iff.mp blank with rfl | rfl | rfl | rfl <;> cases isStart
      · rintro rfl
        cases isStart
      · rintro rfl
        cases isStart

theorem skipBlank_of_derives {text rest : List Char} (value : Derives .value text rest) :
    skipBlank text = text := by
  obtain ⟨first, more, rfl, notBlank, -⟩ := derives_head value
  exact skipBlank_cons notBlank

/-- A lead is passed over up to blanks. -/
theorem enter_of_lead {container : Container} {text valueText front : List Char}
    (lead : Lead container text valueText) (same : skipBlank front = skipBlank text) :
    ∃ after, enter container front = .ok after ∧ skipBlank after = skipBlank valueText := by
  cases container with
  | list => exact ⟨front, rfl, same.trans (skipBlank_eq_of_blanks lead)⟩
  | object =>
      obtain ⟨inKey, key, afterKey, afterColon, quote, isString, colon, blanks⟩ := lead
      have quoted := same.trans ((skipBlank_eq_iff rfl).mpr quote)
      exact ⟨afterColon, skipKey_eq_ok.mpr ⟨inKey, key, afterKey, (skipBlank_eq_iff rfl).mp quoted,
        isString, colon⟩, skipBlank_eq_of_blanks blanks⟩

/-- The first item of a container is told from its closing bracket. -/
theorem lead_head {container : Container} {text valueText rest : List Char}
    (lead : Lead container text valueText) (value : Derives .value valueText rest) :
    ∃ first more, skipBlank text = first :: more ∧ first ≠ container.closer := by
  cases container with
  | list =>
      obtain ⟨first, more, rfl, notBlank, notCloser⟩ := derives_head value
      exact ⟨first, more, (skipBlank_eq_iff notBlank).mpr lead, notCloser .list⟩
  | object =>
      obtain ⟨inKey, key, afterKey, afterColon, quote, -⟩ := lead
      exact ⟨'"', inKey, (skipBlank_eq_iff rfl).mpr quote, by decide⟩

theorem items_head {container : Container} {text rest : List Char}
    (items : Derives (.items container) text rest) :
    ∃ first more, skipBlank text = first :: more ∧ first ≠ container.closer := by
  cases items with
  | last lead value closed => exact lead_head lead value
  | more lead value comma items => exact lead_head lead value

/-! ### What `settle` does -/

theorem not_isBlank_closer (container : Container) : isBlank container.closer = false := by
  cases container <;> rfl

theorem settle_closer {container : Container} {outer : List Container} {text rest : List Char}
    (afterValue : Bool) (closed : Blanks text (container.closer :: rest)) :
    settle afterValue (container :: outer) text = settle true outer rest := by
  have notComma : container.closer ≠ ',' := by cases container <;> decide
  rw [settle, (skipBlank_eq_iff (not_isBlank_closer container)).mpr closed]
  simp [notComma]

theorem settle_comma {container : Container} {outer : List Container}
    {text afterComma after : List Char} (comma : Blanks text (',' :: afterComma))
    (entered : enter container afterComma = .ok after) :
    settle true (container :: outer) text = .ok (container :: outer, after) := by
  rw [settle, (skipBlank_eq_iff rfl).mpr comma]
  simp [entered]

theorem settle_items {container : Container} {outer : List Container} {text after : List Char}
    {first : Char} {more : List Char} (split : skipBlank text = first :: more)
    (notCloser : first ≠ container.closer)
    (entered : enter container (skipBlank text) = .ok after) :
    settle false (container :: outer) text = .ok (container :: outer, after) := by
  rw [split] at entered
  rw [settle, split]
  simp [notCloser, entered]

theorem skipWithin_of_opener {container : Container} {stack : List Container}
    {front inside : List Char} (opened : skipBlank front = container.opener :: inside) :
    skipWithin stack front = resume (settle false (container :: stack) inside) := by
  rw [skipWithin_eq, skipStep, opened]
  cases container <;> rfl

theorem skipWithin_of_skipScalar {stack : List Container} {front text rest : List Char}
    (same : skipBlank front = text) (skipped : skipScalar text = .ok rest)
    (notOpener : ∀ container : Container, text.head? ≠ some container.opener) :
    skipWithin stack front = resume (settle true stack rest) := by
  rw [skipWithin_eq, skipStep, same]
  split
  · cases skipped
  · exact absurd rfl (notOpener .list)
  · exact absurd rfl (notOpener .object)
  · rw [skipped]

theorem skipScalar_of_scan {text rest : List Char} {numeral : Numeral}
    (scanned : Numeral.scan text = .ok (numeral, rest)) : skipScalar text = .ok rest := by
  obtain ⟨spelled, -⟩ := Numeral.scan_eq_ok_iff.mp scanned
  obtain ⟨first, more, rfl, isStart⟩ := spelled.isStart
  unfold skipScalar
  split
  · rename_i equal
    cases equal
    cases isStart
  · rename_i equal
    cases equal
    cases isStart
  · rename_i equal
    cases equal
    cases isStart
  · rename_i equal
    cases equal
    cases isStart
  · simp [isStart, scanned]

theorem skips_of_derives {phrase : Phrase} {text rest : List Char}
    (derives : Derives phrase text rest) : Skips phrase text rest := by
  induction derives with
  | null =>
      rintro stack front same -
      refine skipWithin_of_skipScalar (same.trans (skipBlank_cons rfl)) rfl fun container => ?_
      cases container <;> simp [Container.opener]
  | yes =>
      rintro stack front same -
      refine skipWithin_of_skipScalar (same.trans (skipBlank_cons rfl)) rfl fun container => ?_
      cases container <;> simp [Container.opener]
  | no =>
      rintro stack front same -
      refine skipWithin_of_skipScalar (same.trans (skipBlank_cons rfl)) rfl fun container => ?_
      cases container <;> simp [Container.opener]
  | string isString =>
      rintro stack front same -
      refine skipWithin_of_skipScalar (same.trans (skipBlank_cons rfl)) ?_ fun container => ?_
      · simp [skipScalar, (readString_eq_ok_iff reads_unpaired).mpr isString]
      · cases container <;> simp [Container.opener]
  | numeral spelled =>
      intro stack front same isGreedy
      obtain ⟨whole, wholeSpelled, stops⟩ := isGreedy _ spelled
      have scanned := Numeral.scan_eq_ok_iff.mpr ⟨wholeSpelled, stops⟩
      refine skipWithin_of_skipScalar (same.trans (skipBlank_of_derives (.numeral spelled)))
        (skipScalar_of_scan scanned) fun container => ?_
      obtain ⟨first, more, rfl, isStart⟩ := spelled.isStart
      rintro isOpener
      cases isOpener
      cases container <;> cases isStart
  | @empty container text rest blanks =>
      rintro stack front same -
      have notBlank : isBlank container.opener = false := by cases container <;> rfl
      rw [skipWithin_of_opener (same.trans (skipBlank_cons notBlank)), settle_closer false blanks]
  | @full container text rest items ih =>
      rintro stack front same -
      have notBlank : isBlank container.opener = false := by cases container <;> rfl
      obtain ⟨first, more, split, notCloser⟩ := items_head items
      obtain ⟨after, entered, skipped⟩ := ih stack (skipBlank text) (by
        rw [split]
        exact skipBlank_cons (not_isBlank_of_skipBlank split))
      rw [skipWithin_of_opener (same.trans (skipBlank_cons notBlank)),
        settle_items split notCloser entered, ← skipped]
      rfl
  | @last container text valueText afterValue rest lead value closed ih =>
      intro outer front same
      obtain ⟨after, entered, sameValue⟩ := enter_of_lead lead same
      refine ⟨after, entered, ?_⟩
      rw [ih _ after sameValue (isGreedy_of_blanks closed (Or.inr ⟨container, rfl⟩)),
        settle_closer true closed]
  | @more container text valueText afterValue afterComma rest lead value comma items valueSkips
      itemsSkip =>
      intro outer front same
      obtain ⟨after, entered, sameValue⟩ := enter_of_lead lead same
      refine ⟨after, entered, ?_⟩
      obtain ⟨afterNext, nextEntered, skipped⟩ := itemsSkip outer afterComma rfl
      rw [valueSkips _ after sameValue (isGreedy_of_blanks comma (Or.inl rfl)),
        settle_comma comma nextEntered, ← skipped]
      rfl

/-- A value is skipped exactly if the grammar derives it and what follows does not
continue it. -/
theorem skipValue_eq_ok_iff {text rest : List Char} :
    skipValue text = .ok rest ↔
      ∃ valueText, Blanks text valueText ∧ Derives .value valueText rest ∧
        IsGreedy valueText rest := by
  constructor
  · intro accepted
    obtain ⟨valueText, afterValue, blanks, value, isGreedy, closes⟩ :=
      completes_of_skipWithin accepted
    cases closes
    exact ⟨valueText, blanks, value, isGreedy⟩
  · rintro ⟨valueText, blanks, value, isGreedy⟩
    exact skips_of_derives value [] text (skipBlank_eq_of_blanks blanks) isGreedy

end PointRecords.Json
