import PointRecords.Json.Numeral
import PointRecords.Json.Text

/-!
# Skipping a value

The value of an unknown member is skipped, whatever it is and however deeply it
nests.  The skipper keeps the containers that are open on a stack and reads one
scalar or one opening bracket at a time; `settle` then deals with what stands
between two values: closing brackets, commas, keys and colons.
-/

namespace PointRecords.Json

def skipWord : List Char → List Char → Except Fault (List Char)
  | [], text => .ok text
  | _ :: _, [] => .error .endInValue
  | expected :: word, character :: rest =>
      if character = expected then skipWord word rest else .error .expectedWord

theorem skipWord_length_le {word text rest : List Char}
    (accepted : skipWord word text = .ok rest) :
    rest.length ≤ text.length := by
  induction word generalizing text with
  | nil =>
      cases accepted
      exact Nat.le_refl _
  | cons expected word ih =>
      cases text with
      | nil => cases accepted
      | cons character more =>
          simp only [skipWord] at accepted
          split at accepted
          · have bound := ih accepted
            simp only [List.length_cons]
            omega
          · cases accepted

/-- What remains of a text after a value that is no container. -/
def skipScalar : List Char → Except Fault (List Char)
  | 'n' :: rest => skipWord ['u', 'l', 'l'] rest
  | 't' :: rest => skipWord ['r', 'u', 'e'] rest
  | 'f' :: rest => skipWord ['a', 'l', 's', 'e'] rest
  | '"' :: rest =>
      match readString .unpaired rest with
      | .error fault => .error fault
      | .ok (_, after) => .ok after
  | text =>
      if text.head?.any Numeral.isStart then
        match Numeral.scan text with
        | .error _ => .error .invalidNumber
        | .ok (_, after) => .ok after
      else .error .expectedValue

theorem skipScalar_shorter {text rest : List Char}
    (accepted : skipScalar text = .ok rest) :
    rest.length < text.length := by
  unfold skipScalar at accepted
  split at accepted
  · exact Nat.lt_succ_of_le (skipWord_length_le accepted)
  · exact Nat.lt_succ_of_le (skipWord_length_le accepted)
  · exact Nat.lt_succ_of_le (skipWord_length_le accepted)
  · split at accepted
    · cases accepted
    · rename_i read
      cases accepted
      exact Nat.lt_succ_of_lt (readString_shorter read)
  · split at accepted
    · split at accepted
      · cases accepted
      · rename_i scanned
        cases accepted
        exact Numeral.scan_shorter scanned
    · cases accepted

def skipKey (text : List Char) : Except Fault (List Char) :=
  match skipBlank text with
  | [] => .error (.endIn .object)
  | '"' :: rest =>
      match readString .unpaired rest with
      | .error fault => .error fault
      | .ok (_, afterKey) =>
          match skipBlank afterKey with
          | [] => .error (.endIn .object)
          | ':' :: after => .ok after
          | _ => .error .expectedColon
  | _ => .error .keyNotString

theorem skipKey_length_le {text rest : List Char}
    (accepted : skipKey text = .ok rest) :
    rest.length ≤ text.length := by
  unfold skipKey at accepted
  split at accepted
  · cases accepted
  · rename_i keyText blank
    split at accepted
    · cases accepted
    · rename_i read
      split at accepted
      · cases accepted
      · rename_i colonBlank
        cases accepted
        have first := length_lt_of_skipBlank blank
        have second := readString_shorter read
        have third := length_lt_of_skipBlank colonBlank
        omega
      · cases accepted
  · cases accepted

/-- Come to the place where the next value of a container begins: at once in a
list, after a key in an object. -/
def enter : Container → List Char → Except Fault (List Char)
  | .list, text => .ok text
  | .object, text => skipKey text

theorem enter_length_le {container : Container} {text rest : List Char}
    (accepted : enter container text = .ok rest) :
    rest.length ≤ text.length := by
  cases container with
  | list =>
      cases accepted
      exact Nat.le_refl _
  | object => exact skipKey_length_le accepted

/-- Go on after a value, or after an opening bracket if `afterValue` is false:
close what is closed, and come to the next value.  The result is the containers
still open, none if the outermost value is complete, and the rest of the
text. -/
def settle (afterValue : Bool) :
    List Container → List Char → Except Fault (List Container × List Char)
  | [], text => .ok ([], text)
  | container :: outer, text =>
      match skipBlank text with
      | [] => .error (.endIn container)
      | character :: rest =>
          if character = ',' ∧ afterValue then
            match enter container rest with
            | .error fault => .error fault
            | .ok after => .ok (container :: outer, after)
          else if character = container.closer then settle true outer rest
          else if afterValue then .error (.expectedComma container)
          else
            match enter container (character :: rest) with
            | .error fault => .error fault
            | .ok after => .ok (container :: outer, after)

theorem settle_length_le {afterValue : Bool} {stack remaining : List Container}
    {text rest : List Char}
    (accepted : settle afterValue stack text = .ok (remaining, rest)) :
    rest.length ≤ text.length := by
  induction stack generalizing afterValue text with
  | nil =>
      cases accepted
      exact Nat.le_refl _
  | cons container outer ih =>
      unfold settle at accepted
      split at accepted
      · cases accepted
      · rename_i character more blank
        have shorter := length_lt_of_skipBlank blank
        split at accepted
        · split at accepted
          · cases accepted
          · rename_i entered
            cases accepted
            have bound := enter_length_le entered
            omega
        · split at accepted
          · have bound := ih accepted
            omega
          · split at accepted
            · cases accepted
            · split at accepted
              · cases accepted
              · rename_i entered
                cases accepted
                have bound := enter_length_le entered
                simp only [List.length_cons] at bound
                omega

/-- One step of skipping, at the beginning of a value: a scalar or an opening
bracket, and what follows up to the next value. -/
def skipStep (stack : List Container) (text : List Char) :
    Except Fault (List Container × List Char) :=
  match skipBlank text with
  | [] => .error .endInValue
  | '[' :: rest => settle false (.list :: stack) rest
  | '\x7b' :: rest => settle false (.object :: stack) rest
  | scalar =>
      match skipScalar scalar with
      | .error fault => .error fault
      | .ok after => settle true stack after

theorem skipStep_shorter {stack remaining : List Container} {text rest : List Char}
    (accepted : skipStep stack text = .ok (remaining, rest)) :
    rest.length < text.length := by
  unfold skipStep at accepted
  have blankBound := skipBlank_length_le text
  split at accepted
  · cases accepted
  · rename_i blank
    have bound := settle_length_le accepted
    have shorter := length_lt_of_skipBlank blank
    omega
  · rename_i blank
    have bound := settle_length_le accepted
    have shorter := length_lt_of_skipBlank blank
    omega
  · split at accepted
    · cases accepted
    · rename_i skipped
      have bound := settle_length_le accepted
      have shorter := skipScalar_shorter skipped
      omega

/-- Skip a value inside open containers, and what closes them. -/
def skipWithin (stack : List Container) (text : List Char) :
    Except Fault (List Char) :=
  match _ : skipStep stack text with
  | .error fault => .error fault
  | .ok ([], rest) => .ok rest
  | .ok (container :: outer, rest) => skipWithin (container :: outer) rest
termination_by text.length
decreasing_by exact skipStep_shorter (by assumption)

def skipValue (text : List Char) : Except Fault (List Char) :=
  skipWithin [] text

theorem skipWithin_shorter {stack : List Container} {text rest : List Char}
    (accepted : skipWithin stack text = .ok rest) :
    rest.length < text.length := by
  induction stack, text using skipWithin.induct with
  | case1 stack text fault step =>
      rw [skipWithin] at accepted
      split at accepted <;> simp_all
  | case2 stack text after step =>
      rw [skipWithin] at accepted
      split at accepted
      · cases accepted
      · rename_i found
        cases accepted
        exact skipStep_shorter found
      · simp_all
  | case3 stack text container outer after step ih =>
      rw [skipWithin] at accepted
      split at accepted
      · cases accepted
      · simp_all
      · rename_i found
        rw [step] at found
        cases found
        have first := skipStep_shorter step
        have second := ih accepted
        omega

end PointRecords.Json
