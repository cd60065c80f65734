import PointRecords.Json.Record
import PointRecords.Proofs.Json.Skipping

/-!
# Records follow their grammar

A record is a list of its three fields in order, or an object in which each of the
three names occurs once among members of any other kind.  The reader goes through
the members one by one and remembers what it has found; together with what is still
to come, that has to make each field exactly once.
-/

namespace PointRecords.Json

open Decimal

variable {α : Type}

/-! ## The grammar -/

/-- A key, its colon, and the blanks before the value. -/
def KeyAt (text key valueText : List Char) : Prop :=
  ∃ inKey afterKey afterColon, Blanks text ('"' :: inKey) ∧
    StringAt PairedEscape inKey key afterKey ∧ Blanks afterKey (':' :: afterColon) ∧
    Blanks afterColon valueText

/-- A member of a record: a field that is given a value, or anything else. -/
inductive MemberAt (names : Triple String) (field : List Char → α → List Char → Prop) :
    List Char → List (Place × α) → List Char → Prop
  | own {text valueText rest : List Char} {value : α} (place : Place)
      (key : KeyAt text (names.get place).toList valueText) (isField : field valueText value rest) :
      MemberAt names field text [(place, value)] rest
  | other {text key valueText rest : List Char} (isKey : KeyAt text key valueText)
      (unknown : ∀ place, key ≠ (names.get place).toList)
      (value : Derives .value valueText rest) : MemberAt names field text [] rest

/-- Members up to the closing bracket, with the fields they give. -/
inductive MembersAt (names : Triple String) (field : List Char → α → List Char → Prop) :
    List Char → List (Place × α) → List Char → Prop
  | last {text afterMember rest : List Char} {given : List (Place × α)}
      (member : MemberAt names field text given afterMember)
      (closed : Blanks afterMember ('\x7d' :: rest)) : MembersAt names field text given rest
  | more {text afterMember afterComma rest : List Char} {given others : List (Place × α)}
      (member : MemberAt names field text given afterMember)
      (comma : Blanks afterMember (',' :: afterComma))
      (members : MembersAt names field afterComma others rest) :
      MembersAt names field text (given ++ others) rest

/-- The values that are given to a field. -/
def valuesAt (given : List (Place × α)) (place : Place) : List α :=
  (given.filter (·.1 = place)).map (·.2)

/-- A record in one of its two forms. -/
inductive RecordAt (names : Triple String) (field : List Char → α → List Char → Prop) :
    List Char → Triple α → List Char → Prop
  | list {text firstText afterFirst beforeSecond secondText afterSecond beforeThird thirdText
      afterThird rest : List Char} {fields : Triple α}
      (opened : Blanks text firstText) (first : field firstText fields.first afterFirst)
      (firstComma : Blanks afterFirst (',' :: beforeSecond))
      (secondBlanks : Blanks beforeSecond secondText)
      (second : field secondText fields.second afterSecond)
      (secondComma : Blanks afterSecond (',' :: beforeThird))
      (thirdBlanks : Blanks beforeThird thirdText)
      (third : field thirdText fields.third afterThird)
      (closed : Blanks afterThird (']' :: rest)) :
      RecordAt names field ('[' :: text) fields rest
  | object {text rest : List Char} {given : List (Place × α)} {fields : Triple α}
      (members : MembersAt names field text given rest)
      (once : ∀ place, valuesAt given place = [fields.get place]) :
      RecordAt names field ('\x7b' :: text) fields rest

/-- A text that holds one record and nothing else but blanks. -/
def RecordText (names : Triple String) (field : List Char → α → List Char → Prop)
    (text : List Char) (fields : Triple α) : Prop :=
  ∃ recordText rest, Blanks text recordText ∧ RecordAt names field recordText fields rest ∧
    Blanks rest []

theorem valuesAt_map {β : Type} (change : α → β) (given : List (Place × α)) (place : Place) :
    valuesAt (given.map fun field => (field.1, change field.2)) place =
      (valuesAt given place).map change := by
  simp [valuesAt, List.filter_map, Function.comp_def]

section Map

variable {β : Type} {names : Triple String} {field : List Char → α → List Char → Prop}
  {target : List Char → β → List Char → Prop} {change : α → β} {text rest : List Char}
  {given : List (Place × α)}

theorem MemberAt.map (imp : ∀ text value rest, field text value rest → target text (change value) rest)
    (isMember : MemberAt names field text given rest) :
    MemberAt names target text (given.map fun field => (field.1, change field.2)) rest := by
  cases isMember with
  | own place key isField => exact .own place key (imp _ _ _ isField)
  | other isKey unknown value => exact .other isKey unknown value

theorem MembersAt.map
    (imp : ∀ text value rest, field text value rest → target text (change value) rest)
    (areMembers : MembersAt names field text given rest) :
    MembersAt names target text (given.map fun field => (field.1, change field.2)) rest := by
  induction areMembers with
  | last isMember closed => exact .last (isMember.map imp) closed
  | more isMember comma _ ih =>
      rw [List.map_append]
      exact .more (isMember.map imp) comma ih

/-- What holds of every field may be said of the fields of a record. -/
theorem RecordText.map
    (imp : ∀ text value rest, field text value rest → target text (change value) rest)
    {fields : Triple α} (isRecord : RecordText names field text fields) :
    RecordText names target text (fields.map change) := by
  obtain ⟨recordText, rest, before, record, after⟩ := isRecord
  refine ⟨recordText, rest, before, ?_, after⟩
  cases record with
  | list opened first firstComma secondBlanks second secondComma thirdBlanks third closed =>
      exact .list opened (imp _ _ _ first) firstComma secondBlanks (imp _ _ _ second) secondComma
        thirdBlanks (imp _ _ _ third) closed
  | object members once =>
      refine .object (members.map imp) fun place => ?_
      rw [valuesAt_map, once]
      cases place <;> rfl

end Map

theorem RecordText.mono {names : Triple String} {field stronger : List Char → α → List Char → Prop}
    (imp : ∀ text value rest, stronger text value rest → field text value rest)
    {text : List Char} {fields : Triple α} (isRecord : RecordText names stronger text fields) :
    RecordText names field text fields :=
  isRecord.map imp

/-! ## Fields -/

namespace Shape

/-- A numeral that the shape accepts as a field. -/
def FieldAt (shape : Shape α) (text : List Char) (value : α) (rest : List Char) : Prop :=
  ∃ (numeral : Numeral) (number : Number), numeral.SpelledAt text rest ∧
    numeral.evaluate = some number ∧ shape.ofNumber number = .ok value

/-- The names of the fields differ. -/
def IsNamed (shape : Shape α) : Prop :=
  ∀ key place, shape.place? key = some place ↔ key = (shape.names.get place).toList

end Shape

/-- The character can stand behind a value. -/
def IsDelimiter (character : Char) : Prop :=
  character = ',' ∨ ∃ container : Container, character = container.closer

variable {shape : Shape α}

theorem readNumber_eq_ok_iff {text rest : List Char} {number : Number} :
    readNumber text = .ok (number, rest) ↔
      ∃ numeral : Numeral, numeral.SpelledAt text rest ∧ numeral.Stops rest ∧
        numeral.evaluate = some number := by
  constructor
  · intro accepted
    unfold readNumber at accepted
    split at accepted
    · cases accepted
    · cases accepted
    · rename_i numeral after scanned
      obtain ⟨spelled, stops⟩ := Numeral.scan_eq_ok_iff.mp scanned
      split at accepted
      · cases accepted
      · rename_i evaluated
        cases accepted
        exact ⟨numeral, spelled, stops, evaluated⟩
  · rintro ⟨numeral, spelled, stops, evaluated⟩
    simp [readNumber, Numeral.scan_eq_ok_iff.mpr ⟨spelled, stops⟩, evaluated]

theorem exists_of_readField {text rest : List Char} {value : α}
    (accepted : readField shape text = .ok (value, rest)) :
    ∃ valueText, Blanks text valueText ∧ shape.FieldAt valueText value rest := by
  unfold readField at accepted
  split at accepted
  · cases accepted
  · rename_i character more blank
    split at accepted
    · split at accepted
      · cases accepted
      · rename_i number after read
        obtain ⟨numeral, spelled, -, evaluated⟩ := readNumber_eq_ok_iff.mp read
        split at accepted
        · cases accepted
        · rename_i isValue
          cases accepted
          exact ⟨_, (skipBlank_eq_iff (not_isBlank_of_skipBlank blank)).mp blank, numeral, number,
            spelled, evaluated, isValue⟩
    · cases accepted

theorem skipBlank_of_field {text valueText rest : List Char} {value : α}
    (blanks : Blanks text valueText) (field : shape.FieldAt valueText value rest) :
    ∃ first more, valueText = first :: more ∧ skipBlank text = first :: more ∧
      Numeral.isStart first = true := by
  obtain ⟨numeral, number, spelled, -⟩ := field
  obtain ⟨first, more, rfl, isStart⟩ := spelled.isStart
  refine ⟨first, more, rfl, ?_, isStart⟩
  rw [skipBlank_eq_of_blanks blanks]
  exact skipBlank_of_derives (.numeral spelled)

theorem readField_of_field {text valueText rest after : List Char} {value : α} {delimiter : Char}
    (blanks : Blanks text valueText) (field : shape.FieldAt valueText value rest)
    (delimited : Blanks rest (delimiter :: after)) (isDelimiter : IsDelimiter delimiter) :
    readField shape text = .ok (value, rest) := by
  obtain ⟨first, more, rfl, split, isStart⟩ := skipBlank_of_field blanks field
  obtain ⟨numeral, number, spelled, evaluated, isValue⟩ := field
  have read := readNumber_eq_ok_iff.mpr
    ⟨numeral, spelled, Numeral.stops_of_blanks delimited isDelimiter, evaluated⟩
  simp [readField, split, isStart, read, isValue]

/-! ## Lists -/

theorem exists_of_readElement {count : Nat} {text rest : List Char} {value : α}
    (accepted : readElement shape count text = .ok (value, rest)) :
    ∃ before valueText, (if count = 0 then before = text else Blanks text (',' :: before)) ∧
      Blanks before valueText ∧ shape.FieldAt valueText value rest := by
  unfold readElement at accepted
  split at accepted
  · cases accepted
  · cases accepted
  · rename_i character more _ blank
    have blanks := (skipBlank_eq_iff (not_isBlank_of_skipBlank blank)).mp blank
    split at accepted
    · rename_i isFirst
      obtain ⟨valueText, fieldBlanks, field⟩ := exists_of_readField accepted
      exact ⟨text, valueText, if_pos isFirst ▸ rfl, blanks.trans fieldBlanks, field⟩
    · rename_i notFirst
      split at accepted
      · rename_i isComma
        subst isComma
        split at accepted
        · cases accepted
        · obtain ⟨valueText, fieldBlanks, field⟩ := exists_of_readField accepted
          exact ⟨more, valueText, if_neg notFirst ▸ blanks,
            (blanks_skipBlank more).trans fieldBlanks, field⟩
      · cases accepted

theorem readElement_first {text valueText rest after : List Char} {value : α} {delimiter : Char}
    (blanks : Blanks text valueText) (field : shape.FieldAt valueText value rest)
    (delimited : Blanks rest (delimiter :: after)) (isDelimiter : IsDelimiter delimiter) :
    readElement shape 0 text = .ok (value, rest) := by
  obtain ⟨first, more, rfl, split, isStart⟩ := skipBlank_of_field blanks field
  have read := readField_of_field (blanks_refl _) field delimited isDelimiter
  have notCloser : first ≠ ']' := by
    rintro rfl
    cases isStart
  simp [readElement, split, read]

theorem readElement_next {count : Nat} {text before valueText rest after : List Char} {value : α}
    {delimiter : Char} (comma : Blanks text (',' :: before)) (blanks : Blanks before valueText)
    (field : shape.FieldAt valueText value rest)
    (delimited : Blanks rest (delimiter :: after)) (isDelimiter : IsDelimiter delimiter) :
    readElement shape (count + 1) text = .ok (value, rest) := by
  obtain ⟨first, more, rfl, split, isStart⟩ := skipBlank_of_field blanks field
  have read := readField_of_field (blanks_refl _) field delimited isDelimiter
  have notCloser : first ≠ ']' := by
    rintro rfl
    cases isStart
  simp [readElement, (skipBlank_eq_iff rfl).mpr comma, split, notCloser, read]

theorem closeList_eq_ok_iff {text rest : List Char} :
    closeList text = .ok rest ↔ Blanks text (']' :: rest) := by
  rw [← skipBlank_eq_iff rfl]
  constructor
  · intro accepted
    unfold closeList at accepted
    split at accepted
    · cases accepted
    · rename_i split
      cases accepted
      exact split
    · split at accepted <;> cases accepted
    · cases accepted
  · intro split
    simp [closeList, split]

theorem readList_eq_ok_iff {text rest : List Char} {fields : Triple α} :
    readList shape text = .ok (fields, rest) ↔
      RecordAt shape.names shape.FieldAt ('[' :: text) fields rest := by
  simp only [readList, bind_eq_ok_iff, Prod.exists, pure, Except.pure, Except.ok.injEq,
    Prod.mk.injEq, closeList_eq_ok_iff]
  constructor
  · rintro ⟨first, afterFirst, firstRead, second, afterSecond, secondRead, third, afterThird,
      thirdRead, after, closed, rfl, rfl⟩
    obtain ⟨_, _, rfl, opened, firstField⟩ := exists_of_readElement firstRead
    obtain ⟨_, _, firstComma, secondBlanks, secondField⟩ := exists_of_readElement secondRead
    obtain ⟨_, _, secondComma, thirdBlanks, thirdField⟩ := exists_of_readElement thirdRead
    exact .list opened firstField firstComma secondBlanks secondField secondComma thirdBlanks
      thirdField closed
  · intro record
    cases record with
    | list opened first firstComma secondBlanks second secondComma thirdBlanks third closed =>
        exact ⟨_, _, readElement_first opened first firstComma (Or.inl rfl),
          _, _, readElement_next firstComma secondBlanks second secondComma (Or.inl rfl),
          _, _, readElement_next secondComma thirdBlanks third closed (Or.inr ⟨.list, rfl⟩),
          _, closed, rfl, rfl⟩

/-! ## Objects -/

/-- What has been found and what is still given make each field once. -/
def Fills (found : Triple (Option α)) (given : List (Place × α)) (fields : Triple α) : Prop :=
  ∀ place, (found.get place).toList ++ valuesAt given place = [fields.get place]

theorem valuesAt_append (first second : List (Place × α)) (place : Place) :
    valuesAt (first ++ second) place = valuesAt first place ++ valuesAt second place := by
  simp [valuesAt]

theorem valuesAt_singleton (place other : Place) (value : α) :
    valuesAt [(place, value)] other = if other = place then [value] else [] := by
  by_cases same : other = place
  · simp [valuesAt, same]
  · simp [valuesAt, same, Ne.symm same]

/-- A field that is found has not been found before, and will not be again. -/
theorem fills_cons_iff {found : Triple (Option α)} {place : Place} {value : α}
    {given : List (Place × α)} {fields : Triple α} (isNew : found.get place = none) :
    Fills found ([(place, value)] ++ given) fields ↔
      Fills (found.set place (some value)) given fields := by
  refine forall_congr' fun other => ?_
  rw [valuesAt_append, valuesAt_singleton, Triple.get_set]
  by_cases same : other = place
  · simp [same, isNew]
  · simp [same]

theorem get_eq_none_of_fills {found : Triple (Option α)} {place : Place} {value : α}
    {given : List (Place × α)} {fields : Triple α}
    (fills : Fills found ([(place, value)] ++ given) fields) : found.get place = none := by
  have here := fills place
  rw [valuesAt_append, valuesAt_singleton, if_pos rfl] at here
  cases isFound : found.get place with
  | none => rfl
  | some other => simp [isFound] at here

theorem complete_eq_ok_iff {found : Triple (Option α)} {fields : Triple α} :
    complete shape found = .ok fields ↔ Fills found [] fields := by
  have isFound : Fills found [] fields ↔
      ∀ place, found.get place = some (fields.get place) := by
    refine forall_congr' fun place => ?_
    cases found.get place <;> simp [valuesAt]
  rw [isFound]
  constructor
  · intro completed
    unfold complete at completed
    split at completed
    · rename_i first second third
      cases completed
      intro place
      cases place with
      | first => exact first
      | second => exact second
      | third => exact third
    · cases completed
    · cases completed
    · cases completed
  · intro all
    have first := all .first
    have second := all .second
    have third := all .third
    simp only [Triple.get] at first second third
    simp [complete, first, second, third]

/-! ### Keys -/

theorem readQuotedKey_eq_ok_iff {text rest : List Char} {key : Option (List Char)} :
    readQuotedKey text = .ok (key, rest) ↔
      ∃ inKey characters, text = '"' :: inKey ∧ key = some characters ∧
        StringAt PairedEscape inKey characters rest := by
  constructor
  · intro accepted
    unfold readQuotedKey at accepted
    split at accepted
    · split at accepted
      · cases accepted
      · rename_i read
        cases accepted
        exact ⟨_, _, rfl, rfl, (readString_eq_ok_iff reads_paired).mp read⟩
    · cases accepted
  · rintro ⟨inKey, characters, rfl, rfl, isString⟩
    simp [readQuotedKey, (readString_eq_ok_iff reads_paired).mpr isString]

/-- The place where a member is expected: at once for the first, after a comma for
the others. -/
def BeforeMember (isFirst : Bool) (text member : List Char) : Prop :=
  if isFirst then text = member else Blanks text (',' :: member)

theorem exists_of_readKey {isFirst : Bool} {text rest key : List Char}
    (accepted : readKey isFirst text = .ok (some key, rest)) :
    ∃ member inKey, BeforeMember isFirst text member ∧ Blanks member ('"' :: inKey) ∧
      StringAt PairedEscape inKey key rest := by
  unfold readKey at accepted
  split at accepted
  · cases accepted
  · cases accepted
  · rename_i character more _ blank
    have blanks := (skipBlank_eq_iff (not_isBlank_of_skipBlank blank)).mp blank
    split at accepted
    · rename_i isFirst
      obtain ⟨inKey, characters, equal, same, isString⟩ := readQuotedKey_eq_ok_iff.mp accepted
      cases same
      exact ⟨text, inKey, by simp [BeforeMember, isFirst], equal ▸ blanks, isString⟩
    · rename_i notFirst
      split at accepted
      · rename_i isComma
        subst isComma
        split at accepted
        · cases accepted
        · cases accepted
        · obtain ⟨inKey, characters, equal, same, isString⟩ := readQuotedKey_eq_ok_iff.mp accepted
          cases same
          exact ⟨more, inKey, by simpa [BeforeMember, notFirst] using blanks,
            (skipBlank_eq_iff rfl).mp equal, isString⟩
      · cases accepted

theorem readKey_of_key {isFirst : Bool} {text member inKey key rest : List Char}
    (before : BeforeMember isFirst text member) (quote : Blanks member ('"' :: inKey))
    (isString : StringAt PairedEscape inKey key rest) :
    readKey isFirst text = .ok (some key, rest) := by
  have quoted := (skipBlank_eq_iff rfl).mpr quote
  have read := readQuotedKey_eq_ok_iff.mpr ⟨inKey, key, rfl, rfl, isString⟩
  cases isFirst with
  | true =>
      have same : text = member := before
      simp [readKey, same, quoted, read]
  | false =>
      have comma : Blanks text (',' :: member) := before
      simp [readKey, (skipBlank_eq_iff rfl).mpr comma, quoted, read]

theorem readKey_none_iff {isFirst : Bool} {text rest : List Char} :
    readKey isFirst text = .ok (none, rest) ↔ Blanks text ('\x7d' :: rest) := by
  rw [← skipBlank_eq_iff rfl]
  constructor
  · intro accepted
    unfold readKey at accepted
    split at accepted
    · cases accepted
    · rename_i split
      cases accepted
      exact split
    · split at accepted
      · obtain ⟨_, _, _, same, _⟩ := readQuotedKey_eq_ok_iff.mp accepted
        cases same
      · split at accepted
        · split at accepted
          · cases accepted
          · cases accepted
          · obtain ⟨_, _, _, same, _⟩ := readQuotedKey_eq_ok_iff.mp accepted
            cases same
        · cases accepted
  · intro split
    simp [readKey, split]

theorem readColon_eq_ok_iff {text rest : List Char} :
    readColon text = .ok rest ↔ Blanks text (':' :: rest) := by
  rw [← skipBlank_eq_iff rfl]
  constructor
  · intro accepted
    unfold readColon at accepted
    split at accepted
    · cases accepted
    · rename_i split
      cases accepted
      exact split
    · cases accepted
  · intro split
    simp [readColon, split]

/-! ### Members -/

theorem unknown_iff (named : shape.IsNamed) (key : List Char) :
    shape.place? key = none ↔ ∀ place, key ≠ (shape.names.get place).toList := by
  constructor
  · intro isNone place isName
    rw [(named key place).mpr isName] at isNone
    cases isNone
  · intro unknown
    cases found : shape.place? key with
    | none => rfl
    | some place => exact absurd ((named key place).mp found) (unknown place)

/-- A member that is read is a member of the grammar, and what is found after it
still lacks what it lacked before without this member. -/
theorem memberAt_of_readMember (named : shape.IsNamed) {found updated : Triple (Option α)}
    {member inKey key text rest : List Char} (quote : Blanks member ('"' :: inKey))
    (isString : StringAt PairedEscape inKey key text)
    (accepted : readMember shape found key text = .ok (updated, rest)) :
    ∃ given, MemberAt shape.names shape.FieldAt member given rest ∧
      ∀ others fields, Fills updated others fields → Fills found (given ++ others) fields := by
  unfold readMember at accepted
  split at accepted
  · rename_i place isPlace
    split at accepted
    · cases accepted
    · rename_i isNew
      rw [Bool.not_eq_true, Option.isSome_eq_false_iff, Option.isNone_iff_eq_none] at isNew
      split at accepted
      · cases accepted
      · rename_i afterColon colon
        split at accepted
        · cases accepted
        · rename_i value after read
          cases accepted
          obtain ⟨valueText, blanks, field⟩ := exists_of_readField read
          rw [(named key place).mp isPlace] at isString
          exact ⟨[(place, value)],
            .own place ⟨inKey, text, afterColon, quote, isString, readColon_eq_ok_iff.mp colon,
              blanks⟩ field,
            fun others fields => (fills_cons_iff isNew).mpr⟩
  · rename_i isNone
    split at accepted
    · cases accepted
    · rename_i afterColon colon
      split at accepted
      · cases accepted
      · rename_i skipped
        cases accepted
        obtain ⟨valueText, blanks, value, -⟩ := skipValue_eq_ok_iff.mp skipped
        exact ⟨[],
          .other ⟨inKey, text, afterColon, quote, isString, readColon_eq_ok_iff.mp colon, blanks⟩
            ((unknown_iff named key).mp isNone) value,
          fun others fields fills => fills⟩

/-- A member of the grammar is read, if its field is still lacking. -/
theorem readMember_of_memberAt (named : shape.IsNamed) {found : Triple (Option α)}
    {given others : List (Place × α)} {fields : Triple α} {member rest after : List Char}
    {delimiter : Char} (isMember : MemberAt shape.names shape.FieldAt member given rest)
    (fills : Fills found (given ++ others) fields) (delimited : Blanks rest (delimiter :: after))
    (isDelimiter : IsDelimiter delimiter) :
    ∃ inKey key text updated, Blanks member ('"' :: inKey) ∧
      StringAt PairedEscape inKey key text ∧
      readMember shape found key text = .ok (updated, rest) ∧ Fills updated others fields := by
  cases isMember with
  | own place isKey isField =>
      obtain ⟨inKey, text, afterColon, quote, isString, colon, blanks⟩ := isKey
      have isNew := get_eq_none_of_fills fills
      refine ⟨inKey, _, text, found.set place (some _), quote, isString, ?_,
        (fills_cons_iff isNew).mp fills⟩
      have isPlace := (named _ place).mpr rfl
      have read := readField_of_field blanks isField delimited isDelimiter
      simp [readMember, isPlace, isNew, readColon_eq_ok_iff.mpr colon, read]
  | other isKey unknown value =>
      obtain ⟨inKey, text, afterColon, quote, isString, colon, blanks⟩ := isKey
      refine ⟨inKey, _, text, found, quote, isString, ?_, fills⟩
      have isNone := (unknown_iff named _).mpr unknown
      have skipped := skipValue_eq_ok_iff.mpr
        ⟨_, blanks, value, isGreedy_of_blanks delimited isDelimiter⟩
      simp [readMember, isNone, readColon_eq_ok_iff.mpr colon, skipped]

theorem readMembers_of_none {found : Triple (Option α)} {isFirst : Bool} {text rest : List Char}
    (noKey : readKey isFirst text = .ok (none, rest)) :
    readMembers shape found isFirst text =
      (complete shape found).map fun fields => (fields, rest) := by
  rw [readMembers]
  split
  · simp_all
  · rename_i read
    rw [noKey] at read
    cases read
    cases complete shape found <;> rfl
  · simp_all

theorem readMembers_of_key {found : Triple (Option α)} {isFirst : Bool}
    {text key afterKey : List Char} (isKey : readKey isFirst text = .ok (some key, afterKey)) :
    readMembers shape found isFirst text =
      readMember shape found key afterKey >>= fun member =>
        readMembers shape member.1 false member.2 := by
  rw [readMembers]
  split
  · simp_all
  · simp_all
  · rename_i read
    rw [isKey] at read
    cases read
    split
    · rename_i failed
      rw [failed]
      rfl
    · rename_i done
      rw [done]
      rfl

/-- What is read of an object: its end, if nothing is lacking, or members that give
what is lacking. -/
theorem membersAt_of_readMembers (named : shape.IsNamed) {found : Triple (Option α)}
    {isFirst : Bool} {text rest : List Char} {fields : Triple α}
    (accepted : readMembers shape found isFirst text = .ok (fields, rest)) :
    (Blanks text ('\x7d' :: rest) ∧ Fills found [] fields) ∨
      ∃ member given, BeforeMember isFirst text member ∧
        MembersAt shape.names shape.FieldAt member given rest ∧ Fills found given fields := by
  induction found, isFirst, text using readMembers.induct shape with
  | case1 found isFirst text fault failed =>
      rw [readMembers] at accepted
      split at accepted <;> simp_all
  | case2 found isFirst text after noKey fault failed =>
      rw [readMembers_of_none noKey, failed] at accepted
      cases accepted
  | case3 found isFirst text after noKey made completed =>
      rw [readMembers_of_none noKey, completed] at accepted
      cases accepted
      exact Or.inl ⟨readKey_none_iff.mp noKey, complete_eq_ok_iff.mp completed⟩
  | case4 found isFirst text key afterKey isKey fault failed =>
      rw [readMembers_of_key isKey, failed] at accepted
      cases accepted
  | case5 found isFirst text key afterKey isKey updated after read ih =>
      rw [readMembers_of_key isKey, read] at accepted
      obtain ⟨member, inKey, before, quote, isString⟩ := exists_of_readKey isKey
      obtain ⟨given, isMember, fillsBefore⟩ := memberAt_of_readMember named quote isString read
      rcases ih accepted with ⟨closed, fills⟩ | ⟨next, others, comma, members, fills⟩
      · refine Or.inr ⟨member, given, before, .last isMember closed, ?_⟩
        simpa using fillsBefore [] fields fills
      · exact Or.inr ⟨member, given ++ others, before, .more isMember comma members,
          fillsBefore others fields fills⟩

theorem readMembers_of_membersAt (named : shape.IsNamed) {member rest : List Char}
    {given : List (Place × α)} (members : MembersAt shape.names shape.FieldAt member given rest)
    {found : Triple (Option α)} {isFirst : Bool} {text : List Char} {fields : Triple α}
    (before : BeforeMember isFirst text member) (fills : Fills found given fields) :
    readMembers shape found isFirst text = .ok (fields, rest) := by
  induction members generalizing found isFirst text with
  | @last _ _ _ given isMember closed =>
      rw [← List.append_nil given] at fills
      obtain ⟨inKey, key, afterKey, updated, quote, isString, read, filled⟩ :=
        readMember_of_memberAt named isMember fills closed (Or.inr ⟨.object, rfl⟩)
      rw [readMembers_of_key (readKey_of_key before quote isString), read]
      change readMembers shape updated false _ = _
      rw [readMembers_of_none (readKey_none_iff.mpr closed), complete_eq_ok_iff.mpr filled]
      rfl
  | more isMember comma members ih =>
      obtain ⟨inKey, key, afterKey, updated, quote, isString, read, filled⟩ :=
        readMember_of_memberAt named isMember fills comma (Or.inl rfl)
      rw [readMembers_of_key (readKey_of_key before quote isString), read]
      exact ih comma filled

/-! ## Whole texts -/

theorem fills_none_iff {given : List (Place × α)} {fields : Triple α} :
    Fills ⟨none, none, none⟩ given fields ↔
      ∀ place, valuesAt given place = [fields.get place] := by
  refine forall_congr' fun place => ?_
  cases place <;> simp [Triple.get]

theorem readObject_eq_ok_iff (named : shape.IsNamed) {text rest : List Char} {fields : Triple α} :
    readMembers shape ⟨none, none, none⟩ true text = .ok (fields, rest) ↔
      RecordAt shape.names shape.FieldAt ('\x7b' :: text) fields rest := by
  constructor
  · intro accepted
    rcases membersAt_of_readMembers named accepted with
      ⟨-, fills⟩ | ⟨member, given, same, members, fills⟩
    · have lacking := fills_none_iff.mp fills .first
      simp [valuesAt] at lacking
    · have same : text = member := same
      exact same ▸ .object members (fills_none_iff.mp fills)
  · intro record
    cases record with
    | object members once =>
        exact readMembers_of_membersAt named members rfl (fills_none_iff.mpr once)

theorem readRecord_eq_ok_iff (named : shape.IsNamed) {text rest : List Char} {fields : Triple α} :
    readRecord shape text = .ok (fields, rest) ↔
      ∃ recordText, Blanks text recordText ∧
        RecordAt shape.names shape.FieldAt recordText fields rest := by
  constructor
  · intro accepted
    unfold readRecord at accepted
    split at accepted
    · cases accepted
    · rename_i split
      exact ⟨_, (skipBlank_eq_iff rfl).mp split, readList_eq_ok_iff.mp accepted⟩
    · rename_i split
      exact ⟨_, (skipBlank_eq_iff rfl).mp split, (readObject_eq_ok_iff named).mp accepted⟩
    · cases accepted
  · rintro ⟨recordText, blanks, record⟩
    cases bracket : record with
    | list =>
        rw [readRecord, (skipBlank_eq_iff rfl).mpr blanks]
        exact readList_eq_ok_iff.mpr record
    | object =>
        rw [readRecord, (skipBlank_eq_iff rfl).mpr blanks]
        exact (readObject_eq_ok_iff named).mpr record

theorem atEnd_iff {text : List Char} : atEnd text = true ↔ Blanks text [] := by
  rw [atEnd, List.isEmpty_iff]
  constructor
  · intro isEmpty
    rw [← isEmpty]
    exact blanks_skipBlank text
  · intro blanks
    rw [skipBlank_eq_of_blanks blanks]
    rfl

/-- A text is read as a record exactly if it is one. -/
theorem read_eq_ok_iff (named : shape.IsNamed) {text : List Char} {fields : Triple α} :
    read shape text = .ok fields ↔ RecordText shape.names shape.FieldAt text fields := by
  constructor
  · intro accepted
    unfold read at accepted
    split at accepted
    · cases accepted
    · rename_i made rest readRecord
      split at accepted
      · rename_i isEnd
        cases accepted
        obtain ⟨recordText, blanks, record⟩ := (readRecord_eq_ok_iff named).mp readRecord
        exact ⟨recordText, rest, blanks, record, atEnd_iff.mp isEnd⟩
      · cases accepted
  · rintro ⟨recordText, rest, blanks, record, isEnd⟩
    have made := (readRecord_eq_ok_iff named).mpr ⟨recordText, blanks, record⟩
    simp [read, made, atEnd_iff.mpr isEnd]

/-! ## Colours and points -/

theorem isNamed_of_ne (second : shape.names.second.toList ≠ shape.names.first.toList)
    (third : shape.names.third.toList ≠ shape.names.first.toList)
    (last : shape.names.third.toList ≠ shape.names.second.toList) : shape.IsNamed := by
  intro key place
  unfold Shape.place?
  have firstSecond := second.symm
  have firstThird := third.symm
  have secondThird := last.symm
  cases place <;> split_ifs <;> simp_all [Triple.get]

theorem isNamed_colourShape : colourShape.IsNamed :=
  isNamed_of_ne (by decide) (by decide) (by decide)

theorem isNamed_pointShape : pointShape.IsNamed :=
  isNamed_of_ne (by decide) (by decide) (by decide)

/-- An unsigned integer of at most 255, without superfluous zeros. -/
def ChannelAt (text : List Char) (level : UInt8) (rest : List Char) : Prop :=
  ∃ digitList, text = digitList.map digitChar ++ rest ∧ digitList ≠ [] ∧ AreDigits digitList ∧
    NoLeadingZero digitList ∧ value digitList = level.toNat

/-- A numeral that can be evaluated, rounded to a coordinate. -/
def CoordinateAt (text : List Char) (coordinate : Coordinate) (rest : List Char) : Prop :=
  ∃ (numeral : Numeral) (number : Number), numeral.SpelledAt text rest ∧
    numeral.evaluate = some number ∧ coordinateOfNumber number = .ok coordinate

theorem channelOfNumber_integer_iff {number : Int} {level : UInt8} :
    channelOfNumber (.integer number) = .ok level ↔ number = level.toNat := by
  have small := level.toNat_lt
  simp only [channelOfNumber]
  constructor
  · intro isLevel
    split_ifs at isLevel with fits
    cases isLevel
    have narrow : number.toNat < 256 := by omega
    rw [UInt8.toNat_ofNat_of_lt' narrow, Int.toNat_of_nonneg fits.1]
  · rintro rfl
    rw [if_pos (by omega), Int.toNat_natCast, UInt8.ofNat_toNat]

/-- Only a numeral of digits alone is a channel. -/
theorem channelOfNumber_evaluate_iff {numeral : Numeral} {level : UInt8} :
    (∃ number, numeral.evaluate = some number ∧ channelOfNumber number = .ok level) ↔
      numeral.negative = false ∧ numeral.fraction = [] ∧ numeral.exponent = none ∧
        value numeral.whole = level.toNat := by
  constructor
  · rintro ⟨number, evaluated, isLevel⟩
    unfold Numeral.evaluate at evaluated
    dsimp only at evaluated
    split at evaluated
    · rename_i isUnsigned
      cases evaluated
      simp only [Numeral.isInteger, Bool.and_eq_true, List.isEmpty_iff, Option.isNone_iff_eq_none,
        Bool.not_eq_true'] at isUnsigned
      obtain ⟨⟨⟨noFraction, noExponent⟩, isPositive⟩, -⟩ := isUnsigned
      exact ⟨isPositive, noFraction, noExponent,
        Int.natCast_inj.mp (channelOfNumber_integer_iff.mp isLevel)⟩
    · split at evaluated
      · rename_i isNegative
        cases evaluated
        have same := channelOfNumber_integer_iff.mp isLevel
        simp only [Bool.and_eq_true, bne_iff_ne] at isNegative
        omega
      · rw [Option.map_eq_some_iff] at evaluated
        obtain ⟨_, -, rfl⟩ := evaluated
        cases isLevel
  · rintro ⟨isPositive, noFraction, noExponent, valueEq⟩
    refine ⟨.integer level.toNat, ?_, channelOfNumber_integer_iff.mpr rfl⟩
    have small := level.toNat_lt
    have fits : level.toNat < Numeral.unsignedLimit := by
      unfold Numeral.unsignedLimit
      omega
    simp [Numeral.evaluate, Numeral.isInteger, isPositive, noFraction, noExponent, valueEq, fits]

theorem fieldAt_colourShape : colourShape.FieldAt = ChannelAt := by
  funext text level rest
  apply propext
  constructor
  · rintro ⟨numeral, number, ⟨unsigned, rfl, isUnsigned⟩, evaluated, isLevel⟩
    obtain ⟨isPositive, noFraction, noExponent, valueEq⟩ :=
      channelOfNumber_evaluate_iff.mp ⟨number, evaluated, isLevel⟩
    obtain ⟨afterWhole, afterFraction, rfl, isFraction, isExponent⟩ := isUnsigned.parts
    rw [noExponent] at isExponent
    cases isExponent
    rcases isFraction with ⟨-, rfl⟩ | ⟨someFraction, -⟩
    · refine ⟨numeral.whole, by simp [isPositive], isUnsigned.whole_ne_nil, isUnsigned.areDigits,
        isUnsigned.noLeadingZero, valueEq⟩
    · exact absurd noFraction someFraction
  · rintro ⟨digitList, rfl, nonempty, areDigits, noLeadingZero, valueEq⟩
    obtain ⟨number, evaluated, isLevel⟩ := channelOfNumber_evaluate_iff.mpr
      (show (⟨false, digitList, [], none⟩ : Numeral).negative = false ∧ _ from
        ⟨rfl, rfl, rfl, valueEq⟩)
    exact ⟨⟨false, digitList, [], none⟩, number,
      ⟨_, rfl, nonempty, areDigits, noLeadingZero, rest, rest, rfl, Or.inl ⟨rfl, rfl⟩, .absent⟩,
      evaluated, isLevel⟩

theorem fieldAt_pointShape : pointShape.FieldAt = CoordinateAt :=
  rfl

end PointRecords.Json

namespace PointRecords

open Json

/-- Colours and points are read from exactly the texts of the grammar, and with the
fields that it gives. -/
theorem ofJson_eq_ok_iff (text : String) :
    (∀ colour, Colour.ofJson text = .ok colour ↔
      RecordText ⟨"r", "g", "b"⟩ ChannelAt text.toList colour.toTriple) ∧
    (∀ point, Point.ofJson text = .ok point ↔
      RecordText ⟨"x", "y", "z"⟩ CoordinateAt text.toList point.toTriple) := by
  constructor
  · intro colour
    rw [← fieldAt_colourShape]
    refine Iff.trans ?_ (read_eq_ok_iff isNamed_colourShape)
    unfold Colour.ofJson
    cases colour
    rcases read colourShape text.toList with _ | ⟨_, _, _⟩ <;>
      simp [Except.map, Colour.ofTriple, Colour.toTriple]
  · intro point
    rw [← fieldAt_pointShape]
    refine Iff.trans ?_ (read_eq_ok_iff isNamed_pointShape)
    unfold Point.ofJson
    cases point
    rcases read pointShape text.toList with _ | ⟨_, _, _⟩ <;>
      simp [Except.map, Point.ofTriple, Point.toTriple]

end PointRecords
