import PointRecords.Proofs.Binary.Conversion
import PointRecords.Proofs.Entries
import PointRecords.Script.Interpreter

/-!
# Points made of the numbers of a script

A number of a script has double precision and is narrowed once, when a point is made of
it.  What a script sees of the point afterwards are the coordinates in double precision
again.  Nothing is lost on the way there, so a point that is made of what a script has
seen, or of another point, has the coordinates of the first one.
-/

namespace PointRecords.Script

open Binary

/-! ## Objects under a name -/

namespace Environment

/-- The name stands for an object that holds the record. -/
def Holds (environment : Environment) (name : String) (record : Record) : Prop :=
  ∃ identity, environment.find? name = some ⟨identity, record⟩

theorem find?_bind (environment : Environment) (name other : String) (record : Record) :
    (environment.bind name record).find? other =
      if other = name then some ⟨environment.next, record⟩ else environment.find? other :=
  lookup_replaced environment.objects name other ⟨environment.next, record⟩

theorem holds_bind (environment : Environment) (name : String) (record : Record) :
    (environment.bind name record).Holds name record :=
  ⟨environment.next, by rw [find?_bind, if_pos rfl]⟩

/-- A name still stands for a record after any name has been given to that record. -/
theorem Holds.bind {environment : Environment} {name : String} {record : Record}
    (holds : environment.Holds name record) (other : String) :
    (environment.bind other record).Holds name record := by
  by_cases same : name = other
  · rw [same]
    exact holds_bind environment other record
  · obtain ⟨identity, found⟩ := holds
    exact ⟨identity, by rw [find?_bind, if_neg same, found]⟩

end Environment

section Steps

variable {environment : Environment} {name : String} {record : Record}

theorem withObject_of_holds (holds : environment.Holds name record)
    (carryOut : Record → Except Exception Answer) :
    withObject environment name (fun object => carryOut object.record) =
      (carryOut record, environment) := by
  obtain ⟨identity, found⟩ := holds
  rw [withObject, found]

theorem step_build {target : String} {recordClass : RecordClass} {arguments : List Expression}
    (made : construct recordClass (environment.evaluateAll arguments) [] = .ok record) :
    step environment (.build target recordClass arguments []) =
      (.ok (.record record), environment.bind target record) := by
  rw [step, made, bindResult]

theorem step_copy (holds : environment.Holds name record) (target : String) :
    step environment (.copy name target) =
      (.ok (.record record), environment.bind target record) := by
  obtain ⟨identity, found⟩ := holds
  rw [step, found]
  rfl

theorem step_compare_equal (holds : environment.Holds name record) {other : String}
    (otherHolds : environment.Holds other record) (equal : record.equals? record = some true) :
    step environment (.compare .equal (.named name) (.named other)) =
      (.ok (.boolean true), environment) := by
  obtain ⟨identity, found⟩ := holds
  obtain ⟨otherIdentity, otherFound⟩ := otherHolds
  simp [step, compare, Environment.evaluate, found, otherFound, Value.equals, equal, Except.map]

end Steps

/-! ## Numbers and coordinates -/

/-- Three numbers as a script hands them over. -/
def literals (numbers : Triple Real) : List Expression :=
  (numbers.map fun number => Expression.value (.real number)).toList

/-- The point that three numbers are narrowed to. -/
def narrowed (numbers : Triple Real) : Point :=
  .ofTriple (numbers.map fun number => number.convert .single)

theorem construct_literals (environment : Environment) (numbers : Triple Real) :
    construct .point (environment.evaluateAll (literals numbers)) [] =
      .ok (.point (narrowed numbers)) :=
  rfl

theorem narrowed_get (numbers : Triple Real) (place : Place) :
    (narrowed numbers).toTriple.get place = (numbers.get place).convert .single := by
  cases place <;> rfl

theorem widened_get (point : Point) (place : Place) :
    (point.toTriple.map widened).get place = (point.toTriple.get place).convert .double := by
  cases place <;> rfl

def AreNumbers (point : Point) : Prop := ∀ place, (point.toTriple.get place).isNaN = false

theorem narrowed_widened {point : Point} (areNumbers : AreNumbers point) :
    narrowed (point.toTriple.map widened) = point := by
  have back : ∀ place, (widened (point.toTriple.get place)).convert .single =
      point.toTriple.get place := fun place =>
    Pattern.convert_convert Format.isWider_single_double (by decide) (areNumbers place)
  obtain ⟨x, y, z⟩ := point
  exact congr (congr (congrArg Point.mk (back .first)) (back .second)) (back .third)

theorem equals_self {point : Point} (areNumbers : AreNumbers point) :
    Record.equals? (.point point) (.point point) = some true := by
  have first := areNumbers .first
  have second := areNumbers .second
  have third := areNumbers .third
  simp only [Point.toTriple, Triple.get] at first second third
  simp [Record.equals?, Point.equals, Pattern.equals, first, second, third]

/-! ## Points made of points -/

/-- A way to make a point of another one: of the numbers seen of it, of itself, or as
its copy. -/
inductive Remaking
  | spread
  | again
  | copy

/-- The step that makes a point under the target's name of the one under the source's. -/
def Remaking.step (seen : Triple Real) (source target : String) : Remaking → Step
  | .spread => .build target .point (literals seen) []
  | .again => .build target .point [.named source] []
  | .copy => .copy source target

/-- Points are made one of the other, and each is compared with the first one and
described. -/
def remakings (seen : Triple Real) (first : String) :
    String → List (Remaking × String) → List Step
  | _, [] => []
  | source, (way, target) :: rest =>
      way.step seen source target :: .compare .equal (.named first) (.named target) ::
        .describe target :: remakings seen first target rest

/-- Everything that a script can see of the coordinates of a point. -/
def looks (name : String) : List Step :=
  [.get name "x", .get name "y", .get name "z", .call name "to_tuple" [], .describe name]

section

variable {environment : Environment} {point : Point} {name : String}

theorem Remaking.step_eq (areNumbers : AreNumbers point)
    (holds : environment.Holds name (.point point)) (target : String) (way : Remaking) :
    Script.step environment (way.step (point.toTriple.map widened) name target) =
      (.ok (.record (.point point)), environment.bind target (.point point)) := by
  cases way with
  | spread =>
      apply step_build
      rw [construct_literals, narrowed_widened areNumbers]
  | again =>
      apply step_build
      obtain ⟨identity, found⟩ := holds
      simp only [Environment.evaluateAll, Environment.evaluate, found]
      rfl
  | copy => exact step_copy holds target

theorem answers_looks (holds : environment.Holds name (.point point)) :
    answers environment (looks name) =
      [.ok (.real (widened point.x)), .ok (.real (widened point.y)), .ok (.real (widened point.z)),
        .ok (.reals (point.toTriple.map widened)), .ok (.text point.display)] := by
  have get : ∀ field, step environment (.get name field) =
      (getAttribute (.point point) field, environment) := fun field =>
    withObject_of_holds holds fun record => getAttribute record field
  have call : step environment (.call name "to_tuple" []) =
      (.ok (.reals (point.toTriple.map widened)), environment) :=
    withObject_of_holds holds fun record => callMethod record "to_tuple" []
  have describe : step environment (.describe name) =
      (.ok (.text point.display), environment) :=
    withObject_of_holds holds fun record => .ok (.text record.display)
  simp only [looks, answers, get, call, describe]
  rfl

/-- However often a point is made of the one before, the first one comes out.  A link may
use a name that was used before, so the environment and the point made last are
arbitrary. -/
theorem answers_remakings (areNumbers : AreNumbers point) {first : String}
    (firstHolds : environment.Holds first (.point point))
    (holds : environment.Holds name (.point point)) (chain : List (Remaking × String)) :
    answers environment (remakings (point.toTriple.map widened) first name chain) =
      chain.flatMap fun _ =>
        [.ok (.record (.point point)), .ok (.boolean true), .ok (.text point.display)] := by
  induction chain generalizing environment name with
  | nil => rfl
  | cons link rest hypothesis =>
      obtain ⟨way, target⟩ := link
      have targetHolds := environment.holds_bind target (.point point)
      have made := way.step_eq areNumbers holds target
      have equal := step_compare_equal (firstHolds.bind target) targetHolds (equals_self areNumbers)
      have described : step (environment.bind target (.point point)) (.describe target) =
          (.ok (.text point.display), environment.bind target (.point point)) :=
        withObject_of_holds targetHolds fun record => .ok (.text record.display)
      simp only [remakings, answers, made, equal, described, List.flatMap_cons,
        hypothesis (firstHolds.bind target) targetHolds]
      rfl

end

/-- A script that makes a point of these numbers sees these ones of it, and again this
point wherever it makes one point of another. -/
structure MadeOf (numbers : Triple Real) (point : Point) (seen : Triple Real) : Prop where
  isRounded : ∀ place, (point.toTriple.get place).IsRounded (numbers.get place)
  isSame : ∀ place, (seen.get place).IsSame (point.toTriple.get place)
  looked : ∀ environment name,
    answers environment (.build name .point (literals numbers) [] :: looks name) =
      [.ok (.record (.point point)), .ok (.real seen.first), .ok (.real seen.second),
        .ok (.real seen.third), .ok (.reals seen), .ok (.text point.display)]
  remade : ∀ environment name chain,
    answers environment
        (.build name .point (literals numbers) [] :: remakings seen name name chain) =
      .ok (.record (.point point)) :: chain.flatMap fun _ =>
        [.ok (.record (.point point)), .ok (.boolean true), .ok (.text point.display)]

/-- Numbers are rounded once when a point is made of them, and never again. -/
theorem numbers_rounded_once (numbers : Triple Real)
    (areNumbers : ∀ place, (numbers.get place).isNaN = false) :
    ∃ point seen, MadeOf numbers point seen := by
  have coordinates : AreNumbers (narrowed numbers) := by
    intro place
    rw [narrowed_get]
    exact Pattern.isNaN_convert (areNumbers place)
  have build : ∀ environment name, step environment (.build name .point (literals numbers) []) =
      (.ok (.record (.point (narrowed numbers))),
        environment.bind name (.point (narrowed numbers))) := fun environment name =>
    step_build (construct_literals environment numbers)
  refine ⟨narrowed numbers, (narrowed numbers).toTriple.map widened, ?_, ?_, ?_, ?_⟩
  · intro place
    rw [narrowed_get]
    exact Pattern.isRounded_convert (by decide) (by decide) (areNumbers place)
  · intro place
    rw [widened_get]
    exact Pattern.isSame_convert Format.isWider_single_double (coordinates place)
  · intro environment name
    have holds := environment.holds_bind name (.point (narrowed numbers))
    simp only [answers, build, answers_looks holds]
    rfl
  · intro environment name chain
    have holds := environment.holds_bind name (.point (narrowed numbers))
    simp only [answers, build, answers_remakings coordinates holds holds chain]

/-- The least number that is rounded to infinity, a negative zero and an infinity. -/
theorem extremes_rounded_once :
    let numbers : Triple Real :=
      ⟨.ofInt (2 ^ 128 - 2 ^ 103), .round true 0 1, .infinite true⟩
    (∀ place, (numbers.get place).isNaN = false) ∧
      ∃ point seen, MadeOf numbers point seen ∧ point.x = .infinite false ∧
        point.z = .infinite true := by
  intro numbers
  have areNumbers : ∀ place, (numbers.get place).isNaN = false := by
    intro place
    cases place <;> decide +kernel
  have atOverflow : Format.single.overflow ≤ Format.double.real numbers.first.magnitude := by
    have units : Format.double.units numbers.first.magnitude =
        (2 ^ 25 - 1) * 2 ^ 103 * Format.double.unitsInOne := by
      decide +kernel
    rw [Format.overflow_single, Format.real, units, Nat.cast_mul,
      mul_div_cancel_right₀ _ Format.double.cast_unitsInOne_pos.ne']
    norm_num
  obtain ⟨point, seen, madeOf⟩ := numbers_rounded_once numbers areNumbers
  have rounded := (madeOf.isRounded .first).finite (by decide +kernel)
  exact ⟨areNumbers, point, seen, madeOf, rounded.infinite atOverflow,
    (madeOf.isRounded .third).infinite rfl⟩

end PointRecords.Script
