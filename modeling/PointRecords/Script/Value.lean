import PointRecords.Binary.Pattern
import PointRecords.Record

/-!
# Values of a scripting host

A script hands the records ordinary values of its host: numbers, texts,
sequences, objects that merely convert to a number, and records.  Records are
objects with an identity of their own, so that two may be equal and yet not the
same.
-/

namespace PointRecords.Script

/-- A double-precision number of the host. -/
abbrev Real := Binary.Pattern .double

/-- A record object: what it holds, and a number that tells it from all other
objects. -/
structure Object where
  identity : Nat
  record : Record
  deriving DecidableEq

/-- A value of the host.  An `indexLike` object converts to an integer, a
`realLike` one to a real number. -/
inductive Value
  | nothing
  | boolean (value : Bool)
  | integer (value : Int)
  | real (value : Real)
  | text (value : String)
  | indexLike (value : Int)
  | realLike (value : Real)
  | list (items : List Value)
  | tuple (items : List Value)
  | object (held : Object)

def className : Record → String
  | .point _ => "PointXYZ"
  | .colour _ => "RGB"

def moduleName : String := "pcl"

def qualified (name : String) : String := moduleName ++ "." ++ name

def qualifiedName (record : Record) : String := qualified (className record)

/-- A record as an expression that would build it. -/
def representation (record : Record) : String := className record ++ record.display

namespace Value

/-- The type of a value in one word. -/
def typeName : Value → String
  | .nothing => "NoneType"
  | .boolean _ => "bool"
  | .integer _ => "int"
  | .real _ => "float"
  | .text _ => "str"
  | .indexLike _ => "Index"
  | .realLike _ => "Float"
  | .list _ => "list"
  | .tuple _ => "tuple"
  | .object held => className held.record

def qualifiedTypeName : Value → String
  | .object held => qualifiedName held.record
  | value => value.typeName

/-- The integer that a value can be used as. -/
def asInteger? : Value → Option Int
  | .boolean value => some (if value then 1 else 0)
  | .integer value => some value
  | .indexLike value => some value
  | _ => none

end Value

/-- An exact quantity: a real number in units of the smallest positive double,
an infinity, or no number. -/
inductive Quantity
  | finite (units : Int)
  | infinite (negative : Bool)
  | notANumber
  deriving DecidableEq

namespace Quantity

def ofInt (number : Int) : Quantity :=
  .finite (number * Binary.Format.double.unitsInOne)

def ofReal (number : Real) : Quantity :=
  if number.isNaN then .notANumber
  else if number.isFinite then
    let units : Int := Binary.Format.double.units number.magnitude
    .finite (if number.negative then -units else units)
  else .infinite number.negative

def equals : Quantity → Quantity → Bool
  | .finite first, .finite second => first == second
  | .infinite first, .infinite second => first == second
  | _, _ => false

def less : Quantity → Quantity → Bool
  | .finite first, .finite second => first < second
  | .finite _, .infinite negative => !negative
  | .infinite negative, .finite _ => negative
  | .infinite first, .infinite second => first && !second
  | _, _ => false

end Quantity

namespace Value

def quantity? : Value → Option Quantity
  | .boolean value => some (Quantity.ofInt (if value then 1 else 0))
  | .integer value => some (Quantity.ofInt value)
  | .real value => some (Quantity.ofReal value)
  | _ => none

/-- The host keeps the text: there is nothing in it, or one character below
256. -/
def isKeptText (text : String) : Bool :=
  match text.toList with
  | [] => true
  | [character] => character.toNat < 0x100
  | _ => false

/-- Two values are one object.  Values are made anew each time they are written,
apart from the small integers, the short texts and the empty tuple that the host
keeps. -/
def isSame : Value → Value → Bool
  | .nothing, .nothing => true
  | .boolean first, .boolean second => first == second
  | .integer first, .integer second => first == second && -5 ≤ first && first ≤ 256
  | .text first, .text second => first == second && isKeptText first
  | .tuple [], .tuple [] => true
  | .object first, .object second => first.identity == second.identity
  | _, _ => false

mutual

/-- Equality of values: numbers by quantity, records of one kind by value,
sequences of one kind item by item. -/
def equals : Value → Value → Bool
  | .nothing, .nothing => true
  | .text first, .text second => first == second
  | .object first, .object second => (first.record.equals? second.record).getD false
  | .list first, .list second => itemsEqual first second
  | .tuple first, .tuple second => itemsEqual first second
  | first, second =>
      match first.quantity?, second.quantity? with
      | some left, some right => left.equals right
      | _, _ => false

/-- Equality item by item; an item equals itself whatever it is. -/
def itemsEqual : List Value → List Value → Bool
  | [], [] => true
  | first :: firsts, second :: seconds =>
      (first.isSame second || equals first second) && itemsEqual firsts seconds
  | _, _ => false

end

mutual

/-- The order of values, as far as they have one; otherwise the two that have
none. -/
def less : Value → Value → Except (Value × Value) Bool
  | .text first, .text second => .ok (decide (first < second))
  | .list first, .list second => itemsLess first second
  | .tuple first, .tuple second => itemsLess first second
  | first, second =>
      match first.quantity?, second.quantity? with
      | some left, some right => .ok (left.less right)
      | _, _ => .error (first, second)

/-- The order of sequences: by the first items that differ, and otherwise by
length. -/
def itemsLess : List Value → List Value → Except (Value × Value) Bool
  | [], second => .ok !second.isEmpty
  | _ :: _, [] => .ok false
  | first :: firsts, second :: seconds =>
      if first.isSame second || first.equals second then itemsLess firsts seconds
      else less first second

end

end Value

end PointRecords.Script
