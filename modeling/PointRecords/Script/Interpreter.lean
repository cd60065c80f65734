import PointRecords.Script.Attribute

/-!
# Running scripts

A script is a list of steps over named objects.  Every record that is built or
copied is a new object; a step that fails leaves all names as they were.
-/

namespace PointRecords.Script

/-- A value as a script writes it, in which objects are named. -/
inductive Expression
  | value (value : Value)
  | named (name : String)
  | list (items : List Expression)
  | tuple (items : List Expression)

/-- How two values are compared. -/
inductive Comparison
  | equal
  | unequal
  | less
  | same
  deriving DecidableEq

/-- One step of a script.  A `change` without a value deletes. -/
inductive Step
  | build (target : String) (recordClass : RecordClass) (arguments : List Expression)
      (keywords : List String)
  | copy (source target : String)
  | get (source name : String)
  | change (source name : String) (value : Option Expression)
  | call (source method : String) (arguments : List Expression)
  | describe (source : String)
  | represent (source : String)
  | hash (source : String)
  | compare (comparison : Comparison) (left right : Expression)
  | countDistinct (sources : List String)
  | isMember (source : String) (items : List Expression)

/-- The named objects, and the identity of the next one. -/
structure Environment where
  objects : List (String × Object)
  next : Nat

namespace Environment

def empty : Environment := ⟨[], 0⟩

def find? (environment : Environment) (name : String) : Option Object :=
  environment.objects.lookup name

def bind (environment : Environment) (name : String) (record : Record) : Environment where
  objects := (name, ⟨environment.next, record⟩) :: environment.objects.filter (·.1 != name)
  next := environment.next + 1

mutual

/-- The value of an expression; a name without an object stands for nothing. -/
def evaluate (environment : Environment) : Expression → Value
  | .value value => value
  | .named name =>
      match environment.find? name with
      | some object => .object object
      | none => .nothing
  | .list items => .list (evaluateAll environment items)
  | .tuple items => .tuple (evaluateAll environment items)

def evaluateAll (environment : Environment) : List Expression → List Value
  | [] => []
  | item :: rest => evaluate environment item :: evaluateAll environment rest

end

end Environment

def compare (left right : Value) : Comparison → Except Exception Bool
  | .equal => .ok (left.equals right)
  | .unequal => .ok !(left.equals right)
  | .same => .ok (left.isSame right)
  | .less =>
      match left.less right with
      | .ok result => .ok result
      | .error (first, second) =>
          .error (.unordered first.qualifiedTypeName second.qualifiedTypeName)

/-- The records of a set, given some that may repeat.  Each has to have a
hash. -/
def distinct : List Record → Except Exception (List Record)
  | [] => .ok []
  | record :: rest => do
      let _ ← hashOf record
      let others ← distinct rest
      return if others.contains record then others else record :: others

def withObject (environment : Environment) (name : String)
    (carryOut : Object → Except Exception Answer) : Except Exception Answer × Environment :=
  match environment.find? name with
  | some object => (carryOut object, environment)
  | none => (.error (.noAttribute name "module"), environment)

/-- Give a name to a record, if it could be made. -/
def bindResult (environment : Environment) (target : String)
    (result : Except Exception Record) : Except Exception Answer × Environment :=
  match result with
  | .ok record => (.ok (.record record), environment.bind target record)
  | .error exception => (.error exception, environment)

def step (environment : Environment) : Step → Except Exception Answer × Environment
  | .build target recordClass arguments keywords =>
      bindResult environment target
        (construct recordClass (environment.evaluateAll arguments) keywords)
  | .copy source target =>
      match environment.find? source with
      | some object => bindResult environment target (.ok object.record)
      | none => (.error (.noAttribute source "module"), environment)
  | .get source name =>
      withObject environment source fun object => getAttribute object.record name
  | .change source name value =>
      withObject environment source fun object =>
        .error (refuseChange object.record name (value.map environment.evaluate))
  | .call source method arguments =>
      withObject environment source fun object =>
        callMethod object.record method (environment.evaluateAll arguments)
  | .describe source =>
      withObject environment source fun object => .ok (.text object.record.display)
  | .represent source =>
      withObject environment source fun object => .ok (.text (representation object.record))
  | .hash source =>
      withObject environment source fun object => (hashOf object.record).map .integer
  | .compare comparison left right =>
      ((compare (environment.evaluate left) (environment.evaluate right) comparison).map .boolean,
        environment)
  | .countDistinct sources =>
      let records := sources.filterMap fun name => (environment.find? name).map Object.record
      ((distinct records).map fun members => .integer members.length, environment)
  | .isMember source items =>
      withObject environment source fun object =>
        let value := Value.object object
        .ok (.boolean ((environment.evaluateAll items).any fun item =>
          value.isSame item || value.equals item))

def answers (environment : Environment) : List Step → List (Except Exception Answer)
  | [] => []
  | first :: rest =>
      let (answer, after) := step environment first
      answer :: answers after rest

end PointRecords.Script
