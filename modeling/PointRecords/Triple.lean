/-!
# Triples

Both kinds of record consist of three fields of one type.
-/

namespace PointRecords

/-- Three values in a fixed order. -/
structure Triple (α : Type) where
  first : α
  second : α
  third : α
  deriving DecidableEq

/-- A position in a triple. -/
inductive Place
  | first
  | second
  | third
  deriving DecidableEq

namespace Triple

variable {α β : Type}

def get (triple : Triple α) : Place → α
  | .first => triple.first
  | .second => triple.second
  | .third => triple.third

def set (triple : Triple α) (place : Place) (value : α) : Triple α :=
  match place with
  | .first => { triple with first := value }
  | .second => { triple with second := value }
  | .third => { triple with third := value }

@[simp]
theorem get_set (triple : Triple α) (place other : Place) (value : α) :
    (triple.set place value).get other = if other = place then value else triple.get other := by
  cases place <;> cases other <;> rfl

/-- Apply a function to every value. -/
def map (change : α → β) (triple : Triple α) : Triple β :=
  ⟨change triple.first, change triple.second, change triple.third⟩

def toList (triple : Triple α) : List α :=
  [triple.first, triple.second, triple.third]

/-- Pair the values of two triples by position. -/
def zip (left : Triple α) (right : Triple β) : Triple (α × β) :=
  ⟨(left.first, right.first), (left.second, right.second), (left.third, right.third)⟩

end Triple

def bracketed (texts : Triple String) : String :=
  "(" ++ texts.first ++ ", " ++ texts.second ++ ", " ++ texts.third ++ ")"

end PointRecords
