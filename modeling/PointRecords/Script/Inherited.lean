/-!
# Inherited names

The names under which every object of the host has something besides its own
methods, its comparisons and its conversions.
-/

namespace PointRecords.Script

/-- What every object inherits. -/
inductive Inherited
  | recordClass
  | deleteAttribute
  | directory
  | documentation
  | format
  | getAttribute
  | getState
  | setUp
  | setUpSubclass
  | moduleName
  | build
  | reduce
  | reduceFor
  | setAttribute
  | byteSize
  | subclassHook
  deriving DecidableEq

namespace Inherited

def all : List Inherited :=
  [.recordClass, .deleteAttribute, .directory, .documentation, .format, .getAttribute, .getState,
    .setUp, .setUpSubclass, .moduleName, .build, .reduce, .reduceFor, .setAttribute, .byteSize,
    .subclassHook]

def name : Inherited → String
  | .recordClass => "__class__"
  | .deleteAttribute => "__delattr__"
  | .directory => "__dir__"
  | .documentation => "__doc__"
  | .format => "__format__"
  | .getAttribute => "__getattribute__"
  | .getState => "__getstate__"
  | .setUp => "__init__"
  | .setUpSubclass => "__init_subclass__"
  | .moduleName => "__module__"
  | .build => "__new__"
  | .reduce => "__reduce__"
  | .reduceFor => "__reduce_ex__"
  | .setAttribute => "__setattr__"
  | .byteSize => "__sizeof__"
  | .subclassHook => "__subclasshook__"

def ofName? (name : String) : Option Inherited := all.find? (·.name == name)

end Inherited

end PointRecords.Script
