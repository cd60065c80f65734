import PointRecords.Regex.Defect
import PointRecords.Regex.Tree

/-!
# Depth of patterns

Groups, repetitions, branches and brackets may lie inside each other, but only so
often.  Atoms and ranges add nothing to the depth.
-/

namespace PointRecords.Regex

/-- A part may lie inside so many others. -/
def admitDepth (depth : Nat) (span : Span) : Except Defect Unit :=
  if depth < depthLimit then .ok () else refuse .tooDeep span

mutual

/-- No part of a class lies inside too many others. -/
def ClassTree.checkDepth (depth : Nat) : ClassTree → Except Defect Unit
  | .empty _ | .atom _ | .range _ _ _ | .named _ _ _ => .ok ()
  | .bracketed span _ contents => do
      admitDepth depth span
      contents.checkDepth (depth + 1)
  | .union span items => do
      admitDepth depth span
      ClassTree.checkDepths (depth + 1) items
  | .combination span _ left right => do
      admitDepth depth span
      left.checkDepth (depth + 1)
      right.checkDepth (depth + 1)

/-- The same for the items of a union. -/
def ClassTree.checkDepths (depth : Nat) : List ClassTree → Except Defect Unit
  | [] => .ok ()
  | item :: rest => do
      item.checkDepth depth
      ClassTree.checkDepths depth rest

end

mutual

/-- No part of a pattern lies inside too many others. -/
def Tree.checkDepth (depth : Nat) : Tree → Except Defect Unit
  | .empty _ | .flags _ _ | .atom _ => .ok ()
  | .bracketed span _ contents => do
      admitDepth depth span
      contents.checkDepth (depth + 1)
  | .repetition span _ _ item => do
      admitDepth depth span
      item.checkDepth (depth + 1)
  | .group span _ item => do
      admitDepth depth span
      item.checkDepth (depth + 1)
  | .concatenation span items => do
      admitDepth depth span
      Tree.checkDepths (depth + 1) items
  | .alternation span branches => do
      admitDepth depth span
      Tree.checkDepths (depth + 1) branches

/-- The same for items and branches. -/
def Tree.checkDepths (depth : Nat) : List Tree → Except Defect Unit
  | [] => .ok ()
  | item :: rest => do
      item.checkDepth depth
      Tree.checkDepths depth rest

end

end PointRecords.Regex
