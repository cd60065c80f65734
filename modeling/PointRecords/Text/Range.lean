/-!
# Tables of code points

A class of characters is a table of ranges of code points.
-/

namespace PointRecords.Text

def inRanges (ranges : List (Nat × Nat)) (code : Nat) : Bool :=
  ranges.any fun (first, last) => first ≤ code && code ≤ last

end PointRecords.Text
