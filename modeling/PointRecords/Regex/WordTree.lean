/-!
# Trees of words

Words among which the first that matches counts are told apart letter by letter.
A word that ends where others go on divides those before it from those behind it,
so that a place has parts; the words of a part are sorted by their next letter.
-/

namespace PointRecords.Regex

/-- The words before, between and behind those that end here. -/
def wordParts : List (List Nat) → List (List (List Nat))
  | [] => [[]]
  | [] :: rest => [] :: wordParts rest
  | word :: rest =>
      match wordParts rest with
      | part :: parts => (word :: part) :: parts
      | [] => [[word]]

/-- Words of which several end here before any other goes on: one of them is
enough. -/
def withoutRepeatedEnd (words : List (List Nat)) : List (List Nat) :=
  match words with
  | [] :: rest => [] :: rest.dropWhile List.isEmpty
  | words => words

/-- What follows a letter in the words that begin with it. -/
def wordsAfter (letter : Nat) (words : List (List Nat)) : List (List Nat) :=
  (words.filter (·.head? = some letter)).map List.tail

/-- A place in a tree of words: for each part, the next letters with the places
behind them. -/
inductive WordTree
  | leaf
  | node (parts : List (List (Nat × WordTree)))

/-- The tree of words of so many letters at most. -/
def WordTree.ofWords : Nat → List (List Nat) → WordTree
  | 0, _ => .leaf
  | letters + 1, words =>
      if words.all List.isEmpty then .leaf
      else
        .node ((wordParts (withoutRepeatedEnd words)).map fun part =>
          (part.filterMap List.head?).eraseDups.map fun letter =>
            (letter, WordTree.ofWords letters (wordsAfter letter part)))

end PointRecords.Regex
