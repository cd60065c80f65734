/-!
# Entries under names

What is kept under names is a list of entries.  A new entry stands in front and takes
the place of the one that had its name, so every name has one entry at most.
-/

namespace PointRecords

variable {α : Type}

theorem lookup_filter_of_ne {name other : String} (different : other ≠ name)
    (entries : List (String × α)) :
    (entries.filter (·.1 != name)).lookup other = entries.lookup other := by
  induction entries with
  | nil => rfl
  | cons entry rest ih =>
      obtain ⟨key, held⟩ := entry
      by_cases same : key = name
      · subst same
        have skipped : (other == key) = false := beq_false_of_ne different
        simp [ih, List.lookup_cons, skipped]
      · simp [same, List.lookup_cons, ih]

/-- A name is looked up in the new entry if it is the name of that entry, and among the
others if it is not. -/
theorem lookup_replaced (entries : List (String × α)) (name other : String) (value : α) :
    ((name, value) :: entries.filter (·.1 != name)).lookup other =
      if other = name then some value else entries.lookup other := by
  split
  · rename_i same
    simp [same]
  · rename_i different
    have skipped : (other == name) = false := beq_false_of_ne different
    rw [List.lookup_cons, skipped]
    exact lookup_filter_of_ne different entries

theorem nodup_replaced {entries : List (String × α)} (distinct : (entries.map Prod.fst).Nodup)
    (name : String) (value : α) :
    (((name, value) :: entries.filter (·.1 != name)).map Prod.fst).Nodup := by
  rw [List.map_cons, List.nodup_cons]
  constructor
  · intro member
    obtain ⟨entry, kept, same⟩ := List.mem_map.mp member
    exact absurd same (by simpa using (List.mem_filter.mp kept).2)
  · exact distinct.sublist (List.filter_sublist.map Prod.fst)

end PointRecords
