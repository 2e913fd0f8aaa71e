import DrawingPlan.Text.Basic

set_option autoImplicit false

namespace DrawingPlan

variable {β : Type}

def putEntry (key : Text) (value : β) : List (Text × β) → List (Text × β)
  | [] => [(key, value)]
  | (other, old) :: rest =>
    if other = key then (key, value) :: rest else (other, old) :: putEntry key value rest

theorem lookup_putEntry (key : Text) (value : β) (entries : List (Text × β)) :
    (putEntry key value entries).lookup key = some value := by
  induction entries with
  | nil => simp [putEntry]
  | cons entry rest ih =>
    obtain ⟨known, old⟩ := entry
    by_cases same : known = key
    · simp [putEntry, same]
    · have missed : (key == known) = false := by simpa using Ne.symm same
      simp [putEntry, same, List.lookup_cons, missed, ih]

theorem lookup_putEntry_of_ne {key other : Text} (different : other ≠ key) (value : β)
    (entries : List (Text × β)) :
    (putEntry key value entries).lookup other = entries.lookup other := by
  induction entries with
  | nil =>
    have missed : (other == key) = false := by simpa using different
    simp [putEntry, List.lookup_cons, missed]
  | cons entry rest ih =>
    obtain ⟨known, old⟩ := entry
    by_cases same : known = key
    · subst same
      have missed : (other == known) = false := by simpa using different
      simp [putEntry, List.lookup_cons, missed]
    · simp [putEntry, same, List.lookup_cons, ih]

theorem keys_putEntry (key : Text) (value : β) (entries : List (Text × β)) :
    (putEntry key value entries).map (·.1) =
      if key ∈ entries.map (·.1) then entries.map (·.1) else entries.map (·.1) ++ [key] := by
  induction entries with
  | nil => simp [putEntry]
  | cons entry rest ih =>
    obtain ⟨known, old⟩ := entry
    by_cases same : known = key
    · simp [putEntry, same]
    · by_cases present : key ∈ rest.map (·.1)
      · simp_all [putEntry]
      · simp_all [putEntry, Ne.symm same]

theorem mem_putEntry {key : Text} {value : β} {entry : Text × β} {entries : List (Text × β)}
    (member : entry ∈ putEntry key value entries) : entry = (key, value) ∨ entry ∈ entries := by
  induction entries with
  | nil => simpa [putEntry] using member
  | cons first rest ih =>
    obtain ⟨known, old⟩ := first
    by_cases same : known = key
    · simp only [putEntry, same, if_true, List.mem_cons] at member
      exact member.imp_right (List.mem_cons_of_mem _)
    · simp only [putEntry, same, if_false, List.mem_cons] at member
      rcases member with found | later
      · exact .inr (List.mem_cons.mpr (.inl found))
      · exact (ih later).imp_right (List.mem_cons_of_mem _)

end DrawingPlan
