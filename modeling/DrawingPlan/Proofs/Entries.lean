import DrawingPlan.Entries

set_option autoImplicit false

namespace DrawingPlan

variable {β γ : Type}

theorem putEntry_of_fresh {key : Text} (value : β) {entries : List (Text × β)}
    (fresh : key ∉ entries.map (·.1)) : putEntry key value entries = entries ++ [(key, value)] := by
  induction entries with
  | nil => rfl
  | cons entry rest ih =>
    simp only [List.map_cons, List.mem_cons, not_or] at fresh
    simp [putEntry, Ne.symm fresh.1, ih fresh.2]

theorem nodup_keys_putEntry (key : Text) (value : β) {entries : List (Text × β)}
    (distinct : (entries.map (·.1)).Nodup) : ((putEntry key value entries).map (·.1)).Nodup := by
  rw [keys_putEntry]
  by_cases known : key ∈ entries.map (·.1)
  · simpa only [known, if_true] using distinct
  · simp only [known, if_false, List.nodup_append]
    refine ⟨distinct, by simp, ?_⟩
    intro old member new isKey
    rw [List.mem_singleton.mp isKey]
    exact fun same => known (same ▸ member)

theorem map_putEntry (change : β → γ) (key : Text) (value : β) (entries : List (Text × β)) :
    (putEntry key value entries).map (fun entry => (entry.1, change entry.2)) =
      putEntry key (change value) (entries.map fun entry => (entry.1, change entry.2)) := by
  induction entries with
  | nil => rfl
  | cons entry rest ih =>
    by_cases same : entry.1 = key
    · simp [putEntry, same]
    · simp [putEntry, same, ih]

def putEntries (added entries : List (Text × β)) : List (Text × β) :=
  added.foldl (fun known entry => putEntry entry.1 entry.2 known) entries

theorem lookup_putEntries (added entries : List (Text × β)) (key : Text) :
    (putEntries added entries).lookup key =
      (added.reverse.lookup key).or (entries.lookup key) := by
  induction added generalizing entries with
  | nil => rfl
  | cons entry rest ih =>
    obtain ⟨put, value⟩ := entry
    have later : (putEntries ((put, value) :: rest) entries).lookup key =
        (rest.reverse.lookup key).or ((putEntry put value entries).lookup key) :=
      ih (putEntry put value entries)
    rw [later, List.reverse_cons, List.lookup_append, Option.or_assoc]
    congr 1
    by_cases same : key = put
    · subst same
      simp [lookup_putEntry]
    · have missed : (key == put) = false := by simpa using same
      simp [lookup_putEntry_of_ne same, List.lookup_cons, missed]

theorem keys_putEntries {added entries : List (Text × β)}
    (known : ∀ entry ∈ added, entry.1 ∈ entries.map (·.1)) :
    (putEntries added entries).map (·.1) = entries.map (·.1) := by
  induction added generalizing entries with
  | nil => rfl
  | cons entry rest ih =>
    have first : (putEntry entry.1 entry.2 entries).map (·.1) = entries.map (·.1) := by
      rw [keys_putEntry, if_pos (known entry (by simp))]
    have others : ∀ other ∈ rest, other.1 ∈ (putEntry entry.1 entry.2 entries).map (·.1) := by
      intro other member
      rw [first]
      exact known other (List.mem_cons_of_mem _ member)
    exact (ih others).trans first

theorem mem_keys_of_lookup {entries : List (Text × β)} {key : Text} {value : β}
    (found : entries.lookup key = some value) : key ∈ entries.map (·.1) := by
  obtain ⟨before, after, rfl, _⟩ := List.lookup_eq_some_iff.mp found
  simp

theorem eq_of_lookup {first second : List (Text × β)}
    (keys : first.map (·.1) = second.map (·.1)) (distinct : (second.map (·.1)).Nodup)
    (same : ∀ key, first.lookup key = second.lookup key) : first = second := by
  induction first generalizing second with
  | nil => exact (List.map_eq_nil_iff.mp keys.symm).symm
  | cons entry rest ih =>
    obtain ⟨key, value⟩ := entry
    match second with
    | [] => simp at keys
    | (other, held) :: others =>
      simp only [List.map_cons, List.cons.injEq] at keys
      obtain ⟨rfl, restKeys⟩ := keys
      simp only [List.map_cons, List.nodup_cons] at distinct
      have head : value = held := by simpa using same key
      have rests : rest = others := by
        apply ih restKeys distinct.2
        intro asked
        by_cases hit : asked = key
        · -- The first key stands in neither rest.
          subst hit
          have absent : ∀ tail : List (Text × β), tail.map (·.1) = others.map (·.1) →
              tail.lookup asked = none := by
            intro tail tailKeys
            cases found : tail.lookup asked with
            | none => rfl
            | some _ => exact absurd (tailKeys ▸ mem_keys_of_lookup found) distinct.1
          rw [absent rest restKeys, absent others rfl]
        · have missed : (asked == key) = false := by simpa using hit
          simpa only [List.lookup_cons, missed] using same asked
      rw [head, rests]

theorem putEntries_eq_self_iff {added entries : List (Text × β)}
    (distinct : (entries.map (·.1)).Nodup) :
    putEntries added entries = entries ↔
      ∀ key value, added.reverse.lookup key = some value → entries.lookup key = some value := by
  constructor
  · intro same key value last
    have lookups := lookup_putEntries added entries key
    rw [same, last] at lookups
    exact lookups
  · intro kept
    have known : ∀ entry ∈ added, entry.1 ∈ entries.map (·.1) := by
      intro entry member
      have present : (added.reverse.lookup entry.1).isSome = true :=
        List.lookup_isSome_iff.mpr ⟨entry, List.mem_reverse.mpr member, beq_self_eq_true _⟩
      obtain ⟨value, last⟩ := Option.isSome_iff_exists.mp present
      exact mem_keys_of_lookup (kept entry.1 value last)
    apply eq_of_lookup (keys_putEntries known) distinct
    intro key
    rw [lookup_putEntries]
    cases last : added.reverse.lookup key with
    | none => rfl
    | some value => exact (kept key value last).symm

end DrawingPlan
