import DrawingPlan.Plan.Field

set_option autoImplicit false

namespace DrawingPlan

def Json.isList : Json → Bool
  | .list _ => true
  | _ => false

namespace Field

variable {item : Json} {items padded front back seen : List Json} {place : Nat}

def lists (items : List Json) : List Json :=
  items.filter Json.isList

theorem lists_append : lists (front ++ back) = lists front ++ lists back :=
  List.filter_append front back

theorem lists_concat (items : List Json) (kind : item.isList = true) :
    lists (items ++ [item]) = lists items ++ [item] := by
  simp [lists, kind]

theorem lists_concat_other (items : List Json) (kind : item.isList = false) :
    lists (items ++ [item]) = lists items := by
  simp [lists, kind]

def cornerOf (items : List Json) (place : Nat) : Point Float :=
  ((lists items)[place]?.map (pointOf Point.origin)).getD Point.origin

theorem cornerOf_append (within : place < (lists front).length) (back : List Json) :
    cornerOf (front ++ back) place = cornerOf front place := by
  unfold cornerOf
  rw [lists_append, List.getElem?_append_left within]

theorem cornerOf_concat (kind : item.isList = true) :
    cornerOf (items ++ [item]) place =
      if place = (lists items).length then pointOf Point.origin item else cornerOf items place := by
  unfold cornerOf
  rw [lists_concat items kind]
  split
  next last =>
    rw [last, List.getElem?_concat_length]
    rfl
  next other =>
    obtain before | after := Nat.lt_or_gt_of_ne other
    next => rw [List.getElem?_append_left before]
    next =>
      rw [List.getElem?_eq_none (Nat.le_of_lt after), List.getElem?_eq_none]
      rw [List.length_append, List.length_singleton]
      exact after

theorem corners_eq_map (wanted : Nat) (items : List Json) :
    corners wanted items = ((lists items).take wanted).map (pointOf Point.origin) := by
  induction items generalizing wanted with
  | nil => cases wanted <;> rfl
  | cons item rest ih =>
    cases wanted with
    | zero => rfl
    | succ wanted =>
      cases item with
      | list coordinates =>
        exact congrArg (pointOf Point.origin (.list coordinates) :: ·) (ih wanted)
      | _ => exact ih (wanted + 1)

theorem window_eq_cornerOf (items : List Json) :
    window items = (cornerOf items 0, cornerOf items 1) := by
  unfold window cornerOf
  rw [corners_eq_map]
  match lists items with
  | [] => rfl
  | [_] => rfl
  | _ :: _ :: _ => rfl

structure WindowScan where
  corners : List (Point Float)
  found : Nat

namespace WindowScan

variable {scan : WindowScan}

def start : WindowScan :=
  ⟨[Point.origin, Point.origin], 0⟩

-- A write outside of the pair fails.
def write? (scan : WindowScan) (corner : Point Float) : Option WindowScan :=
  if scan.found < scan.corners.length then
    some ⟨scan.corners.set scan.found corner, scan.found + 1⟩
  else none

def run? : WindowScan → List Json → Option WindowScan
  | scan, [] => some scan
  | scan, item :: rest =>
    if item.isList then do
      let next ← scan.write? (pointOf Point.origin item)
      if next.found = 2 then some next else next.run? rest
    else scan.run? rest

/-- The pair is that of the items seen so far, and the index counts the lists among them. -/
structure Seen (scan : WindowScan) (seen : List Json) : Prop where
  corners : scan.corners = [cornerOf seen 0, cornerOf seen 1]
  found : scan.found = (lists seen).length

theorem Seen.skip (correct : scan.Seen seen) (kind : item.isList = false) :
    scan.Seen (seen ++ [item]) := by
  have same := lists_concat_other seen kind
  constructor
  next => simpa only [cornerOf, same] using correct.corners
  next => simpa only [same] using correct.found

theorem Seen.write (correct : scan.Seen seen) (free : scan.found < 2)
    (kind : item.isList = true) :
    ∃ next, scan.write? (pointOf Point.origin item) = some next ∧
      next.found = scan.found + 1 ∧ next.Seen (seen ++ [item]) := by
  have within : scan.found < scan.corners.length := by
    rw [correct.corners]
    exact free
  refine ⟨_, if_pos within, rfl, ?_, ?_⟩
  next =>
    simp only [correct.corners, cornerOf_concat kind, ← correct.found]
    obtain first | second : scan.found = 0 ∨ scan.found = 1 := by omega
    next => simp [first]
    next => simp [second]
  next => simp [lists_concat seen kind, correct.found]

/-- While a place is free the loop goes on, and no item makes it write outside of the pair. -/
theorem Seen.run (correct : scan.Seen seen) (free : scan.found < 2) (items : List Json) :
    ∃ final, scan.run? items = some final ∧
      final.corners = [cornerOf (seen ++ items) 0, cornerOf (seen ++ items) 1] ∧
      final.found = min 2 (lists (seen ++ items)).length := by
  induction items generalizing scan seen with
  | nil =>
    rw [List.append_nil, ← correct.found]
    exact ⟨scan, rfl, correct.corners, by omega⟩
  | cons item rest ih =>
    rw [List.append_cons]
    cases kind : item.isList with
    | false => simpa [run?, kind] using ih (correct.skip kind) free
    | true =>
      obtain ⟨next, written, advanced, progress⟩ := correct.write free kind
      by_cases full : next.found = 2
      next =>
        -- The break: both corners are from the items seen so far, whatever the rest holds.
        have counted := progress.found.symm.trans full
        refine ⟨next, by simp [run?, kind, written, full], ?_, ?_⟩
        next =>
          have first : 0 < (lists (seen ++ [item])).length := by omega
          have second : 1 < (lists (seen ++ [item])).length := by omega
          rw [progress.corners, cornerOf_append first, cornerOf_append second]
        next =>
          rw [lists_append, List.length_append]
          omega
      next => simpa [run?, kind, written, full] using ih progress (by omega)

end WindowScan

inductive Padded : List Json → List Json → Prop
  | nil : Padded [] []
  | keep {item : Json} {items padded : List Json} (rest : Padded items padded) :
    Padded (item :: items) (item :: padded)
  | insert {item : Json} {items padded : List Json} (kind : item.isList = false)
    (rest : Padded items padded) : Padded items (item :: padded)

theorem Padded.lists_eq (inserted : Padded items padded) : lists padded = lists items := by
  induction inserted with
  | nil => rfl
  | @keep item items padded rest ih =>
    unfold lists at ih ⊢
    simp only [List.filter_cons, ih]
  | insert kind rest ih => simpa [lists, kind] using ih

theorem window_reads_two_lists (items : List Json) :
    window items = (cornerOf items 0, cornerOf items 1) ∧
      (∀ padded, Padded items padded → window padded = window items) ∧
      (∀ front back other, items = front ++ back → 2 ≤ (lists front).length →
        window (front ++ other) = window items) ∧
      ∃ final, WindowScan.start.run? items = some final ∧
        final.corners = [(window items).1, (window items).2] ∧
        final.found = min 2 (lists items).length := by
  refine ⟨window_eq_cornerOf items, ?_, ?_, ?_⟩
  next =>
    intro padded inserted
    simp only [window_eq_cornerOf, cornerOf, inserted.lists_eq]
  next =>
    rintro front back other rfl two
    have first : 0 < (lists front).length := by omega
    simp only [window_eq_cornerOf, cornerOf_append first, cornerOf_append two]
  next =>
    have begun : WindowScan.start.Seen [] := ⟨rfl, rfl⟩
    rw [window_eq_cornerOf]
    exact begun.run (by decide) items

end Field

end DrawingPlan
