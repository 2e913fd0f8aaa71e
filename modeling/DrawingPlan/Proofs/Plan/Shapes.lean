import DrawingPlan.Assistant.Prompt
import DrawingPlan.Proofs.Plan.Slots

set_option autoImplicit false

namespace DrawingPlan

open DrawingPlan.Number

namespace Prompt

def sample : ActionKind → Slot → String
  | _, .start => "[x1,y1]"
  | _, .finish => "[x2,y2]"
  | _, .points => "[[x1,y1],[x2,y2],...]"
  | _, .closed => "false"
  | _, .base | _, .center | _, .position => "[x,y]"
  | _, .offset => "[dx,dy]"
  | _, .width => "w"
  | _, .height => "h"
  | _, .radius => "r"
  | _, .sides => "n"
  | _, .scale => "1.0"
  | _, .factor => "s"
  | _, .rotation | _, .angle => "deg"
  | _, .name => "\"MOTOR\""
  | _, .attributes => "\x7b\"TAG\":\"M1\",\"DESC\":\"Motor\"\x7d"
  | _, .layer => "\"0\""
  | .changeLayer, .filter => "\x7b\"window\":[[x1,y1],[x2,y2]]\x7d"
  | .changeProperties, .filter => "\x7b\"layer\":\"0\"\x7d"
  | _, .filter => "\x7b\"layer\":\"WIRE\"\x7d"
  | _, .targetLayer | _, .linetype => "\"CENTER\""
  | _, .color => "2"
  | _, .linetypeScale => "0.5"

def entry (key value : String) : String :=
  "\"" ++ key ++ "\":" ++ value

def shape (kind : ActionKind) : String :=
  let entries := kind.slots.map fun slot => entry slot.key (sample kind slot)
  "'" ++ kind.name ++ "': \x7b" ++
    ",".intercalate (entry "action" ("\"" ++ kind.name ++ "\"") :: entries) ++ "\x7d"

def number : ActionKind → String
  | .line => "  1) "
  | .polyline => "  2) "
  | .rectangle => "  3) "
  | .circle => "  4) "
  | .polygon => "  5) "
  | .move => "  6) "
  | .rotate => "  7) "
  | .scale => "  8) "
  | .erase => "  9) "
  | .insertBlock => " 10) "
  | .changeLayer => " 11) "
  | .changeProperties => " 12) "

theorem shape_mem_plannerLines (kind : ActionKind) : number kind ++ shape kind ∈ plannerLines := by
  cases kind <;> decide +kernel

theorem exists_eq_intercalate (separator : String) {line : String} {lines : List String}
    (member : line ∈ lines) :
    ∃ before after, separator.intercalate lines = before ++ line ++ after := by
  induction lines with
  | nil => cases member
  | cons first rest ih =>
    by_cases last : rest = []
    · subst last
      obtain rfl := List.mem_singleton.mp member
      exact ⟨"", "", by simp⟩
    · rw [String.intercalate_cons_of_ne_nil last]
      rcases List.mem_cons.mp member with rfl | later
      · exact ⟨"", separator ++ separator.intercalate rest, by simp [String.append_assoc]⟩
      · obtain ⟨before, after, same⟩ := ih later
        exact ⟨first ++ separator ++ before, after, by simp [same, String.append_assoc]⟩

theorem planner_shows (kind : ActionKind) :
    ∃ before after, planner = before ++ shape kind ++ after := by
  obtain ⟨before, after, same⟩ := exists_eq_intercalate "\n" (shape_mem_plannerLines kind)
  exact ⟨before ++ number kind, after, by simp [planner, same, String.append_assoc]⟩

end Prompt

namespace Json

/-- A number counts as finite when its float is; an integer past the range of floats does not. -/
inductive WritesNumber : Json → Float → Prop
  | integer {n : Int} (finite : isFinite (Decimal.ofInt n).toFloat = true) :
      WritesNumber (.integer n) (Decimal.ofInt n).toFloat
  | real {x : Float} (finite : isFinite x = true) : WritesNumber (.real x) x

inductive WritesInteger : Json → Int → Prop
  | integer (n : Int) : WritesInteger (.integer n) n
  | real {x : Float} {n : Int} (finite : isFinite x = true) (integral : isIntegral x = true)
      (whole : truncate? x = some n) : WritesInteger (.real x) n

inductive WritesPoint : Json → Point Float → Prop
  | pair {a b : Json} {x y : Float} (first : a.WritesNumber x) (second : b.WritesNumber y) :
      WritesPoint (.list [a, b]) ⟨x, y⟩

inductive WritesWindow : Json → Point Float × Point Float → Prop
  | corners {a b : Json} {p q : Point Float} (first : a.WritesPoint p) (second : b.WritesPoint q) :
      WritesWindow (.list [a, b]) (p, q)

structure WritesName (json : Json) (name : Text) : Prop where
  text : json = .text name
  solid : name.isBlank = false

inductive WritesText : Json → Text → Prop
  | text (t : Text) : WritesText (.text t) t

inductive WritesOptional {β : Type} (writes : Json → β → Prop) : Json → Option β → Prop
  | missing : WritesOptional writes .null none
  | given {json : Json} {value : β} (written : writes json value) :
      WritesOptional writes json (some value)

structure WritesFilter (json : Json) (filter : Filter Float) : Prop where
  object : ∃ fields, json = .object fields
  layer : WritesOptional WritesText (json.field "layer") filter.layer
  kind : WritesOptional WritesText (json.field "type") filter.kind
  window : WritesOptional WritesWindow (json.field "window") filter.window
  crossing : WritesOptional WritesWindow (json.field "crossing") filter.crossing

end Json

def Slot.Writes : (slot : Slot) → Json → slot.Value Float → Prop
  | .start | .finish | .base | .center | .position | .offset => Json.WritesPoint
  | .points => fun json given =>
    ∃ items, json = .list items ∧ List.Forall₂ Json.WritesPoint items given
  | .closed => fun json given => json = .bool given
  | .width | .height | .radius | .scale | .factor => Json.WritesNumber
  | .rotation | .angle => fun json given =>
    ∃ degrees : Float, json.WritesNumber degrees ∧ given = Scalar.radians degrees
  | .sides => fun json given =>
    json.WritesInteger given ∧ fewestSides ≤ given ∧ given ≤ mostSides
  | .name | .layer => Json.WritesName
  | .attributes => fun json given =>
    json = .object (given.map fun (tag, value) => (tag, .text value))
  | .filter => fun json given => ∃ filter, given = some filter ∧ json.WritesFilter filter
  | .targetLayer | .linetype => fun json given =>
    ∃ name, given = some name ∧ json.WritesName name
  | .color => fun json given => ∃ n, given = some n ∧ json.WritesInteger n
  | .linetypeScale => fun json given => ∃ x, given = some x ∧ json.WritesNumber x

structure Json.HasShape (obj : Json) (kind : ActionKind) : Prop where
  action : obj.field "action" = .text kind.name
  slots : ∀ slot ∈ kind.slots, ∃ value, slot.Writes (obj.field slot.key) value

namespace Json

variable {json : Json}

theorem WritesNumber.read {x : Float} (written : json.WritesNumber x) :
    Field.number? json = some x := by
  cases written with
  | integer finite => simp [Field.number?, Field.finite?, finite]
  | real finite => simp [Field.number?, Field.finite?, finite]

theorem WritesInteger.read {n : Int} (written : json.WritesInteger n) :
    Field.integer? json = .ok (some n) := by
  cases written with
  | integer n => rfl
  | real finite integral whole => simp [Field.integer?, finite, integral, whole]

theorem WritesPoint.read {p : Point Float} (written : json.WritesPoint p)
    (fallback : Point Float) : Field.pointOf fallback json = p := by
  cases written with
  | pair first second => simp [Field.pointOf, first.read, second.read]

theorem WritesWindow.read {window : Point Float × Point Float}
    (written : json.WritesWindow window) : Field.window? json = some window := by
  cases written with
  | corners first second =>
    have p := first.read Point.origin
    have q := second.read Point.origin
    cases first
    cases second
    simp [Field.window?, Field.window, Field.corners, p, q]

theorem WritesText.read {t : Text} (written : json.WritesText t) :
    Field.anyText? json = some t := by
  cases written
  rfl

theorem WritesOptional.read {β : Type} {writes : Json → β → Prop} {value : Option β}
    (written : json.WritesOptional writes value) {reader : Json → Option β}
    (null : reader .null = none)
    (given : ∀ {json value}, writes json value → reader json = some value) :
    reader json = value := by
  cases written with
  | missing => exact null
  | given written => exact given written

theorem map_pointOf {items : List Json} {points : List (Point Float)}
    (written : List.Forall₂ WritesPoint items points) :
    items.map (Field.pointOf Point.origin) = points := by
  induction written with
  | nil => rfl
  | cons first rest ih => rw [List.map_cons, first.read, ih]

theorem WritesFilter.read {obj : Json} {filter : Filter Float}
    (written : (obj.field "filter").WritesFilter filter) :
    Field.filter obj = .ok (some filter) := by
  obtain ⟨fields, object⟩ := written.object
  obtain ⟨-, layer, kind, window, crossing⟩ := written
  rw [object] at layer kind window crossing
  simp only [Field.filter, object, layer.read rfl WritesText.read, kind.read rfl WritesText.read,
    window.read rfl WritesWindow.read, crossing.read rfl WritesWindow.read]

end Json

theorem Field.text?_of_writesName {obj : Json} {key name : Text}
    (written : (obj.field key).WritesName name) : Field.text? obj key = some name := by
  simp [Field.text?, written.text, written.solid]

theorem Field.number_of_writes {obj : Json} {key : Text} {x : Float}
    (written : (obj.field key).WritesNumber x) (fallback : Float) :
    Field.number obj key fallback = x := by
  rw [Field.number, written.read, Option.getD_some]

theorem Field.attributeTexts_of_writes {obj : Json} {attributes : List (Text × Text)}
    (written : obj.field "attributes" =
      .object (attributes.map fun (tag, value) => (tag, .text value))) :
    attributeTexts obj = attributes := by
  simp only [attributeTexts, written, List.filterMap_map]
  exact List.filterMap_some

theorem DrawPolyline.points_of_writes {obj : Json} {items : List Json} {points : List (Point Float)}
    (list : obj.field "points" = .list items)
    (written : List.Forall₂ Json.WritesPoint items points) :
    (DrawPolyline.read obj).points = points := by
  simp only [read, list, Json.map_pointOf written]

theorem DrawPolyline.closed_of_writes {obj : Json} {closed : Bool}
    (written : obj.field "closed" = .bool closed) : (DrawPolyline.read obj).closed = closed := by
  simp only [read, written]

theorem Json.WritesInteger.sides {json : Json} {n : Nat} (written : json.WritesInteger n)
    (enough : fewestSides ≤ n) (few : n ≤ mostSides) :
    ∃ x, Field.number? json = some x ∧ sidesOf x = n := by
  unfold fewestSides at enough
  unfold mostSides at few
  suffices ∃ x, Field.number? json = some x ∧ truncate? x = some (n : Int) by
    obtain ⟨x, read, whole⟩ := this
    refine ⟨x, read, ?_⟩
    simp only [sidesOf, whole, Option.getD_some, fewestSides, mostSides]
    omega
  cases written with
  | integer =>
    have small : n < 2 ^ 52 := by omega
    refine ⟨Scalar.ofNat n, ?_, truncate?_ofNat (by omega) small⟩
    simp [Field.number?, Field.finite?, toFloat_ofInt small, isFinite_ofNat small]
  | real finite integral whole =>
    exact ⟨_, by simp [Field.number?, Field.finite?, finite], whole⟩

theorem Slot.read?_of_writes {obj : Json} {slot : Slot} {value : slot.Value Float}
    (written : slot.Writes (obj.field slot.key) value) : slot.read? obj = some value := by
  cases slot with
  | start | finish | base | center | position | offset =>
    exact congrArg some (Json.WritesPoint.read written _)
  | points =>
    obtain ⟨items, list, each⟩ := written
    exact congrArg some (DrawPolyline.points_of_writes list each)
  | closed => exact congrArg some (DrawPolyline.closed_of_writes written)
  | width | height | radius | scale | factor =>
    exact congrArg some (Field.number_of_writes written _)
  | rotation | angle =>
    obtain ⟨degrees, number, rfl⟩ := written
    exact congrArg (some <| Scalar.radians ·) (Field.number_of_writes number _)
  | sides =>
    obtain ⟨integer, enough, few⟩ := written
    obtain ⟨x, read, same⟩ := integer.sides enough few
    rw [← same]
    exact congrArg (some <| sidesOf ·) (congrArg (Option.getD · _) read)
  | name | layer =>
    exact congrArg (some <| Option.getD · _) (Field.text?_of_writesName written)
  | attributes => exact congrArg some (Field.attributeTexts_of_writes written)
  | filter =>
    obtain ⟨filter, rfl, object⟩ := written
    exact read?_filter object.read
  | targetLayer | linetype =>
    obtain ⟨name, rfl, solid⟩ := written
    exact congrArg some (Field.text?_of_writesName solid)
  | color =>
    obtain ⟨n, rfl, integer⟩ := written
    exact read?_color integer.read
  | linetypeScale =>
    obtain ⟨x, rfl, number⟩ := written
    exact congrArg some number.read

namespace Action

theorem kindOf?_name (kind : ActionKind) : kindOf? kind.name = some kind := by
  cases kind <;> decide +kernel

/--
Every kind of action has its shape in the prompt. Whatever object has this shape is read as an
action of the kind, and each slot of the action has the very value that the object writes.
-/
theorem decode_of_hasShape {obj : Json} {kind : ActionKind} (shaped : obj.HasShape kind) :
    (∃ before after, Prompt.planner = before ++ Prompt.shape kind ++ after) ∧
      ∃ action, decode obj = .ok (.ok action) ∧ action.kind = kind ∧
        ∀ slot ∈ kind.slots, ∀ value, slot.Writes (obj.field slot.key) value →
          action.value? slot = some value := by
  refine ⟨Prompt.planner_shows kind, ?_⟩
  have reads : ∀ slot ∈ kind.slots, (slot.read? obj).isSome = true := by
    intro slot owned
    obtain ⟨value, written⟩ := shaped.slots slot owned
    rw [Slot.read?_of_writes written]
    rfl
  obtain ⟨action, read⟩ := exists_of_reads kind.name reads
  rw [decode_eq_readAs shaped.action (kindOf?_name kind)]
  refine ⟨action, read, kind_of_readAs read, fun slot owned value written => ?_⟩
  rw [values_of_readAs read slot owned, Slot.read?_of_writes written]

theorem decode_of_hasShape_of_move :
    let float (n : Int) : Float := (Decimal.ofInt n).toFloat
    let pair (m n : Int) : Json := .list [.integer m, .integer n]
    let obj : Json := .object [("action", .text "move"),
      ("filter", .object [("layer", .text "WIRE"), ("window", .list [pair 0 0, pair 10 5])]),
      ("offset", pair (-3) 4)]
    ∃ action, decode obj = .ok (.ok action) ∧ action.kind = .move ∧
      action.value? .offset = some ⟨float (-3), float 4⟩ ∧
      action.value? .filter =
        some (some ⟨some "WIRE", none, some (⟨float 0, float 0⟩, ⟨float 10, float 5⟩), none⟩) := by
  intro float pair obj
  have point (m n : Int) (first : isFinite (float m) = true) (second : isFinite (float n) = true) :
      (pair m n).WritesPoint ⟨float m, float n⟩ := .pair (.integer first) (.integer second)
  have offset : Slot.offset.Writes (obj.field "offset") ⟨float (-3), float 4⟩ :=
    point (-3) 4 (by decide +kernel) (by decide +kernel)
  have filter : Slot.filter.Writes (obj.field "filter")
      (some ⟨some "WIRE", none, some (⟨float 0, float 0⟩, ⟨float 10, float 5⟩), none⟩) := by
    refine ⟨_, rfl, ⟨_, rfl⟩, .given (.text "WIRE"), .missing, .given ?_, .missing⟩
    exact .corners (point 0 0 (by decide +kernel) (by decide +kernel))
      (point 10 5 (by decide +kernel) (by decide +kernel))
  have shaped : obj.HasShape .move := by
    refine ⟨rfl, List.forall_mem_cons.mpr ⟨⟨_, filter⟩, ?_⟩⟩
    exact List.forall_mem_cons.mpr ⟨⟨_, offset⟩, List.forall_mem_nil _⟩
  obtain ⟨-, action, read, kind, values⟩ := decode_of_hasShape shaped
  exact ⟨action, read, kind, values .offset (by decide) _ offset,
    values .filter (by decide) _ filter⟩

end Action

end DrawingPlan
