import DrawingPlan.Json.Reader
import DrawingPlan.Json.Shown
import DrawingPlan.Proofs.Entries
import DrawingPlan.Proofs.Except
import Mathlib.Data.Nat.Digits.Defs

set_option autoImplicit false

namespace DrawingPlan

namespace Number

theorem ofDigits_lt {digits : List Nat} (decimal : ∀ digit ∈ digits, digit < 10) :
    ofDigits digits < 10 ^ digits.length := by
  have general : ∀ (rest : List Nat) (start : Nat), (∀ digit ∈ rest, digit < 10) →
      rest.foldl (fun n d => 10 * n + d) start < (start + 1) * 10 ^ rest.length := by
    intro rest
    induction rest with
    | nil => intro start _; simp
    | cons digit rest ih =>
      intro start decimal
      obtain ⟨own, others⟩ := List.forall_mem_cons.mp decimal
      calc
        _ < (10 * start + digit + 1) * 10 ^ rest.length := ih _ others
        _ ≤ (10 * (start + 1)) * 10 ^ rest.length := Nat.mul_le_mul_right _ (by omega)
        _ = (start + 1) * 10 ^ (rest.length + 1) := by rw [Nat.pow_succ]; ring
  simpa [ofDigits] using general digits 0 decimal

theorem decimalLength_of_integerOf {negative : Bool} {digits : List Nat} {n : Int}
    (some : digits ≠ []) (decimal : ∀ digit ∈ digits, digit < 10)
    (read : integerOf negative digits = .ok n) : decimalLength n.natAbs ≤ digitLimit := by
  rw [integerOf] at read
  split at read
  · cases read
  · next short =>
    have size : n.natAbs = ofDigits digits := by
      cases negative <;> cases read <;> simp
    have bound := Nat.toDigits_length 10 (ofDigits digits) digits.length
      (List.length_pos_iff.mpr some) (ofDigits_lt decimal)
    rw [size, decimalLength]
    omega

end Number

namespace Json

def Shows (room : Nat) (json : Json) : Prop :=
  ∀ counted, json.hindrance? counted room = none

section Shows

variable {room : Nat}

theorem shows_integer {n : Int} (short : Number.decimalLength n.natAbs ≤ Number.digitLimit) :
    (Json.integer n).Shows room := by
  intro counted
  have fits : ¬Number.digitLimit < Number.decimalLength n.natAbs := by omega
  simp only [hindrance?, fits, and_false, if_false]

theorem shows_list {items : List Json} (inside : ∀ item ∈ items, item.Shows room) :
    (Json.list items).Shows (room + 1) := by
  intro counted
  rw [hindrance?]
  induction items with
  | nil => rfl
  | cons item rest ih =>
    obtain ⟨own, others⟩ := List.forall_mem_cons.mp inside
    rw [hindranceOfItems?, own counted, Option.none_or, ih others]

theorem hindranceOfFields?_eq_none_iff {counted : Nat} {fields : List (Text × Json)} :
    hindranceOfFields? counted room fields = none ↔
      ∀ field ∈ fields, field.2.hindrance? counted room = none := by
  induction fields with
  | nil => simp [hindranceOfFields?]
  | cons field rest ih => simp [hindranceOfFields?, Option.or_eq_none_iff, ih]

theorem shows_object {fields : List (Text × Json)}
    (inside : ∀ field ∈ fields, field.2.Shows room) : (Json.object fields).Shows (room + 1) := by
  intro counted
  rw [hindrance?, hindranceOfFields?_eq_none_iff]
  exact fun field member => inside field member counted

theorem shows_ofFields {fields : List (Text × Json)}
    (inside : ∀ field ∈ fields, field.2.Shows room) : (ofFields fields).Shows (room + 1) := by
  have put : ∀ (written known : List (Text × Json)), (∀ field ∈ written, field.2.Shows room) →
      (∀ field ∈ known, field.2.Shows room) → ∀ field ∈ putEntries written known,
        field.2.Shows room := by
    intro written
    induction written with
    | nil => intro known _ old; exact old
    | cons field rest ih =>
      intro known new old
      obtain ⟨own, others⟩ := List.forall_mem_cons.mp new
      refine ih _ others fun other member => ?_
      rcases mem_putEntry member with rfl | before
      · exact own
      · exact old other before
  exact shows_object (put fields [] inside (by simp))

mutual

theorem hindrance?_succ {counted : Nat} :
    ∀ {json : Json} {room : Nat}, json.hindrance? counted room = none →
      json.hindrance? counted (room + 1) = none
  | .null, _, _ | .bool _, _, _ | .real _, _, _ | .text _, _, _ => rfl
  | .integer _, _, free => by rwa [hindrance?] at free ⊢
  | .list _, room + 1, free => hindranceOfItems?_succ free
  | .object _, room + 1, free => hindranceOfFields?_succ free

theorem hindranceOfItems?_succ {counted : Nat} :
    ∀ {items : List Json} {room : Nat}, hindranceOfItems? counted room items = none →
      hindranceOfItems? counted (room + 1) items = none
  | [], _, _ => rfl
  | item :: rest, room, free => by
    rw [hindranceOfItems?, Option.or_eq_none_iff] at free ⊢
    exact ⟨hindrance?_succ free.1, hindranceOfItems?_succ free.2⟩

theorem hindranceOfFields?_succ {counted : Nat} :
    ∀ {fields : List (Text × Json)} {room : Nat}, hindranceOfFields? counted room fields = none →
      hindranceOfFields? counted (room + 1) fields = none
  | [], _, _ => rfl
  | field :: rest, room, free => by
    rw [hindranceOfFields?, Option.or_eq_none_iff] at free ⊢
    exact ⟨hindrance?_succ free.1, hindranceOfFields?_succ free.2⟩

end

theorem Shows.render {json : Json} (shown : json.Shows room) (counted : Nat) :
    json.render counted room = .ok json.plain := by
  rw [Json.render, shown counted]

theorem Shows.field? {json value : Json} {key : Text} (shown : json.Shows room)
    (found : json.field? key = some value) : value.Shows room := by
  cases json with
  | object fields =>
    cases room with
    | zero => cases shown 0
    | succ room =>
      obtain ⟨before, after, rfl, -⟩ := List.lookup_eq_some_iff.mp found
      intro counted
      have inside := hindranceOfFields?_eq_none_iff.mp (shown counted) (key, value) (by simp)
      exact hindrance?_succ inside
  | _ => cases found

end Shows

def Token.Plain : Token → Prop
  | .value json => ∀ room, json.Shows room
  | _ => True

theorem spanAscii_decimal (symbols : List Symbol) :
    ∀ digit ∈ (spanAscii symbols).1, digit < 10 := by
  induction symbols with
  | nil => simp [spanAscii]
  | cons symbol rest ih =>
    rw [spanAscii]
    split
    · next ascii =>
      refine List.forall_mem_cons.mpr ⟨?_, ih⟩
      cases symbol with
      | half unit => cases ascii
      | char c =>
        have bound : c.toNat ≤ 57 := by
          have digit : c.isDigit = true := ascii
          simp only [Char.isDigit, Bool.and_eq_true, decide_eq_true_eq] at digit
          exact digit.2
        simp only [Symbol.code]
        omega
    · simp

theorem plain_numberToken (negative : Bool) {whole : List Nat} (fraction : List Nat)
    (exponent : Option Int) (some : whole ≠ []) (decimal : ∀ digit ∈ whole, digit < 10) :
    (numberToken negative whole fraction exponent).Plain := by
  rw [numberToken]
  split
  · split
    · trivial
    · next n read =>
      exact fun room => shows_integer (Number.decimalLength_of_integerOf some decimal read)
  · exact fun room counted => rfl

theorem plain_scanNumber {negative : Bool} {symbols : List Symbol} {found : Token × Nat}
    (scanned : scanNumber negative symbols = some found) : found.1.Plain := by
  have decimal : ∀ digit ∈ (spanWhole symbols).1, digit < 10 := by
    unfold spanWhole
    split
    · simp
    · exact spanAscii_decimal symbols
  rw [scanNumber] at scanned
  split at scanned
  · cases scanned
  · next whole after nonempty spanned =>
    rw [spanned] at decimal
    cases scanned
    exact plain_numberToken negative _ _ nonempty decimal

theorem plain_scanSigned {symbols : List Symbol} {found : Token × Nat}
    (scanned : scanSigned symbols = some found) : found.1.Plain := by
  unfold scanSigned at scanned
  split at scanned
  · obtain ⟨unsigned, read, rfl⟩ := Option.map_eq_some_iff.mp scanned
    have plain : unsigned.1.Plain := plain_scanNumber read
    exact plain
  · exact plain_scanNumber scanned

theorem plain_scanWord {symbols : List Symbol} {found : Token × Nat}
    (scanned : scanWord symbols = some found) : found.1.Plain := by
  obtain ⟨word, member, read⟩ := List.exists_of_findSome?_eq_some scanned
  have flat : ∀ word ∈ words, ∀ room, word.2.Shows room := by
    simp only [words, List.forall_mem_cons, List.not_mem_nil, false_implies, implies_true,
      and_true]
    exact ⟨fun _ _ => rfl, fun _ _ => rfl, fun _ _ => rfl, fun _ _ => rfl, fun _ _ => rfl,
      fun _ _ => rfl⟩
  dsimp only at read
  split at read
  · cases read
    exact flat word member
  · cases read

theorem plain_scanToken (symbols : List Symbol) : (scanToken symbols).1.Plain := by
  unfold scanToken
  split
  case h_7 =>
    split
    · trivial
    · exact fun room counted => rfl
  case h_8 =>
    cases scanned : (scanWord symbols).or (scanSigned symbols) with
    | none => trivial
    | some found =>
      rcases Option.or_eq_some_iff.mp scanned with word | ⟨-, number⟩
      · exact plain_scanWord word
      · exact plain_scanSigned number
  all_goals trivial

theorem plain_tokensFrom (skip position : Nat) (symbols : List Symbol) :
    ∀ located ∈ tokensFrom skip position symbols, located.token.Plain := by
  induction symbols generalizing skip position with
  | nil => simp [tokensFrom]
  | cons symbol rest ih =>
    cases skip with
    | succ skip => exact ih skip (position + 1)
    | zero =>
      cases space : isSpace symbol with
      | true => simpa only [tokensFrom, space, if_true] using ih 0 (position + 1)
      | false =>
        simp only [tokensFrom, space, Bool.false_eq_true, if_false]
        refine List.forall_mem_cons.mpr ⟨plain_scanToken (symbol :: rest), ?_⟩
        split
        · simp
        · exact ih _ (position + 1)

section Reading

variable [Nesting]

def Frame.Shows (room : Nat) : Frame → Prop
  | .list items => ∀ item ∈ items, item.Shows room
  | .object fields _ => ∀ field ∈ fields, field.2.Shows room

/-- Around each frame there are those below it, which leave that much less room to it. -/
def ShownStack : List Frame → Prop
  | [] => True
  | frame :: below =>
    below.length < deepest ∧ frame.Shows (deepest - (below.length + 1)) ∧ ShownStack below

def Waiting.Shows : Waiting → Prop
  | .forValue stack => ShownStack stack
  | .forItem stack => ShownStack (.list [] :: stack)
  | .forKey stack fields _ => ShownStack (.object fields "" :: stack)
  | .forColon stack fields _ => ShownStack (.object fields "" :: stack)
  | .forNext stack frame => ShownStack (frame :: stack)
  | .forEnd json => json.Shows deepest

theorem shows_settle {json : Json} {stack : List Frame}
    (own : json.Shows (deepest - stack.length)) (others : ShownStack stack) :
    (settle json stack).Shows := by
  cases stack with
  | nil => exact own
  | cons frame below =>
    obtain ⟨room, inside, around⟩ := others
    cases frame with
    | list items => exact ⟨room, List.forall_mem_cons.mpr ⟨own, inside⟩, around⟩
    | object fields key => exact ⟨room, List.forall_mem_cons.mpr ⟨own, inside⟩, around⟩

theorem shows_takeValue {stack : List Frame} {located : Located} {next : Waiting}
    (shown : ShownStack stack) (plain : located.token.Plain)
    (taken : takeValue stack located = .ok next) : next.Shows := by
  obtain ⟨token, position⟩ := located
  cases token with
  | value json =>
    cases taken
    exact shows_settle (plain _) shown
  | openList | openObject =>
    by_cases room : stack.length < deepest
    · simp only [takeValue, enter, room, if_true] at taken
      cases taken
      exact ⟨room, by simp [Frame.Shows], shown⟩
    · simp only [takeValue, enter, room, if_false] at taken
      cases taken
  | _ => cases taken

theorem shows_closed {frame : Frame} {below : List Frame} (shown : ShownStack (frame :: below))
    {json : Json} (whole : ∀ room, frame.Shows room → json.Shows (room + 1)) :
    (settle json below).Shows := by
  obtain ⟨room, inside, around⟩ := shown
  refine shows_settle ?_ around
  have left : deepest - below.length = deepest - (below.length + 1) + 1 := by omega
  rw [left]
  exact whole _ inside

theorem shows_step {waiting next : Waiting} {located : Located} (shown : waiting.Shows)
    (plain : located.token.Plain) (stepped : step waiting located = .ok next) : next.Shows := by
  unfold step at stepped
  split at stepped
  case h_1 | h_3 => exact shows_takeValue shown plain stepped
  all_goals cases stepped
  -- Where a container ends it becomes a value, with room for one container more.
  case h_2 => exact shows_closed shown fun _ _ => shows_list (by simp)
  case h_4 => exact shows_closed shown fun _ _ => shows_object (by simp)
  case h_11 =>
    exact shows_closed shown fun _ inside => shows_list (by simpa [Frame.Shows] using inside)
  case h_13 =>
    exact shows_closed shown fun _ inside => shows_ofFields (by simpa [Frame.Shows] using inside)
  all_goals exact shown

theorem shows_tokens (found : List Located) {waiting reached : Waiting} (shown : waiting.Shows)
    (plain : ∀ located ∈ found, located.token.Plain)
    (ran : found.foldlM step waiting = .ok reached) : reached.Shows := by
  induction found generalizing waiting with
  | nil =>
    cases ran
    exact shown
  | cons located rest ih =>
    obtain ⟨own, others⟩ := List.forall_mem_cons.mp plain
    rw [List.foldlM_cons] at ran
    obtain ⟨next, stepped, later⟩ := bind_ok ran
    exact ih (shows_step shown own stepped) others later

theorem shows_of_read {text : Text} {json : Json} (written : read text = .ok json) :
    json.Shows deepest := by
  have plain := plain_tokensFrom 0 0 text.symbols
  have ran : readTokens text.symbols = .ok json := by
    cases outcome : readTokens text.symbols <;> simp [read, outcome, Except.mapError] at written ⊢
    exact written
  unfold readTokens at ran
  split at ran
  · cases ran
  · obtain ⟨waiting, reached, ended⟩ := bind_ok ran
    have start : (Waiting.forValue []).Shows := trivial
    have shown : waiting.Shows := shows_tokens (tokens text.symbols) start plain reached
    cases waiting with
    | forEnd value =>
      cases ended
      exact shown
    | _ => cases ended

end Reading

end Json

end DrawingPlan
