import DrawingPlan.Proofs.Json.Trim

set_option autoImplicit false

namespace DrawingPlan.Json

inductive Tree where
  | leaf (json : Json)
  | list (items : List Tree)
  | object (fields : List (Text × Tree))

def joined : List (List Token) → List Token
  | [] => []
  | part :: rest => part ++ rest.flatMap (.comma :: ·)

def followed (parts : List (List Token)) : List Token :=
  parts.flatMap (· ++ [.comma])

def entryTokens (key : Text) (value : List Token) : List Token :=
  .value (.text key) :: .colon :: value

namespace Tree

mutual

def tokens : Tree → List Token
  | .leaf json => [.value json]
  | .list items => .openList :: (joined (itemParts items) ++ [.closeList])
  | .object fields => .openObject :: (joined (fieldParts fields) ++ [.closeObject])

def itemParts : List Tree → List (List Token)
  | [] => []
  | item :: rest => item.tokens :: itemParts rest

def fieldParts : List (Text × Tree) → List (List Token)
  | [] => []
  | (key, value) :: rest => entryTokens key value.tokens :: fieldParts rest

end

mutual

def json : Tree → Json
  | .leaf json => json
  | .list items => .list (itemValues items)
  | .object fields => ofFields (fieldValues fields)

def itemValues : List Tree → List Json
  | [] => []
  | item :: rest => item.json :: itemValues rest

def fieldValues : List (Text × Tree) → List (Text × Json)
  | [] => []
  | (key, value) :: rest => (key, value.json) :: fieldValues rest

end

theorem itemParts_eq (items : List Tree) : itemParts items = items.map tokens := by
  induction items with
  | nil => rfl
  | cons item rest ih => simp [itemParts, ih]

theorem fieldParts_eq (fields : List (Text × Tree)) :
    fieldParts fields = fields.map fun field => entryTokens field.1 field.2.tokens := by
  induction fields with
  | nil => rfl
  | cons field rest ih => simp [fieldParts, ih]

theorem itemValues_eq (items : List Tree) : itemValues items = items.map json := by
  induction items with
  | nil => rfl
  | cons item rest ih => simp [itemValues, ih]

theorem fieldValues_eq (fields : List (Text × Tree)) :
    fieldValues fields = fields.map fun field => (field.1, field.2.json) := by
  induction fields with
  | nil => rfl
  | cons field rest ih => simp [fieldValues, ih]

theorem itemParts_ne_nil {items : List Tree} (some : items ≠ []) : itemParts items ≠ [] := by
  simpa [itemParts_eq] using some

theorem fieldParts_ne_nil {fields : List (Text × Tree)} (some : fields ≠ []) :
    fieldParts fields ≠ [] := by
  simpa [fieldParts_eq] using some

end Tree

theorem flatMap_comma (parts : List (List Token)) :
    parts.flatMap (.comma :: ·) ++ [Token.comma] = .comma :: followed parts := by
  induction parts with
  | nil => rfl
  | cons part rest ih =>
    simp only [followed, List.flatMap_cons, List.append_assoc, ih, List.cons_append] at ih ⊢
    rfl

theorem joined_comma {parts : List (List Token)} (some : parts ≠ []) :
    joined parts ++ [.comma] = followed parts := by
  obtain ⟨first, rest, rfl⟩ := List.exists_cons_of_ne_nil some
  rw [joined, List.append_assoc, flatMap_comma]
  simp [followed]

theorem joined_concat (parts : List (List Token)) (last : List Token) :
    joined (parts ++ [last]) = followed parts ++ last := by
  cases parts with
  | nil => simp [joined, followed]
  | cons first rest =>
    rw [← joined_comma (List.cons_ne_nil first rest)]
    simp [joined]

def Token.opens? : Token → Option Container
  | .openList => some .list
  | .openObject => some .object
  | _ => none

def Waiting.around? : Waiting → Option (List Frame)
  | .forValue stack => some stack
  | .forItem stack => some (.list [] :: stack)
  | _ => none

/-- Tokens up to a place for a value, with the frames of the containers that are open there. -/
inductive Opened : List Frame → List Token → Prop
  | outside : Opened [] []
  | list {stack : List Frame} {outer : List Token} (around : Opened stack outer)
      (items : List Tree) :
      Opened (.list (Tree.itemValues items).reverse :: stack)
        (outer ++ .openList :: followed (Tree.itemParts items))
  | object {stack : List Frame} {outer : List Token} (around : Opened stack outer)
      (fields : List (Text × Tree)) (key : Text) :
      Opened (.object (Tree.fieldValues fields).reverse key :: stack)
        (outer ++ .openObject :: (followed (Tree.fieldParts fields) ++ entryTokens key []))

/-- The tokens that lead to a state: what is complete of every open container, and what is begun. -/
def Consumed : Waiting → List Token → Prop
  | .forValue stack, front => Opened stack front
  | .forItem stack, front => ∃ outer, Opened stack outer ∧ front = outer ++ [.openList]
  | .forKey stack values _, front => ∃ outer fields, Opened stack outer ∧
    values = (Tree.fieldValues fields).reverse ∧
      front = outer ++ .openObject :: followed (Tree.fieldParts fields)
  | .forColon stack values key, front => ∃ outer fields, Opened stack outer ∧
    values = (Tree.fieldValues fields).reverse ∧
      front = outer ++ .openObject :: (followed (Tree.fieldParts fields) ++ [.value (.text key)])
  | .forNext stack (.list values), front => ∃ outer items, Opened stack outer ∧ items ≠ [] ∧
    values = (Tree.itemValues items).reverse ∧
      front = outer ++ .openList :: joined (Tree.itemParts items)
  | .forNext stack (.object values _), front => ∃ outer fields, Opened stack outer ∧ fields ≠ [] ∧
    values = (Tree.fieldValues fields).reverse ∧
      front = outer ++ .openObject :: joined (Tree.fieldParts fields)
  | .forEnd json, front => ∃ tree : Tree, tree.json = json ∧ tree.tokens = front

theorem consumed_settle {stack : List Frame} {outer : List Token} (opened : Opened stack outer)
    (tree : Tree) : Consumed (settle tree.json stack) (outer ++ tree.tokens) := by
  cases opened with
  | outside => exact ⟨tree, rfl, rfl⟩
  | @list stack outer around items =>
    refine ⟨outer, items ++ [tree], around, by simp, ?_, ?_⟩
    · simp [Tree.itemValues_eq]
    · simp [Tree.itemParts_eq, joined_concat]
  | @object stack outer around fields key =>
    refine ⟨outer, fields ++ [(key, tree)], around, by simp, ?_, ?_⟩
    · simp [Tree.fieldValues_eq]
    · simp [Tree.fieldParts_eq, joined_concat, entryTokens]

theorem opened_of_consumed {waiting : Waiting} {stack : List Frame} {front : List Token}
    (sofar : Consumed waiting front) (around : waiting.around? = some stack) :
    Opened stack front := by
  cases waiting with
  | forValue stack =>
    cases around
    exact sofar
  | forItem stack =>
    cases around
    obtain ⟨outer, opened, rfl⟩ := sofar
    exact opened.list []
  | _ => cases around

variable [Nesting]

section Steps

variable {waiting next : Waiting} {stack : List Frame} {located : Located} {container : Container}

theorem step_of_around (around : waiting.around? = some stack)
    (unclosed : located.token ≠ .closeList) :
    step waiting located = takeValue stack located := by
  cases waiting with
  | forValue | forItem =>
    cases around
    obtain ⟨token, position⟩ := located
    cases token with
    | closeList => exact absurd rfl unclosed
    | _ => rfl
  | _ => cases around

theorem takeValue_tooDeep_iff : takeValue stack located = .error (.tooDeep container) ↔
    located.token.opens? = some container ∧ deepest ≤ stack.length := by
  obtain ⟨token, position⟩ := located
  cases token with
  | openList | openObject =>
    by_cases room : stack.length < deepest
    · simp [takeValue, enter, room, Token.opens?, Bind.bind, Except.bind, Pure.pure, Except.pure]
    · have deep : deepest ≤ stack.length := by omega
      simp [takeValue, enter, room, deep, Token.opens?, Bind.bind, Except.bind]
  | _ => simp [takeValue, Token.opens?]

theorem step_tooDeep_iff : step waiting located = .error (.tooDeep container) ↔
    located.token.opens? = some container ∧
      ∃ stack, waiting.around? = some stack ∧ deepest ≤ stack.length := by
  constructor
  · intro failed
    have around : ∃ stack, waiting.around? = some stack := by
      obtain ⟨token, position⟩ := located
      cases waiting with
      | forValue stack => exact ⟨stack, rfl⟩
      | forItem stack => exact ⟨_, rfl⟩
      | forKey stack fields opened =>
        cases token with
        | value json => cases fields <;> cases opened <;> cases json <;> cases failed
        | _ => cases fields <;> cases opened <;> cases failed
      | forNext stack frame => cases frame <;> cases token <;> cases failed
      | _ => cases token <;> cases failed
    obtain ⟨stack, around⟩ := around
    have unclosed : located.token ≠ .closeList := by
      intro closed
      cases waiting with
      | forValue | forItem => simp [step, takeValue, closed] at failed
      | _ => cases around
    rw [step_of_around around unclosed, takeValue_tooDeep_iff] at failed
    exact ⟨failed.1, stack, around, failed.2⟩
  · rintro ⟨opened, stack, around, deep⟩
    have unclosed : located.token ≠ .closeList := by
      intro closed
      simp [closed, Token.opens?] at opened
    rw [step_of_around around unclosed, takeValue_tooDeep_iff]
    exact ⟨opened, deep⟩

end Steps

def run (waiting : Waiting) (written : List Token) : Except Trouble Waiting :=
  written.foldlM (fun reached token => step reached ⟨token, 0⟩) waiting

def TooDeep {β : Type} (result : Except Trouble β) : Prop :=
  ∃ container, result = .error (.tooDeep container)

def Passes (waiting : Waiting) (written : List Token) (next : Waiting) : Prop :=
  run waiting written = .ok next ∨ TooDeep (run waiting written)

section Passing

variable {waiting between next : Waiting} {stack : List Frame} {written later : List Token}

theorem run_split (waiting : Waiting) (written later : List Token) :
    run waiting (written ++ later) = run waiting written >>= fun next => run next later := by
  simp only [run, List.foldlM_append]

theorem tooDeep_append (deep : TooDeep (run waiting written)) (later : List Token) :
    TooDeep (run waiting (written ++ later)) := by
  obtain ⟨container, failed⟩ := deep
  exact ⟨container, by rw [run_split, failed]; rfl⟩

namespace Passes

theorem refl (waiting : Waiting) : Passes waiting [] waiting :=
  .inl rfl

theorem append (first : Passes waiting written between) (second : Passes between later next) :
    Passes waiting (written ++ later) next := by
  rcases first with reached | deep
  · have onward : run waiting (written ++ later) = run between later := by
      rw [run_split, reached]
      rfl
    simpa only [Passes, onward] using second
  · exact .inr (tooDeep_append deep later)

theorem single {token : Token} (stepped : step waiting ⟨token, 0⟩ = .ok next) :
    Passes waiting [token] next := by
  refine .inl ?_
  simp only [run, List.foldlM_cons, stepped]
  rfl

theorem cons {token : Token} (stepped : step waiting ⟨token, 0⟩ = .ok between)
    (rest : Passes between later next) : Passes waiting (token :: later) next :=
  (single stepped).append rest

theorem entering {token : Token} {container : Container} (stack : List Frame)
    (opened : token.opens? = some container) (around : waiting.around? = some stack)
    (stepped : stack.length < deepest → step waiting ⟨token, 0⟩ = .ok next) :
    Passes waiting [token] next := by
  by_cases room : stack.length < deepest
  · exact single (stepped room)
  · refine .inr ⟨container, ?_⟩
    have failed : step waiting ⟨token, 0⟩ = .error (.tooDeep container) :=
      step_tooDeep_iff.mpr ⟨opened, stack, around, by omega⟩
    simp only [run, List.foldlM_cons, failed]
    rfl

end Passes

theorem passes_openList (around : waiting.around? = some stack) :
    Passes waiting [.openList] (.forItem stack) := by
  refine .entering stack rfl around fun room => ?_
  rw [step_of_around around (by simp)]
  simp [takeValue, enter, room, Bind.bind, Except.bind, Pure.pure, Except.pure]

theorem passes_openObject (around : waiting.around? = some stack) :
    Passes waiting [.openObject] (.forKey stack [] true) := by
  refine .entering stack rfl around fun room => ?_
  rw [step_of_around around (by simp)]
  simp [takeValue, enter, room, Bind.bind, Except.bind, Pure.pure, Except.pure]

theorem passes_key {fields : List (Text × Json)} {opened : Bool} {key : Text} :
    Passes (.forKey stack fields opened) [.value (.text key), .colon]
      (.forValue (.object fields key :: stack)) := by
  have named : step (.forKey stack fields opened) ⟨.value (.text key), 0⟩ =
      .ok (.forColon stack fields key) := by
    cases fields <;> cases opened <;> rfl
  exact .cons named (.single rfl)

end Passing

mutual

theorem Tree.passes (tree : Tree) (waiting : Waiting) {stack : List Frame}
    (around : waiting.around? = some stack) :
    Passes waiting tree.tokens (settle tree.json stack) := by
  match tree with
  | .leaf json =>
    refine .single ?_
    rw [step_of_around around (by simp)]
    rfl
  | .list items =>
    have opened := passes_openList around
    by_cases empty : items = []
    · subst empty
      exact opened.append (.single rfl)
    · have closed : Passes (.forNext stack (.list (itemValues items).reverse)) [.closeList]
          (settle (.list (itemValues items)) stack) := .single (by simp [step])
      exact opened.append ((passes_listed items stack empty).append closed)
  | .object fields =>
    have opened := passes_openObject around
    by_cases empty : fields = []
    · subst empty
      exact opened.append (.single rfl)
    · obtain ⟨last, listed⟩ := passes_fields fields stack empty
      have closed : Passes (.forNext stack (.object (fieldValues fields).reverse last))
          [.closeObject] (settle (ofFields (fieldValues fields)) stack) :=
        .single (by simp [step])
      exact opened.append (listed.append closed)

theorem Tree.passes_listed (items : List Tree) (stack : List Frame) (some : items ≠ []) :
    Passes (.forItem stack) (joined (itemParts items))
      (.forNext stack (.list (itemValues items).reverse)) := by
  match items with
  | [] => exact absurd rfl some
  | first :: rest =>
    have own := first.passes (.forItem stack) rfl
    have others := passes_moreItems rest stack [first.json]
    simpa [itemParts, joined, itemValues] using own.append others

theorem Tree.passes_moreItems (items : List Tree) (stack : List Frame) (values : List Json) :
    Passes (.forNext stack (.list values)) ((itemParts items).flatMap (.comma :: ·))
      (.forNext stack (.list ((itemValues items).reverse ++ values))) := by
  match items with
  | [] => exact .refl _
  | item :: rest =>
    have own := item.passes (.forValue (.list values :: stack)) rfl
    have others := passes_moreItems rest stack (item.json :: values)
    have comma : Passes (.forNext stack (.list values)) [.comma]
        (.forValue (.list values :: stack)) := .single rfl
    simpa [itemParts, itemValues] using comma.append (own.append others)

theorem Tree.passes_fields (fields : List (Text × Tree)) (stack : List Frame)
    (some : fields ≠ []) :
    ∃ last, Passes (.forKey stack [] true) (joined (fieldParts fields))
      (.forNext stack (.object (fieldValues fields).reverse last)) := by
  match fields with
  | [] => exact absurd rfl some
  | (key, first) :: rest =>
    have own := first.passes (.forValue (.object [] key :: stack)) rfl
    obtain ⟨last, others⟩ := passes_moreFields rest stack [(key, first.json)] key
    have named : Passes (.forKey stack [] true) [.value (.text key), .colon]
        (.forValue (.object [] key :: stack)) := passes_key
    refine ⟨last, ?_⟩
    simpa [fieldParts, joined, entryTokens, fieldValues] using
      named.append (own.append others)

theorem Tree.passes_moreFields (fields : List (Text × Tree)) (stack : List Frame)
    (values : List (Text × Json)) (key : Text) :
    ∃ last, Passes (.forNext stack (.object values key))
      ((fieldParts fields).flatMap (.comma :: ·))
      (.forNext stack (.object ((fieldValues fields).reverse ++ values) last)) := by
  match fields with
  | [] => exact ⟨key, .refl _⟩
  | (next, value) :: rest =>
    have own := value.passes (.forValue (.object values next :: stack)) rfl
    obtain ⟨last, others⟩ := passes_moreFields rest stack ((next, value.json) :: values) next
    have comma : Passes (.forNext stack (.object values key)) [.comma]
        (.forKey stack values false) := .single rfl
    have named : Passes (.forKey stack values false) [.value (.text next), .colon]
        (.forValue (.object values next :: stack)) := passes_key
    refine ⟨last, ?_⟩
    simpa [fieldParts, entryTokens, fieldValues] using
      comma.append (named.append (own.append others))

end

theorem Opened.passes {stack : List Frame} {front : List Token} (opened : Opened stack front) :
    ∃ waiting, waiting.around? = some stack ∧ Passes (.forValue []) front waiting := by
  induction opened with
  | outside => exact ⟨.forValue [], rfl, .refl _⟩
  | @list stack outer _ items ih =>
    obtain ⟨waiting, around, before⟩ := ih
    have entered := before.append (passes_openList around)
    by_cases empty : items = []
    · subst empty
      exact ⟨.forItem stack, rfl, by simpa [Tree.itemParts, followed] using entered⟩
    · have comma : Passes (.forNext stack (.list (Tree.itemValues items).reverse)) [.comma]
          (.forValue (.list (Tree.itemValues items).reverse :: stack)) := .single rfl
      refine ⟨.forValue (.list (Tree.itemValues items).reverse :: stack), rfl, ?_⟩
      rw [← joined_comma (Tree.itemParts_ne_nil empty)]
      simpa using entered.append ((Tree.passes_listed items stack empty).append comma)
  | @object stack outer _ fields key ih =>
    obtain ⟨waiting, around, before⟩ := ih
    have entered := before.append (passes_openObject around)
    refine ⟨.forValue (.object (Tree.fieldValues fields).reverse key :: stack), rfl, ?_⟩
    by_cases empty : fields = []
    · subst empty
      simpa [Tree.fieldParts, Tree.fieldValues, followed, entryTokens] using
        entered.append passes_key
    · obtain ⟨last, listed⟩ := Tree.passes_fields fields stack empty
      have comma : Passes (.forNext stack (.object (Tree.fieldValues fields).reverse last))
          [.comma] (.forKey stack (Tree.fieldValues fields).reverse false) := .single rfl
      rw [← joined_comma (Tree.fieldParts_ne_nil empty)]
      simpa [entryTokens] using entered.append (listed.append (comma.append passes_key))

theorem eq_of_enter {container : Container} {stack entered : List Frame}
    (inside : enter container stack = .ok entered) : entered = stack := by
  unfold enter at inside
  split at inside <;> cases inside
  rfl

theorem consumed_takeValue {stack : List Frame} {front : List Token} (opened : Opened stack front)
    {located : Located} {next : Waiting} (taken : takeValue stack located = .ok next) :
    Consumed next (front ++ [located.token]) := by
  obtain ⟨token, position⟩ := located
  cases token with
  | value json =>
    cases taken
    exact consumed_settle opened (.leaf json)
  | openList =>
    obtain ⟨entered, inside, reached⟩ := bind_ok taken
    obtain rfl := eq_of_enter inside
    cases reached
    exact ⟨front, opened, rfl⟩
  | openObject =>
    obtain ⟨entered, inside, reached⟩ := bind_ok taken
    obtain rfl := eq_of_enter inside
    cases reached
    exact ⟨front, [], opened, rfl, rfl⟩
  | _ => cases taken

theorem forKey_step {stack : List Frame} {values : List (Text × Json)} {opened : Bool}
    {located : Located} {next : Waiting}
    (stepped : step (.forKey stack values opened) located = .ok next) :
    (∃ key, located.token = .value (.text key) ∧ next = .forColon stack values key) ∨
      located.token = .closeObject ∧ values = [] ∧ next = settle (.object []) stack := by
  obtain ⟨token, position⟩ := located
  cases token with
  | value json =>
    cases values <;> cases opened <;> cases json with
    | text key =>
      cases stepped
      exact .inl ⟨key, rfl, rfl⟩
    | _ => cases stepped
  | closeObject =>
    cases values with
    | cons => cases stepped
    | nil =>
      cases opened <;> cases stepped
      exact .inr ⟨rfl, rfl, rfl⟩
  | _ => cases values <;> cases opened <;> cases stepped

theorem consumed_step {waiting next : Waiting} {front : List Token} (sofar : Consumed waiting front)
    {located : Located} (stepped : step waiting located = .ok next) :
    Consumed next (front ++ [located.token]) := by
  cases waiting with
  | forValue stack => exact consumed_takeValue sofar stepped
  | forItem stack =>
    obtain ⟨outer, around, rfl⟩ := sofar
    by_cases closed : located.token = .closeList
    · have settled : next = settle (.list []) stack := by
        simpa [step, closed, eq_comm] using stepped
      rw [settled, closed, List.append_assoc]
      exact consumed_settle around (.list [])
    · rw [step_of_around rfl closed] at stepped
      exact consumed_takeValue (around.list []) stepped
  | forKey stack values opened =>
    obtain ⟨outer, fields, around, rfl, rfl⟩ := sofar
    rcases forKey_step stepped with ⟨key, named, rfl⟩ | ⟨closed, empty, rfl⟩
    · exact ⟨outer, fields, around, rfl, by simp [named]⟩
    · obtain rfl : fields = [] := by simpa [Tree.fieldValues_eq] using empty
      rw [closed, List.append_assoc]
      exact consumed_settle around (.object [])
  | forColon stack values key =>
    obtain ⟨outer, fields, around, rfl, rfl⟩ := sofar
    obtain ⟨token, position⟩ := located
    cases token with
    | colon =>
      cases stepped
      simpa [Consumed, entryTokens] using around.object fields key
    | _ => cases stepped
  | forNext stack frame =>
    obtain ⟨token, position⟩ := located
    cases frame with
    | list values =>
      obtain ⟨outer, items, around, some, rfl, rfl⟩ := sofar
      cases token with
      | comma =>
        cases stepped
        simpa [Consumed, ← joined_comma (Tree.itemParts_ne_nil some)] using around.list items
      | closeList =>
        cases stepped
        simpa [Tree.tokens, Tree.json] using consumed_settle around (.list items)
      | _ => cases stepped
    | object values key =>
      obtain ⟨outer, fields, around, some, rfl, rfl⟩ := sofar
      cases token with
      | comma =>
        cases stepped
        exact ⟨outer, fields, around, rfl, by simp [← joined_comma (Tree.fieldParts_ne_nil some)]⟩
      | closeObject =>
        cases stepped
        simpa [Tree.tokens, Tree.json] using consumed_settle around (.object fields)
      | _ => cases stepped
  | forEnd json => cases stepped

theorem consumed_foldlM {found : List Located} {waiting next : Waiting} {front : List Token}
    (sofar : Consumed waiting front) (reached : found.foldlM step waiting = .ok next) :
    Consumed next (front ++ found.map Located.token) := by
  induction found generalizing waiting front with
  | nil =>
    cases reached
    simpa using sofar
  | cons located rest ih =>
    obtain ⟨between, stepped, onward⟩ := bind_ok reached
    simpa using ih (consumed_step sofar stepped) onward

def Writes (text : Text) (root : Json) : Prop :=
  text.symbols.head? ≠ some (.char '\uFEFF') ∧
    ∃ tree : Tree, tree.tokens = (tokens text.symbols).map Located.token ∧ tree.json = root

/-- Before anything else is wrong with it, a container opens inside as many as may be nested. -/
def Overnested (text : Text) : Prop :=
  text.symbols.head? ≠ some (.char '\uFEFF') ∧
    ∃ front opening back stack, (tokens text.symbols).map Located.token = front ++ opening :: back ∧
      opening.opens?.isSome = true ∧ Opened stack front ∧ deepest ≤ stack.length

theorem foldlM_ok_of_run {found : List Located} {waiting next : Waiting}
    (reached : run waiting (found.map Located.token) = .ok next) :
    found.foldlM step waiting = .ok next := by
  have placeless : (found.map fun located => (⟨located.token, 0⟩ : Located)).foldlM step waiting =
      .ok next := by
    simpa only [run, List.foldlM_map] using reached
  exact foldlM_of_tokens (by simp) placeless

theorem foldlM_tooDeep_of_run {found : List Located} {waiting : Waiting} {container : Container}
    (deep : run waiting (found.map Located.token) = .error (.tooDeep container)) :
    found.foldlM step waiting = .error (.tooDeep container) := by
  induction found generalizing waiting with
  | nil => cases deep
  | cons located rest ih =>
    rw [List.foldlM_cons]
    rcases bind_error deep with own | ⟨next, stepped, later⟩
    · have again : step waiting located = .error (.tooDeep container) := by
        rw [step_tooDeep_iff] at own ⊢
        exact own
      rw [again]
      rfl
    · have again : step waiting located = .ok next := (step_ok stepped).2 located.position
      rw [again]
      exact ih later

theorem exists_of_foldlM_error {found : List Located} {waiting : Waiting} {trouble : Trouble}
    (failed : found.foldlM step waiting = .error trouble) :
    ∃ front located back between, found = front ++ located :: back ∧
      front.foldlM step waiting = .ok between ∧ step between located = .error trouble := by
  induction found generalizing waiting with
  | nil => cases failed
  | cons first rest ih =>
    rcases bind_error failed with own | ⟨next, stepped, later⟩
    · exact ⟨[], first, rest, waiting, rfl, rfl, own⟩
    · obtain ⟨front, located, back, between, rfl, reached, stopped⟩ := ih later
      refine ⟨first :: front, located, back, between, rfl, ?_, stopped⟩
      rw [List.foldlM_cons, stepped]
      exact reached

theorem readTokens_tooDeep_iff {symbols : List Symbol} {container : Container} :
    readTokens symbols = .error (.tooDeep container) ↔
      symbols.head? ≠ some (.char '\uFEFF') ∧
        (tokens symbols).foldlM step (.forValue []) = .error (.tooDeep container) := by
  unfold readTokens
  split
  · simp
  · next unmarked =>
    have start : symbols.head? ≠ some (.char '\uFEFF') := by
      intro first
      obtain ⟨rest, rfl⟩ := List.head?_eq_some_iff.mp first
      exact unmarked rest rfl
    -- The end of a text is never too deep.
    have ended (waiting : Waiting) :
        finish symbols.length waiting ≠ .error (.tooDeep container) := by
      cases waiting <;> simp [finish]
    rw [bind_error_iff]
    simp [start, ended]

theorem read_error_tooDeep_iff {text : Text} {container : Container} :
    read text = .error (.tooDeep container) ↔
      readTokens text.symbols = .error (.tooDeep container) := by
  cases found : readTokens text.symbols with
  | ok root => simp [read, found, Except.mapError]
  | error trouble => cases trouble <;> simp [read, found, Except.mapError]

theorem read_tooDeep_iff {text : Text} :
    (∃ container, read text = .error (.tooDeep container)) ↔ Overnested text := by
  simp only [read_error_tooDeep_iff, readTokens_tooDeep_iff]
  constructor
  · rintro ⟨container, unmarked, failed⟩
    obtain ⟨front, located, back, between, same, reached, stopped⟩ := exists_of_foldlM_error failed
    obtain ⟨opens, stack, around, deep⟩ := step_tooDeep_iff.mp stopped
    have start : Consumed (.forValue []) [] := .outside
    refine ⟨unmarked, front.map Located.token, located.token, back.map Located.token, stack,
      by simp [same], by simp [opens], ?_, deep⟩
    simpa using opened_of_consumed (consumed_foldlM start reached) around
  · rintro ⟨unmarked, front, opening, back, stack, same, opens, opened, deep⟩
    have overfull : TooDeep (run (.forValue []) (front ++ opening :: back)) := by
      obtain ⟨waiting, around, reached | before⟩ := opened.passes
      · obtain ⟨container, opens⟩ := Option.isSome_iff_exists.mp opens
        have stopped : step waiting ⟨opening, 0⟩ = .error (.tooDeep container) :=
          step_tooDeep_iff.mpr ⟨opens, stack, around, deep⟩
        refine ⟨container, ?_⟩
        rw [run_split, reached]
        simp only [run, List.foldlM_cons, stopped, Bind.bind, Except.bind]
      · exact tooDeep_append before _
    obtain ⟨container, failed⟩ := overfull
    rw [← same] at failed
    exact ⟨container, unmarked, foldlM_tooDeep_of_run failed⟩

/-- The reader gives the value of a text exactly when the text writes one and is not too deep. -/
theorem read_eq_ok_iff {text : Text} {root : Json} :
    read text = .ok root ↔ Writes text root ∧ ¬Overnested text := by
  constructor
  · intro readable
    obtain ⟨unmarked, reached⟩ := readTokens_ok_iff.mp (read_ok_iff.mp readable)
    have start : Consumed (.forValue []) [] := .outside
    obtain ⟨tree, value, written⟩ := consumed_foldlM start reached
    refine ⟨⟨unmarked, tree, by simpa using written, value⟩, fun deep => ?_⟩
    obtain ⟨container, failed⟩ := read_tooDeep_iff.mpr deep
    rw [readable] at failed
    cases failed
  · rintro ⟨⟨unmarked, tree, written, rfl⟩, shallow⟩
    rcases tree.passes (.forValue []) rfl with reached | ⟨container, failed⟩
    · rw [written] at reached
      exact read_ok_iff.mpr (readTokens_ok_iff.mpr ⟨unmarked, foldlM_ok_of_run reached⟩)
    · rw [written] at failed
      have deep := readTokens_tooDeep_iff.mpr ⟨unmarked, foldlM_tooDeep_of_run failed⟩
      exact absurd (read_tooDeep_iff.mp ⟨container, read_error_tooDeep_iff.mpr deep⟩) shallow

end DrawingPlan.Json
