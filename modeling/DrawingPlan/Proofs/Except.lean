
set_option autoImplicit false

namespace DrawingPlan

variable {β γ ε : Type} {error : ε}

theorem bind_error {first : Except ε β} {next : β → Except ε γ}
    (failed : first >>= next = .error error) :
    first = .error error ∨ ∃ value, first = .ok value ∧ next value = .error error := by
  cases first with
  | error other =>
    cases failed
    exact .inl rfl
  | ok value => exact .inr ⟨value, rfl, failed⟩

theorem bind_error_iff {first : Except ε β} {next : β → Except ε γ} :
    first >>= next = .error error ↔
      first = .error error ∨ ∃ value, first = .ok value ∧ next value = .error error := by
  refine ⟨bind_error, ?_⟩
  rintro (rfl | ⟨value, rfl, failed⟩)
  · rfl
  · exact failed

theorem bind_ok {first : Except ε β} {next : β → Except ε γ} {result : γ}
    (ended : first >>= next = .ok result) :
    ∃ value, first = .ok value ∧ next value = .ok result := by
  cases first with
  | error other => cases ended
  | ok value => exact ⟨value, rfl, ended⟩

theorem map_ok {f : β → γ} {first : Except ε β} {result : γ} (ended : first.map f = .ok result) :
    ∃ value, first = .ok value ∧ f value = result := by
  cases first with
  | error other => cases ended
  | ok value => exact ⟨value, rfl, Except.ok.inj ended⟩

theorem exists_ok_of_map {f : β → γ} {first : Except ε β} {result : γ}
    (told : (first.map f).toOption = some result) :
    ∃ value, first = .ok value ∧ f value = result := by
  cases first with
  | error other => cases told
  | ok value => exact ⟨value, rfl, Option.some.inj told⟩

theorem eq_ok_of_isOk {result : Except ε Unit} (ended : result.isOk = true) :
    result = .ok () := by
  cases result with
  | error other => cases ended
  | ok value => rfl

theorem mapM_error {f : β → Except ε γ} {items : List β}
    (failed : items.mapM f = .error error) : ∃ item ∈ items, f item = .error error := by
  induction items with
  | nil => cases failed
  | cons first rest ih =>
    rw [List.mapM_cons] at failed
    rcases bind_error failed with own | ⟨value, -, later⟩
    · exact ⟨first, by simp, own⟩
    · rcases bind_error later with others | ⟨values, -, ended⟩
      · obtain ⟨item, inside, found⟩ := ih others
        exact ⟨item, List.mem_cons_of_mem _ inside, found⟩
      · cases ended

theorem mapM_cons_ok {f : β → Except ε γ} {first : β} {rest : List β} {results : List γ}
    (ended : (first :: rest).mapM f = .ok results) :
    ∃ own others, f first = .ok own ∧ rest.mapM f = .ok others ∧ results = own :: others := by
  rw [List.mapM_cons] at ended
  obtain ⟨own, made, later⟩ := bind_ok ended
  obtain ⟨others, more, last⟩ := bind_ok later
  cases last
  exact ⟨own, others, made, more, rfl⟩

theorem mem_mapM_ok_iff {f : β → Except ε γ} {items : List β} {results : List γ}
    (ended : items.mapM f = .ok results) {result : γ} :
    result ∈ results ↔ ∃ item ∈ items, f item = .ok result := by
  induction items generalizing results with
  | nil =>
    cases ended
    simp
  | cons first rest ih =>
    obtain ⟨own, others, made, more, rfl⟩ := mapM_cons_ok ended
    simp only [List.mem_cons, exists_eq_or_imp, ih more, made, Except.ok.injEq]
    rw [eq_comm]

end DrawingPlan
