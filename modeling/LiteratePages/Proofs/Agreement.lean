namespace LiteratePages

section

variable {α β σ τ ε η : Type}

theorem mapError_ok (change : ε → η) (a : α) : (Except.ok a : Except ε α).mapError change = .ok a :=
  rfl

theorem mapError_error (change : ε → η) (error : ε) :
    (Except.error error : Except ε α).mapError change = .error (change error) := rfl

theorem map_eq_ok {first : Except ε α} {result : α → β} {b : β} :
    first.map result = .ok b ↔ ∃ a, first = .ok a ∧ b = result a := by
  constructor
  · intro mapped
    cases first with
    | error error => cases mapped
    | ok a =>
        cases mapped
        exact ⟨a, rfl, rfl⟩
  · rintro ⟨a, rfl, rfl⟩
    rfl

theorem bind_eq_ok {first : Except ε α} {next : α → Except ε β} {b : β} :
    first.bind next = .ok b ↔ ∃ a, first = .ok a ∧ next a = .ok b := by
  cases first with
  | error error => simp [Except.bind]
  | ok a => simp [Except.bind]

/-- Either both succeed or both fail. -/
theorem outcomes_of_toOption {first : Except ε σ} {second : Except η τ} {state : σ → τ}
    (agree : second.toOption = first.toOption.map state) :
    (∃ s, first = .ok s ∧ second = .ok (state s)) ∨
      ∃ error other, first = .error error ∧ second = .error other := by
  cases first with
  | error error =>
      cases second with
      | error other => exact .inr ⟨error, other, rfl, rfl⟩
      | ok _ => cases agree
  | ok s =>
      cases second with
      | error _ => cases agree
      | ok _ =>
          cases agree
          exact .inl ⟨s, rfl, rfl⟩

theorem ok_of_toOption {first : Except ε σ} {second : Except η τ} {state : σ → τ} {s : σ}
    (agree : second.toOption = first.toOption.map state) (ran : first = .ok s) :
    second = .ok (state s) := by
  rcases outcomes_of_toOption agree with ⟨_, rfl, rfl⟩ | ⟨error, other, rfl, rfl⟩
  · cases ran
    rfl
  · cases ran

/-- Either both succeed, with results that look the same, or both fail. -/
theorem outcomes_of_map_eq {first : Except ε σ} {second : Except η τ} {look : σ → α}
    {other : τ → α} (agree : first.toOption.map look = second.toOption.map other) :
    (∃ s t, first = .ok s ∧ second = .ok t ∧ look s = other t) ∨
      ∃ error fault, first = .error error ∧ second = .error fault := by
  cases first with
  | error error =>
      cases second with
      | error fault => exact .inr ⟨error, fault, rfl, rfl⟩
      | ok _ => cases agree
  | ok s =>
      cases second with
      | error _ => cases agree
      | ok t => exact .inl ⟨s, t, rfl, rfl, Option.some.inj agree⟩

theorem bind_toOption {first : Except ε σ} {second : Except η τ} {next : σ → Except ε α}
    {follow : τ → Except η β} {state : σ → τ} {result : α → β}
    (agree : second.toOption = first.toOption.map state)
    (later : ∀ s, (follow (state s)).toOption = (next s).toOption.map result) :
    (second.bind follow).toOption = (first.bind next).toOption.map result := by
  rcases outcomes_of_toOption agree with ⟨s, rfl, rfl⟩ | ⟨error, other, rfl, rfl⟩
  · exact later s
  · rfl

theorem foldlM_cons_eq_ok {step : σ → α → Except ε σ} {s after : σ} {a : α} {rest : List α} :
    (a :: rest).foldlM step s = .ok after ↔
      ∃ next, step s a = .ok next ∧ rest.foldlM step next = .ok after := by
  rw [List.foldlM_cons]
  constructor
  · intro read
    cases stepped : step s a with
    | error error =>
        rw [stepped] at read
        cases read
    | ok next =>
        rw [stepped] at read
        exact ⟨next, rfl, read⟩
  · rintro ⟨next, stepped, read⟩
    rw [stepped]
    exact read

theorem foldlM_append_eq_ok {step : σ → α → Except ε σ} {s after : σ} {first second : List α} :
    (first ++ second).foldlM step s = .ok after ↔
      ∃ next, first.foldlM step s = .ok next ∧ second.foldlM step next = .ok after := by
  rw [List.foldlM_append]
  exact bind_eq_ok

theorem foldlM_concat_eq_ok {step : σ → α → Except ε σ} {s after : σ} {items : List α} {a : α} :
    (items ++ [a]).foldlM step s = .ok after ↔
      ∃ next, items.foldlM step s = .ok next ∧ step next a = .ok after := by
  simp only [foldlM_append_eq_ok, foldlM_cons_eq_ok, List.foldlM_nil, pure, Except.pure,
    Except.ok.injEq, exists_eq_right]

theorem foldlM_toOption {step : σ → α → Except ε σ} {other : τ → β → Except η τ} (state : σ → τ)
    (item : α → β)
    (agree : ∀ s a, (other (state s) (item a)).toOption = (step s a).toOption.map state)
    (items : List α) (s : σ) :
    ((items.map item).foldlM other (state s)).toOption =
      (items.foldlM step s).toOption.map state := by
  induction items generalizing s with
  | nil => rfl
  | cons a rest ih =>
      rw [List.map_cons, List.foldlM_cons, List.foldlM_cons]
      exact bind_toOption (agree s a) ih

/-- Steps that look the same from states that look the same, taken one after the other. -/
theorem foldlM_alike {step : σ → α → Except ε σ} (look : σ → τ) (item : α → β)
    (agree : ∀ {s t a b}, look s = look t → item a = item b →
      (step s a).toOption.map look = (step t b).toOption.map look)
    {items others : List α} (same : items.map item = others.map item) {s t : σ}
    (start : look s = look t) :
    (items.foldlM step s).toOption.map look = (others.foldlM step t).toOption.map look := by
  induction items generalizing others s t with
  | nil =>
      obtain rfl : others = [] := by simpa using same.symm
      exact congrArg some start
  | cons a rest ih =>
      obtain ⟨b, more, rfl, first, later⟩ := List.map_eq_cons_iff.mp same.symm
      rw [List.foldlM_cons, List.foldlM_cons]
      rcases outcomes_of_map_eq (agree start first.symm) with
        ⟨s', t', here, there, alike⟩ | ⟨_, _, here, there⟩
      · rw [here, there]
        exact ih later.symm alike
      · rw [here, there]
        rfl

theorem mapM_congr {action other : σ → Except ε α} {items : List σ}
    (same : ∀ s ∈ items, action s = other s) : items.mapM action = items.mapM other := by
  induction items with
  | nil => rfl
  | cons s rest ih =>
      obtain ⟨first, later⟩ := List.forall_mem_cons.mp same
      rw [List.mapM_cons, List.mapM_cons, first, ih later]

theorem mapM_toOption {action : σ → Except ε α} {other : σ → Except η β} (result : α → β)
    (agree : ∀ s, (other s).toOption = (action s).toOption.map result) (items : List σ) :
    (items.mapM other).toOption = (items.mapM action).toOption.map (List.map result) := by
  induction items with
  | nil => rfl
  | cons s rest ih =>
      rw [List.mapM_cons, List.mapM_cons]
      refine bind_toOption (agree s) fun first => ?_
      exact bind_toOption ih fun others => rfl

theorem mapM_eq_some_map {cut : α → Option β} {result : α → β} {items : List α}
    (each : ∀ item ∈ items, cut item = some (result item)) :
    items.mapM cut = some (items.map result) := by
  induction items with
  | nil => rfl
  | cons item rest ih =>
      have later := ih fun other member => each other (List.mem_cons_of_mem item member)
      rw [List.mapM_cons, each item List.mem_cons_self, later]
      rfl

end

end LiteratePages
