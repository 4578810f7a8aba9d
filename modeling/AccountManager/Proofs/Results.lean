/-!
# Results that may be errors

What a success tells about the computations that it was put together from.
-/

namespace AccountManager

/-- What two computations give one after the other, each of them gives. -/
theorem of_bind_eq_ok {ε α β : Type} {first : Except ε α} {next : α → Except ε β} {result : β}
    (hread : first >>= next = .ok result) :
    ∃ value, first = .ok value ∧ next value = .ok result := by
  cases first with
  | error error => cases hread
  | ok value => exact ⟨value, rfl, hread⟩

theorem bind_eq_ok_iff {ε α β : Type} {first : Except ε α} {next : α → Except ε β} {result : β} :
    first >>= next = .ok result ↔ ∃ value, first = .ok value ∧ next value = .ok result := by
  refine ⟨of_bind_eq_ok, ?_⟩
  rintro ⟨value, rfl, hnext⟩
  exact hnext

theorem of_toOption_eq_some {ε α : Type} {result : Except ε α} {value : α}
    (h : result.toOption = some value) : result = .ok value := by
  cases result with
  | error error => cases h
  | ok other =>
    cases h
    rfl

theorem toOption_eq_some_iff {ε α : Type} {result : Except ε α} {value : α} :
    result.toOption = some value ↔ result = .ok value := by
  constructor
  · exact of_toOption_eq_some
  · rintro rfl
    rfl

theorem map_eq_ok_iff {ε α β : Type} {result : Except ε α} {wrap : α → β} {value : β} :
    result.map wrap = .ok value ↔ ∃ inner, result = .ok inner ∧ wrap inner = value := by
  cases result with
  | error error => exact ⟨nofun, nofun⟩
  | ok other =>
    constructor
    · intro h
      exact ⟨other, rfl, Except.ok.inj h⟩
    · rintro ⟨inner, ⟨⟩, rfl⟩
      rfl

theorem mapError_eq_ok_iff {ε ε' α : Type} {result : Except ε α} {wrap : ε → ε'} {value : α} :
    result.mapError wrap = .ok value ↔ result = .ok value := by
  cases result with
  | error error => exact ⟨nofun, nofun⟩
  | ok other => exact ⟨fun h => congrArg Except.ok (Except.ok.inj h), fun h => h ▸ rfl⟩

end AccountManager
