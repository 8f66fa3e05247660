/-!
# Attempts

An attempt gives a result or the reason why there is none.  It succeeds if every
step of it does, and what is done to the result and what is done to the reason do
not get in each other's way.
-/

namespace LeafPatch

/-- Steps one after the other succeed if each of them does. -/
theorem bind_eq_ok_iff
    {Error First Result : Type}
    {first : Except Error First}
    {next : First → Except Error Result}
    {result : Result} :
    first >>= next = .ok result ↔
      ∃ value, first = .ok value ∧ next value = .ok result := by
  cases first with
  | error reason => simp [bind, Except.bind]
  | ok value => simp [bind, Except.bind]

theorem mapError_eq_ok_iff
    {Error Other Result : Type}
    {attempt : Except Error Result}
    {explain : Error → Other}
    {result : Result} :
    attempt.mapError explain = .ok result ↔ attempt = .ok result := by
  cases attempt with
  | error reason =>
      constructor
      · rintro ⟨⟩
      · rintro ⟨⟩
  | ok value =>
      constructor
      · rintro ⟨⟩
        rfl
      · rintro ⟨⟩
        rfl

theorem map_mapError
    {Error Other First Result : Type}
    (attempt : Except Error First)
    (explain : Error → Other)
    (change : First → Result) :
    (attempt.mapError explain).map change =
      (attempt.map change).mapError explain := by
  cases attempt <;> rfl

end LeafPatch
