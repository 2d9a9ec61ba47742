/-!
# JavacLaunch.Proofs.Except

When a computation that may fail gives a value, and when an error: one step, and a row of steps.
-/

namespace JavacLaunch

variable {ε ε' α β : Type} {x : Except ε α}

theorem bind_eq_ok {f : α → Except ε β} {b : β} :
    x.bind f = .ok b ↔ ∃ a, x = .ok a ∧ f a = .ok b := by
  cases x <;> simp [Except.bind]

theorem map_eq_ok {f : α → β} {b : β} : x.map f = .ok b ↔ ∃ a, x = .ok a ∧ f a = b := by
  cases x <;> simp [Except.map]

theorem mapError_eq_ok {f : ε → ε'} {a : α} : x.mapError f = .ok a ↔ x = .ok a := by
  constructor
  · intro h
    cases x with
    | error e => cases h
    | ok b =>
      cases h
      rfl
  · rintro rfl
    rfl

theorem foldlM_cons_eq_ok {f : β → α → Except ε β} {a : α} {rest : List α} {b c : β} :
    (a :: rest).foldlM f b = .ok c ↔ ∃ b', f b a = .ok b' ∧ rest.foldlM f b' = .ok c := by
  rw [List.foldlM_cons]
  exact bind_eq_ok

theorem mapM_cons_eq_ok {f : α → Except ε β} {a : α} {rest : List α} {bs : List β} :
    (a :: rest).mapM f = .ok bs ↔
      ∃ b, f a = .ok b ∧ ∃ more, rest.mapM f = .ok more ∧ b :: more = bs := by
  rw [List.mapM_cons]
  refine bind_eq_ok.trans (exists_congr fun b => and_congr_right fun _ => ?_)
  refine bind_eq_ok.trans (exists_congr fun more => and_congr_right fun _ => ?_)
  exact Iff.of_eq (Except.ok.injEq _ _)

section Errors

variable {e : ε}

theorem bind_eq_error {f : α → Except ε β} :
    x.bind f = .error e ↔ x = .error e ∨ ∃ a, x = .ok a ∧ f a = .error e := by
  cases x <;> simp [Except.bind]

theorem map_eq_error {f : α → β} : x.map f = .error e ↔ x = .error e := by
  cases x <;> simp [Except.map]

theorem mapM_cons_eq_error {f : α → Except ε β} {a : α} {rest : List α} :
    (a :: rest).mapM f = .error e ↔
      f a = .error e ∨ ∃ b, f a = .ok b ∧ rest.mapM f = .error e := by
  rw [List.mapM_cons]
  refine bind_eq_error.trans (or_congr_right (exists_congr fun b => and_congr_right fun _ => ?_))
  refine bind_eq_error.trans ⟨?_, .inl⟩
  rintro (h | ⟨more, _, h⟩)
  · exact h
  · cases h

end Errors

end JavacLaunch
