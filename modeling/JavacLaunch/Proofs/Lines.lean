import JavacLaunch.Proofs.Fields
import JavacLaunch.Text.Lines

/-!
# JavacLaunch.Proofs.Lines

The lines of a text by its line feeds.

* `row_induction`: a text is one row, or a row, a line feed and a text.
* `lines_eq`: lines are the rows between line feeds; all but the last one lose a carriage return at
  their end.
-/

namespace JavacLaunch

/-- A row without the carriage return at its end, if there is one. -/
def dropReturn (row : List Char) : List Char :=
  if row.getLast? = some '\r' then row.dropLast else row

theorem dropReturn_cons {c : Char} {row : List Char} (h : row ≠ []) :
    dropReturn (c :: row) = c :: dropReturn row := by
  cases row with
  | nil => exact absurd rfl h
  | cons d row =>
    simp only [dropReturn, List.getLast?_cons_cons, List.dropLast_cons_cons]
    split <;> rfl

theorem lines_of_notMem {s : List Char} (h : '\n' ∉ s) : lines s = [s] := by
  induction s with
  | nil => rfl
  | cons c rest ih =>
    rw [List.mem_cons, not_or] at h
    have hhead : rest.head? ≠ some '\n' := by
      intro hhead
      exact h.2 (List.mem_of_mem_head? hhead)
    simp [lines, Ne.symm h.1, hhead, ih h.2]

theorem lines_row {row rest : List Char} (h : '\n' ∉ row) :
    lines (row ++ '\n' :: rest) = dropReturn row :: lines rest := by
  induction row with
  | nil => simp [lines, dropReturn]
  | cons c row ih =>
    rw [List.mem_cons, not_or] at h
    have hrow := ih h.2
    cases row with
    | nil =>
      -- only here may a carriage return stand before the line feed
      by_cases hc : c = '\r'
      · simp [lines, dropReturn, hc]
      · simp [lines, dropReturn, hc, Ne.symm h.1]
    | cons d row =>
      have hd : d ≠ '\n' := by
        rintro rfl
        exact h.2 List.mem_cons_self
      rw [List.cons_append, lines, hrow, dropReturn_cons (List.cons_ne_nil d row)]
      simp [Ne.symm h.1, hd]

theorem row_induction {motive : List Char → Prop} (last : ∀ row, '\n' ∉ row → motive row)
    (row : ∀ row rest, '\n' ∉ row → motive rest → motive (row ++ '\n' :: rest))
    (s : List Char) : motive s :=
  field_induction '\n' last row s

/-- The lines of a text are what stands between its line feeds. A carriage return right before a
line feed belongs to the line end. -/
theorem lines_eq (s : List Char) :
    lines s =
      (s.splitOn '\n').dropLast.map dropReturn ++ (s.splitOn '\n').getLast?.toList := by
  induction s using row_induction with
  | last row h => simp [lines_of_notMem h, List.splitOn_eq_singleton h]
  | row row rest h ih =>
    have hrest := List.splitOn_ne_nil '\n' rest
    rw [lines_row h, ih, List.splitOn_append_cons_self, List.splitOn_eq_singleton h,
      List.singleton_append, List.dropLast_cons_of_ne_nil hrest, List.map_cons,
      List.getLast?_cons_of_ne_nil hrest, List.cons_append]

end JavacLaunch
