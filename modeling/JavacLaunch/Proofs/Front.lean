/-!
# JavacLaunch.Proofs.Front

The front of a text: the items of one kind that it begins with.

* `takeWhile_of_head`, `dropWhile_of_head`, `head?_dropWhile`: what is taken off a text, and what is
  left, by the first item that is left.
* `takeWhile_front_append`, `dropWhile_front_append`: a front and what cannot be read on.
* `takeWhile_append_of_head`: what is read off the front of a text does not depend on what follows
  it, if that cannot be read on.
* `LongestFront`: a front of a text that cannot be read on.
-/

namespace JavacLaunch

section Kind

variable {α : Type} {p : α → Bool} {front rest : List α}

theorem takeWhile_of_head (hrest : ∀ c ∈ rest.head?, p c = false) : rest.takeWhile p = [] := by
  cases rest with
  | nil => rfl
  | cons c rest => simp [hrest c rfl]

theorem dropWhile_of_head (hrest : ∀ c ∈ rest.head?, p c = false) : rest.dropWhile p = rest := by
  cases rest with
  | nil => rfl
  | cons c rest => simp [hrest c rfl]

theorem head?_dropWhile (p : α → Bool) (text : List α) :
    ∀ c ∈ (text.dropWhile p).head?, p c = false := by
  intro c hc
  have hstop := List.head?_dropWhile_not p text
  rw [Option.mem_def.1 hc] at hstop
  exact hstop

theorem takeWhile_front_append (hfront : ∀ c ∈ front, p c = true)
    (hrest : ∀ c ∈ rest.head?, p c = false) : (front ++ rest).takeWhile p = front := by
  rw [List.takeWhile_append_of_pos hfront, takeWhile_of_head hrest, List.append_nil]

theorem dropWhile_front_append (hfront : ∀ c ∈ front, p c = true)
    (hrest : ∀ c ∈ rest.head?, p c = false) : (front ++ rest).dropWhile p = rest := by
  rw [List.dropWhile_append_of_pos hfront, dropWhile_of_head hrest]

theorem takeWhile_append_of_head (text : List α) (hrest : ∀ c ∈ rest.head?, p c = false) :
    (text ++ rest).takeWhile p = text.takeWhile p := by
  induction text with
  | nil => exact takeWhile_of_head hrest
  | cons c text ih => simp [List.takeWhile_cons, ih]

end Kind

/-- A front of a text whose characters all satisfy `p`; no longer one does. -/
structure LongestFront (p : Char → Bool) (text front : List Char) : Prop where
  stands : front <+: text
  satisfies : ∀ c ∈ front, p c = true
  longest : ∀ other, other <+: text → (∀ c ∈ other, p c = true) → other.length ≤ front.length

theorem longestFront_takeWhile (p : Char → Bool) (text : List Char) :
    LongestFront p text (text.takeWhile p) where
  stands := List.takeWhile_prefix p
  satisfies := List.all_eq_true.1 List.all_takeWhile
  longest := by
    intro other hother hall
    obtain ⟨rest, rfl⟩ := hother
    rw [List.takeWhile_append_of_pos hall, List.length_append]
    exact Nat.le_add_right _ _

end JavacLaunch
