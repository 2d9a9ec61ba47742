/-!
# JavacLaunch.Proofs.Fields

The fields of a text, between the places where a separator stands.

* `field_induction`: a text is one field, or a field, a separator and a text.
* `fields_intercalate`: what becomes of texts that are joined by the separator.
* `fields_intercalate_eq_iff`: when they are found again.
-/

namespace JavacLaunch

variable {sep : Char}

theorem field_induction (sep : Char) {motive : List Char → Prop}
    (last : ∀ field, sep ∉ field → motive field)
    (field : ∀ field rest, sep ∉ field → motive rest → motive (field ++ sep :: rest))
    (s : List Char) : motive s := by
  by_cases h : sep ∈ s
  · obtain ⟨first, rest, rfl, hfirst⟩ := List.eq_append_cons_of_mem h
    exact field first rest hfirst (field_induction sep last field rest)
  · exact last s h
termination_by s.length
decreasing_by
  subst_vars
  simp only [List.length_append, List.length_cons]
  omega

theorem notMem_of_mem_splitOn {s part : List Char} (h : part ∈ s.splitOn sep) : sep ∉ part := by
  induction s using field_induction sep with
  | last field hfield =>
    rw [List.splitOn_eq_singleton hfield, List.mem_singleton] at h
    rwa [h]
  | field field rest hfield ih =>
    rw [List.splitOn_append_cons_self_of_not_mem hfield] at h
    rcases List.mem_cons.1 h with rfl | hrest
    · exact hfield
    · exact ih hrest

/-- A text without the separator is one field; so is the empty text. -/
def fields (sep : Char) (text : String) : List String :=
  (text.toList.splitOn sep).map String.ofList

section Fields

variable {text field : String} {items : List String}

theorem fields_of_notMem (h : sep ∉ text.toList) : fields sep text = [text] := by
  rw [fields, List.splitOn_eq_singleton h, List.map_singleton, String.ofList_toList]

theorem notMem_of_mem_fields (h : field ∈ fields sep text) : sep ∉ field.toList := by
  obtain ⟨part, hpart, rfl⟩ := List.mem_map.1 h
  rw [String.toList_ofList]
  exact notMem_of_mem_splitOn hpart

theorem fields_append (text rest : String) :
    fields sep (text ++ String.singleton sep ++ rest) = fields sep text ++ fields sep rest := by
  have hsplit : (text ++ String.singleton sep ++ rest).toList =
      text.toList ++ sep :: rest.toList := by
    simp
  rw [fields, hsplit, List.splitOn_append_cons_self, List.map_append, ← fields, ← fields]

theorem fields_intercalate (h : items ≠ []) :
    fields sep ((String.singleton sep).intercalate items) = items.flatMap (fields sep) := by
  induction items with
  | nil => exact absurd rfl h
  | cons item more ih =>
    cases more with
    | nil => rw [String.intercalate_singleton, List.flatMap_cons, List.flatMap_nil, List.append_nil]
    | cons next more =>
      have hmore : next :: more ≠ [] := List.cons_ne_nil next more
      rw [String.intercalate_cons_of_ne_nil hmore, fields_append, ih hmore]
      rfl

theorem flatMap_fields_of_notMem (h : ∀ item ∈ items, sep ∉ item.toList) :
    items.flatMap (fields sep) = items := by
  induction items with
  | nil => rfl
  | cons item more ih =>
    rw [List.forall_mem_cons] at h
    rw [List.flatMap_cons, fields_of_notMem h.1, ih h.2, List.singleton_append]

/-- Joined texts are found again if and only if none of them holds the separator. -/
theorem fields_intercalate_eq_iff (h : items ≠ []) :
    fields sep ((String.singleton sep).intercalate items) = items ↔
      ∀ item ∈ items, sep ∉ item.toList := by
  rw [fields_intercalate h]
  constructor
  · intro heq item hmem
    rw [← heq] at hmem
    obtain ⟨_, _, hfield⟩ := List.mem_flatMap.1 hmem
    exact notMem_of_mem_fields hfield
  · exact flatMap_fields_of_notMem

/-- Joining texts neither adds nor loses a character that does not stand between them. -/
theorem notMem_intercalate_iff {c : Char} {between : String} (h : c ∉ between.toList) :
    c ∉ (between.intercalate items).toList ↔ ∀ item ∈ items, c ∉ item.toList := by
  induction items with
  | nil => simp
  | cons item more ih =>
    cases more with
    | nil => simp
    | cons next more =>
      rw [String.intercalate_cons_cons, List.forall_mem_cons, ← ih]
      simp only [String.toList_append, List.mem_append, not_or, h, not_false_eq_true, and_true]

end Fields

end JavacLaunch
