import JavacLaunch.CheckFlag

/-!
# JavacLaunch.Proofs.MergedFlags

The flags that are merged out of the standing ones and the caller's arguments, one more argument at
a time, and the arguments that are left.

* `mergeFlags_concat`: what one more argument of the caller does.
* `mem_mergeFlags`, `nodup_mergeFlags`: what is among the merged flags, and that it is there once.
* `Absorbs`: flags to which some arguments have nothing to add.
* `rest_relocate`: an argument is left or not by itself, whatever else is given.
-/

namespace JavacLaunch

variable {flags standing args : List String} {flag arg x : String}

theorem addFlag_of_mem (h : flag ∈ flags) : addFlag flags flag = flags :=
  if_pos h

theorem addFlag_of_notMem (h : flag ∉ flags) : addFlag flags flag = flags ++ [flag] :=
  if_neg h

@[simp] theorem mem_addFlag : x ∈ addFlag flags flag ↔ x ∈ flags ∨ x = flag := by
  by_cases h : flag ∈ flags
  · rw [addFlag_of_mem h]
    constructor
    · exact Or.inl
    · rintro (hx | rfl)
      · exact hx
      · exact h
  · simp [addFlag_of_notMem h]

@[simp] theorem mem_foldl_addFlag (items : List String) :
    x ∈ items.foldl addFlag flags ↔ x ∈ flags ∨ x ∈ items := by
  induction items generalizing flags with
  | nil => simp
  | cons item rest ih =>
    rw [List.foldl_cons, ih, mem_addFlag, List.mem_cons, or_assoc]

theorem nodup_addFlag (h : flags.Nodup) : (addFlag flags flag).Nodup := by
  by_cases hmem : flag ∈ flags
  · rwa [addFlag_of_mem hmem]
  · rw [addFlag_of_notMem hmem]
    exact (List.perm_append_singleton flag flags).nodup_iff.2 (List.nodup_cons.2 ⟨hmem, h⟩)

theorem nodup_foldl_addFlag (items : List String) (h : flags.Nodup) :
    (items.foldl addFlag flags).Nodup := by
  induction items generalizing flags with
  | nil => exact h
  | cons item rest ih => exact ih (nodup_addFlag h)

theorem mergeFlags_nil (standing : List String) :
    mergeFlags standing [] = standing.foldl addFlag [] := rfl

theorem mergeFlags_concat (standing args : List String) (arg : String) :
    mergeFlags standing (args ++ [arg]) =
      if isCheckFlag arg then addFlag (mergeFlags standing args) arg
      else mergeFlags standing args := by
  rw [mergeFlags, List.filter_append, List.foldl_append]
  split
  · rename_i h
    rw [List.filter_cons_of_pos h]
    rfl
  · rename_i h
    rw [List.filter_cons_of_neg h]
    rfl

theorem mem_mergeFlags :
    x ∈ mergeFlags standing args ↔ x ∈ standing ∨ x ∈ args ∧ isCheckFlag x = true := by
  simp [mergeFlags]

theorem nodup_mergeFlags (standing args : List String) : (mergeFlags standing args).Nodup :=
  nodup_foldl_addFlag _ (nodup_foldl_addFlag _ List.nodup_nil)

/-- All check flags among the arguments are among the flags. -/
def Absorbs (flags args : List String) : Prop :=
  ∀ arg ∈ args, isCheckFlag arg = true → arg ∈ flags

namespace Absorbs

theorem nil : Absorbs flags [] :=
  fun _ hmem => absurd hmem List.not_mem_nil

theorem addFlag_cons (h : Absorbs flags args) : Absorbs (addFlag flags arg) (arg :: args) := by
  intro x hmem hflag
  rw [mem_addFlag]
  rcases List.mem_cons.1 hmem with rfl | hmem
  · exact .inr rfl
  · exact .inl (h x hmem hflag)

theorem cons_of_plain (h : Absorbs flags args) (harg : ¬ isCheckFlag arg = true) :
    Absorbs flags (arg :: args) := by
  intro x hmem hflag
  rcases List.mem_cons.1 hmem with rfl | hmem
  · exact absurd hflag harg
  · exact h x hmem hflag

theorem foldl_addFlag (h : Absorbs flags args) :
    (args.filter isCheckFlag).foldl addFlag flags = flags := by
  induction args with
  | nil => rfl
  | cons arg rest ih =>
    have hrest : Absorbs flags rest := fun x hmem => h x (List.mem_cons_of_mem arg hmem)
    by_cases harg : isCheckFlag arg = true
    · rw [List.filter_cons_of_pos harg, List.foldl_cons,
        addFlag_of_mem (h arg List.mem_cons_self harg), ih hrest]
    · rw [List.filter_cons_of_neg harg, ih hrest]

end Absorbs

theorem absorbs_mergeFlags (standing args : List String) :
    Absorbs (mergeFlags standing args) args :=
  fun _ hmem hflag => mem_mergeFlags.2 (.inr ⟨hmem, hflag⟩)

theorem relocate_eq_iff {r : Relocation} :
    relocate standing args = r ↔
      mergeFlags standing args = r.flags ∧ (relocate standing args).rest = r.rest :=
  Iff.of_eq (Relocation.mk.injEq _ _ _ _)

/-- The merged flags hold nothing of the caller's but check flags, so what else was merged does not
decide whether an argument is left. -/
theorem rest_relocate (standing args : List String) :
    (relocate standing args).rest =
      args.filter fun arg => arg ∉ standing ∧ isCheckFlag arg = false := by
  refine List.filter_congr fun arg harg => ?_
  simp [mem_mergeFlags, harg]

end JavacLaunch
