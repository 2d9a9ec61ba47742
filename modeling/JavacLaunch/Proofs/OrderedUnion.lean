import JavacLaunch.Proofs.MergedFlags
import Mathlib.Data.List.Basic
import Mathlib.Data.List.Induction

/-!
# JavacLaunch.Proofs.OrderedUnion

The merged flags are the standing ones and the caller's check flags, in their order and each at its
first place.

* `mergeFlags_eq_eraseDups`: the two loops of the merge are one removal of duplicates.
* `moved_relocate`: what is counted as moved is what the second loop adds.
* `pairwise_idxOf_eraseDups`: first places come in the order in which they were given.
* `flags_ordered_union`: the merged flags and the moved ones, as a whole.
-/

namespace JavacLaunch

variable {standing args : List String} {flag : String}

theorem eraseDups_concat (items : List String) (item : String) :
    (items ++ [item]).eraseDups = addFlag items.eraseDups item := by
  rw [List.eraseDups_append]
  by_cases h : item ∈ items
  · rw [addFlag_of_mem (List.mem_eraseDups.2 h)]
    simp [List.removeAll, h]
  · rw [addFlag_of_notMem fun hmem => h (List.mem_eraseDups.1 hmem)]
    simp [List.removeAll, h, List.eraseDups_cons]

theorem foldl_addFlag_nil (items : List String) : items.foldl addFlag [] = items.eraseDups := by
  induction items using List.reverseRecOn with
  | nil => rw [List.foldl_nil, List.eraseDups_nil]
  | append_singleton items item ih =>
    rw [List.foldl_append, ih, eraseDups_concat]
    rfl

theorem mergeFlags_eq_eraseDups (standing args : List String) :
    mergeFlags standing args = (standing ++ args.filter isCheckFlag).eraseDups := by
  rw [mergeFlags, ← List.foldl_append, foldl_addFlag_nil]

/-- The caller's check flags behind the standing ones. -/
theorem mergeFlags_eq_append (standing args : List String) :
    mergeFlags standing args = standing.eraseDups ++
      (args.filter fun arg => arg ∉ standing ∧ isCheckFlag arg = true).eraseDups := by
  have hnew : (args.filter isCheckFlag).removeAll standing =
      args.filter fun arg => arg ∉ standing ∧ isCheckFlag arg = true := by
    simp [List.removeAll, List.filter_filter]
  rw [mergeFlags_eq_eraseDups, List.eraseDups_append, hnew]

theorem moved_relocate (standing args : List String) :
    (relocate standing args).moved standing =
      (args.filter fun arg => arg ∉ standing ∧ isCheckFlag arg = true).eraseDups := by
  have hflags : (relocate standing args).flags = mergeFlags standing args := rfl
  have hold : standing.eraseDups.filter (· ∉ standing) = [] := by
    rw [List.filter_eq_nil_iff]
    intro flag hflag
    simpa using hflag
  rw [Relocation.moved, hflags, mergeFlags_eq_append, List.filter_append, hold, List.nil_append,
    List.filter_eq_self]
  intro flag hflag
  rw [List.mem_eraseDups, List.mem_filter, decide_eq_true_iff] at hflag
  exact decide_eq_true hflag.2.1

theorem mem_moved_relocate :
    flag ∈ (relocate standing args).moved standing ↔
      flag ∈ args ∧ flag ∉ standing ∧ isCheckFlag flag = true := by
  rw [moved_relocate, List.mem_eraseDups, List.mem_filter, decide_eq_true_iff]

theorem pairwise_idxOf_eraseDups (args : List String) (keep : String → Bool) :
    (args.filter keep).eraseDups.Pairwise fun x y => args.idxOf x < args.idxOf y := by
  induction args generalizing keep with
  | nil => simp
  | cons arg rest ih =>
    -- whatever is not `arg` comes one place later than it does in the rest
    have hrest (keep : String → Bool) (hne : ∀ x ∈ rest, keep x = true → x ≠ arg) :
        (rest.filter keep).eraseDups.Pairwise fun x y =>
          (arg :: rest).idxOf x < (arg :: rest).idxOf y := by
      have hplace (x : String) (hx : x ∈ (rest.filter keep).eraseDups) :
          (arg :: rest).idxOf x = rest.idxOf x + 1 := by
        rw [List.mem_eraseDups, List.mem_filter] at hx
        exact List.idxOf_cons_ne rest (hne x hx.1 hx.2).symm
      refine (ih keep).imp_of_mem fun {x y} hx hy hlt => ?_
      rw [hplace x hx, hplace y hy]
      exact Nat.succ_lt_succ hlt
    by_cases hkeep : keep arg = true
    · rw [List.filter_cons_of_pos hkeep, List.eraseDups_cons, List.filter_filter,
        List.pairwise_cons]
      have hne : ∀ x ∈ rest, ((!x == arg) && keep x) = true → x ≠ arg := by
        intro x _ hx
        simpa using (Bool.and_eq_true_iff.1 hx).1
      refine ⟨?_, hrest _ hne⟩
      intro x hx
      rw [List.mem_eraseDups, List.mem_filter] at hx
      rw [List.idxOf_cons_self, List.idxOf_cons_ne rest (hne x hx.1 hx.2).symm]
      exact Nat.succ_pos _
    · rw [List.filter_cons_of_neg hkeep]
      refine hrest keep ?_
      rintro x _ hx rfl
      exact hkeep hx

/-- The merged flags are the union of the standing ones and the caller's check flags, in order and
without repetition. The part behind the standing ones is what counts as moved: check flags of the
caller that did not stand already, in the order in which they first turn up. -/
theorem flags_ordered_union (standing args : List String) :
    let r := relocate standing args
    let moved := r.moved standing
    r.flags.Nodup ∧
    r.flags = (standing ++ args.filter isCheckFlag).eraseDups ∧
    r.flags = standing.eraseDups ++ moved ∧
    (∀ flag, flag ∈ moved ↔ flag ∈ args ∧ flag ∉ standing ∧ isCheckFlag flag = true) ∧
    moved.Pairwise fun x y => args.idxOf x < args.idxOf y := by
  intro r moved
  have hmoved : moved = (args.filter fun arg => arg ∉ standing ∧ isCheckFlag arg = true).eraseDups :=
    moved_relocate standing args
  refine ⟨nodup_mergeFlags standing args, mergeFlags_eq_eraseDups standing args, ?_, ?_, ?_⟩
  · rw [hmoved]
    exact mergeFlags_eq_append standing args
  · intro flag
    exact mem_moved_relocate
  · rw [hmoved]
    exact pairwise_idxOf_eraseDups args _

end JavacLaunch
