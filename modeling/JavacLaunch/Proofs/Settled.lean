import JavacLaunch.Proofs.Delivery
import JavacLaunch.Proofs.Relocation

/-!
# JavacLaunch.Proofs.Settled

Relocating what has been relocated.

* `mergeFlags_of_absorbs`: a merge that adds nothing.
* `relocate_eq_self_iff`: which relocations stay as they are.
* `relocate_fixpoint`: all that relocation gives is among them.
-/

namespace JavacLaunch

variable {flags standing args : List String}

theorem mergeFlags_of_absorbs (hnodup : flags.Nodup) (h : Absorbs flags args) :
    mergeFlags flags args = flags := by
  have honce : flags.foldl addFlag [] = flags := foldl_addFlag_of_nodup hnodup
  rw [mergeFlags, honce, h.foldl_addFlag]

/-- Nothing is left to relocate: every flag stands once, and what is left for the compiler is
neither a check flag nor equal to a flag that stands. -/
structure Relocation.Settled (r : Relocation) : Prop where
  nodup : r.flags.Nodup
  plain : ∀ arg ∈ r.rest, isCheckFlag arg = false
  apart : ∀ arg ∈ r.rest, arg ∉ r.flags

theorem settled_relocate (standing args : List String) : (relocate standing args).Settled where
  nodup := nodup_mergeFlags standing args
  plain := fun _ harg => (notMem_of_mem_rest harg).1
  apart := fun _ harg => (notMem_of_mem_rest harg).2

theorem relocate_eq_self_iff {r : Relocation} : relocate r.flags r.rest = r ↔ r.Settled := by
  constructor
  · intro h
    rw [← h]
    exact settled_relocate r.flags r.rest
  · intro h
    have habsorbs : Absorbs r.flags r.rest := by
      intro arg harg hflag
      rw [h.plain arg harg] at hflag
      cases hflag
    have hrest : (relocate r.flags r.rest).rest = r.rest := by
      rw [rest_relocate, List.filter_eq_self]
      intro arg harg
      exact decide_eq_true ⟨h.apart arg harg, h.plain arg harg⟩
    exact relocate_eq_iff.2 ⟨mergeFlags_of_absorbs h.nodup habsorbs, hrest⟩

/-- The merged flags hold all check flags of the arguments they were merged from. -/
theorem relocate_merged (standing args : List String) :
    relocate (mergeFlags standing args) args = relocate standing args := by
  refine relocate_eq_iff.2 ⟨?_, rest_relocate_mergeFlags standing args args⟩
  exact mergeFlags_of_absorbs (nodup_mergeFlags standing args) (absorbs_mergeFlags standing args)

theorem rest_relocate_rest (standing args : List String) :
    (relocate standing (relocate standing args).rest).rest = (relocate standing args).rest := by
  rw [rest_relocate, rest_relocate, List.filter_filter]
  simp only [Bool.and_self]

/-- Among the arguments that are left there is no check flag to move. -/
theorem moved_relocate_rest (standing args : List String) :
    (relocate standing (relocate standing args).rest).moved standing = [] := by
  rw [List.eq_nil_iff_forall_not_mem]
  intro flag hmoved
  obtain ⟨hrest, _, hflag⟩ := mem_moved_relocate.1 hmoved
  rw [(settled_relocate standing args).plain flag hrest] at hflag
  cases hflag

/-- Relocation is over after one time. With the merged flags standing, neither the arguments that
are left nor those that were given change anything; and with the first standing flags nothing more
is taken out of the arguments that are left. -/
theorem relocate_fixpoint (standing args : List String) :
    let r := relocate standing args
    relocate r.flags r.rest = r ∧
    relocate r.flags args = r ∧
    (relocate standing r.rest).rest = r.rest ∧
    (relocate standing r.rest).moved standing = [] := by
  intro r
  refine ⟨?_, relocate_merged standing args, ?_, ?_⟩
  · exact relocate_eq_self_iff.2 (settled_relocate standing args)
  · exact rest_relocate_rest standing args
  · exact moved_relocate_rest standing args

end JavacLaunch
