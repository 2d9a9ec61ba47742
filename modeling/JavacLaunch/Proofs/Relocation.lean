import JavacLaunch.Proofs.OrderedUnion

/-!
# JavacLaunch.Proofs.Relocation

What relocation leaves for the compiler, and relocation of a command line that comes in chunks.

* `relocate_partitions`: every argument goes one way, and which way does not depend on the others.
* `relocate_append`: what is merged for a chunk stands for the next one.
* `relocateInTurn_eq`: so a command line may be cut anywhere, and as often as one likes.
-/

namespace JavacLaunch

variable {flags standing args : List String} {arg : String}

theorem count_rest_relocate (h : arg ∉ (relocate standing args).flags) :
    (relocate standing args).rest.count arg = args.count arg :=
  List.count_filter (decide_eq_true h)

theorem rest_relocate_of_checkFlags (h : ∀ flag ∈ standing, isCheckFlag flag = true) :
    (relocate standing args).rest = args.filter fun arg => isCheckFlag arg = false := by
  rw [rest_relocate]
  refine List.filter_congr fun arg _ => ?_
  have hnot : isCheckFlag arg = false → arg ∉ standing := by
    intro hplain hmem
    rw [h arg hmem] at hplain
    cases hplain
  exact decide_eq_decide.2 ⟨And.right, fun hplain => ⟨hnot hplain, hplain⟩⟩

/-- Check flags, and whatever equals a standing flag, are taken out wherever they stand. All other
arguments are left in their order and as often as they were given. -/
theorem relocate_partitions (standing args : List String) :
    let r := relocate standing args
    r.rest = args.filter (fun arg => arg ∉ standing ∧ isCheckFlag arg = false) ∧
    (∀ arg ∈ r.flags, arg ∉ r.rest) ∧
    (∀ arg, arg ∉ r.flags → r.rest.count arg = args.count arg) ∧
    ((∀ flag ∈ standing, isCheckFlag flag = true) →
      r.rest = args.filter fun arg => isCheckFlag arg = false) := by
  intro r
  refine ⟨rest_relocate standing args, ?_, ?_, rest_relocate_of_checkFlags⟩
  · intro arg hflag hrest
    exact of_decide_eq_true (List.mem_filter.1 hrest).2 hflag
  · intro arg hnew
    exact count_rest_relocate hnew

theorem relocate_partitions_repeated_arguments :
    let standing := ["-Xep:A:OFF", "-Xep:B"]
    let args := ["-d", "-Xep:C", "out", "-Xep:B", "-d", "-Xep:C"]
    let r := relocate standing args
    (∀ flag ∈ standing, isCheckFlag flag = true) ∧ r.rest = ["-d", "out", "-d"] ∧
      ("-Xep:C" ∈ r.flags ∧ "-Xep:C" ∉ r.rest) ∧ "-d" ∉ r.flags ∧ r.rest.count "-d" = 2 := by
  intro standing args r
  obtain ⟨_, hout, hleft, hplain⟩ := relocate_partitions standing args
  have hstanding : ∀ flag ∈ standing, isCheckFlag flag = true := by decide +kernel
  have hmem : "-Xep:C" ∈ r.flags := by decide +kernel
  have hnew : "-d" ∉ r.flags := by decide +kernel
  refine ⟨hstanding, ?_, ⟨hmem, hout "-Xep:C" hmem⟩, hnew, ?_⟩
  · rw [hplain hstanding]
    decide +kernel
  · rw [hleft "-d" hnew]
    decide +kernel

/-! ## Chunks -/

theorem foldl_addFlag_of_nodup {items : List String} (h : (flags ++ items).Nodup) :
    items.foldl addFlag flags = flags ++ items := by
  induction items generalizing flags with
  | nil => rw [List.foldl_nil, List.append_nil]
  | cons item rest ih =>
    have hnew : item ∉ flags := by
      intro hmem
      exact (List.nodup_append.1 h).2.2 item hmem item List.mem_cons_self rfl
    rw [← List.singleton_append, ← List.append_assoc] at h
    rw [List.foldl_cons, addFlag_of_notMem hnew, ih h, List.append_assoc, List.singleton_append]

/-- Flags that have been merged already are merged into themselves. -/
theorem foldl_addFlag_mergeFlags (standing args : List String) :
    (mergeFlags standing args).foldl addFlag [] = mergeFlags standing args :=
  foldl_addFlag_of_nodup (nodup_mergeFlags standing args)

theorem mergeFlags_append (standing args more : List String) :
    mergeFlags standing (args ++ more) = mergeFlags (mergeFlags standing args) more := by
  calc mergeFlags standing (args ++ more)
      = (more.filter isCheckFlag).foldl addFlag (mergeFlags standing args) := by
        rw [mergeFlags, List.filter_append, List.foldl_append, ← mergeFlags]
    _ = mergeFlags (mergeFlags standing args) more := by
        rw [mergeFlags.eq_def (mergeFlags standing args), foldl_addFlag_mergeFlags]

theorem prefix_mergeFlags (standing args more : List String) :
    mergeFlags standing args <+: mergeFlags standing (args ++ more) := by
  have honce : (mergeFlags standing args).eraseDups = mergeFlags standing args := by
    rw [← foldl_addFlag_nil, foldl_addFlag_mergeFlags]
  rw [mergeFlags_append, mergeFlags_eq_append (mergeFlags standing args), honce]
  exact List.prefix_append _ _

/-- What else has been merged takes out check flags only, and those are taken out anyway. -/
theorem rest_relocate_mergeFlags (standing args more : List String) :
    (relocate (mergeFlags standing args) more).rest = (relocate standing more).rest := by
  rw [rest_relocate, rest_relocate]
  refine List.filter_congr fun arg _ => decide_eq_decide.2 ?_
  rw [mem_mergeFlags]
  constructor
  · rintro ⟨hnew, hplain⟩
    exact ⟨fun hmem => hnew (.inl hmem), hplain⟩
  · rintro ⟨hnew, hplain⟩
    refine ⟨?_, hplain⟩
    rintro (hmem | ⟨_, hflag⟩)
    · exact hnew hmem
    · rw [hplain] at hflag
      cases hflag

theorem rest_relocate_append (standing args more : List String) :
    (relocate standing (args ++ more)).rest =
      (relocate standing args).rest ++ (relocate standing more).rest := by
  rw [rest_relocate, rest_relocate, rest_relocate, List.filter_append]

theorem relocate_append (standing args more : List String) :
    relocate standing (args ++ more) =
      ⟨(relocate (relocate standing args).flags more).flags,
        (relocate standing args).rest ++ (relocate (relocate standing args).flags more).rest⟩ := by
  have hflags : (relocate standing args).flags = mergeFlags standing args := rfl
  rw [hflags, rest_relocate_mergeFlags, ← rest_relocate_append]
  exact congrArg (Relocation.mk · _) (mergeFlags_append standing args more)

/-- Chunks relocated one after the other: what has been merged so far stands for the next one. -/
def relocateInTurn (standing : List String) : List (List String) → Relocation
  | [] => relocate standing []
  | chunk :: chunks =>
    let r := relocate standing chunk
    let later := relocateInTurn r.flags chunks
    ⟨later.flags, r.rest ++ later.rest⟩

theorem relocateInTurn_eq (standing : List String) (chunks : List (List String)) :
    relocateInTurn standing chunks = relocate standing chunks.flatten := by
  induction chunks generalizing standing with
  | nil => rfl
  | cons chunk chunks ih => rw [relocateInTurn, ih, List.flatten_cons, relocate_append]

/-- A command line may be relocated in chunks. What was merged for the first ones stands for the
next, so the flags merged for a beginning are the beginning of all that are merged. -/
theorem relocate_in_chunks (standing args more : List String) :
    let first := relocate standing args
    let second := relocate first.flags more
    let whole := relocate standing (args ++ more)
    whole.flags = second.flags ∧
    whole.rest = first.rest ++ second.rest ∧
    first.flags <+: whole.flags ∧
    ∀ chunks, relocateInTurn standing chunks = relocate standing chunks.flatten := by
  intro first second whole
  have hwhole : whole = ⟨second.flags, first.rest ++ second.rest⟩ :=
    relocate_append standing args more
  refine ⟨?_, ?_, prefix_mergeFlags standing args more, relocateInTurn_eq standing⟩
  · rw [hwhole]
  · rw [hwhole]

end JavacLaunch
