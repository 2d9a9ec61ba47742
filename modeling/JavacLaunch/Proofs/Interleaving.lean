import JavacLaunch.Invocation
import JavacLaunch.Proofs.MergedFlags

/-!
# JavacLaunch.Proofs.Interleaving

How check flags and other arguments are mixed makes no difference to a plugin.

The merge looks at the check flags alone, in their order, and whether another argument is left
depends on nothing but the argument itself. A check flag that was given before adds nothing.

* `relocate_of_filter_eq`: two ways of mixing the same flags with the same other arguments.
* `Repeats`: a command line with check flags given again.
* `Repeats.foldl_addFlag`: the merge passes over what is repeated.
* `plugin_ignores_positions`: the command lines that come of it.
-/

namespace JavacLaunch

variable {flags standing seen args args' more : List String}

theorem rest_relocate_eq_filter_filter (standing args : List String) :
    (relocate standing args).rest =
      (args.filter (isCheckFlag · = false)).filter (· ∉ standing) := by
  rw [rest_relocate, List.filter_filter]
  simp only [Bool.decide_and]

theorem relocate_congr (hflags : mergeFlags standing args = mergeFlags standing args')
    (hplain : args.filter (isCheckFlag · = false) = args'.filter (isCheckFlag · = false)) :
    relocate standing args = relocate standing args' := by
  have hrest : (relocate standing args).rest = (relocate standing args').rest := by
    rw [rest_relocate_eq_filter_filter, rest_relocate_eq_filter_filter, hplain]
  exact relocate_eq_iff.2 ⟨hflags, hrest⟩

theorem relocate_of_filter_eq (hflags : args.filter isCheckFlag = args'.filter isCheckFlag)
    (hplain : args.filter (isCheckFlag · = false) = args'.filter (isCheckFlag · = false)) :
    relocate standing args = relocate standing args' := by
  refine relocate_congr ?_ hplain
  rw [mergeFlags, mergeFlags, hflags]

/-! ## Flags given again -/

/-- The last list is the one before it with check flags put in, each behind a place where it has
been seen. What the first list holds has been seen from the beginning. -/
inductive Repeats : List String → List String → List String → Prop where
  | nil {seen : List String} : Repeats seen [] []
  | keep {seen args more : List String} {arg : String} :
      Repeats (arg :: seen) args more → Repeats seen (arg :: args) (arg :: more)
  | again {seen args more : List String} {flag : String} :
      isCheckFlag flag = true → flag ∈ seen → Repeats seen args more →
        Repeats seen args (flag :: more)

namespace Repeats

theorem filter_plain (h : Repeats seen args more) :
    more.filter (isCheckFlag · = false) = args.filter (isCheckFlag · = false) := by
  induction h with
  | nil => rfl
  | keep _ ih => rw [List.filter_cons, List.filter_cons, ih]
  | again hflag _ _ ih =>
    rw [List.filter_cons_of_neg (by simp [hflag]), ih]

/-- The invariant is that the flags absorb all that has been seen. -/
theorem foldl_addFlag (h : Repeats seen args more) (hseen : Absorbs flags seen) :
    (more.filter isCheckFlag).foldl addFlag flags =
      (args.filter isCheckFlag).foldl addFlag flags := by
  induction h generalizing flags with
  | nil => rfl
  | @keep seen args more arg _ ih =>
    by_cases harg : isCheckFlag arg = true
    · rw [List.filter_cons_of_pos harg, List.filter_cons_of_pos harg, List.foldl_cons,
        List.foldl_cons]
      exact ih hseen.addFlag_cons
    · rw [List.filter_cons_of_neg harg, List.filter_cons_of_neg harg]
      exact ih (hseen.cons_of_plain harg)
  | again hflag hmem _ ih =>
    rw [List.filter_cons_of_pos hflag, List.foldl_cons, addFlag_of_mem (hseen _ hmem hflag)]
    exact ih hseen

theorem relocate_eq (standing : List String) (h : Repeats [] args more) :
    relocate standing more = relocate standing args :=
  relocate_congr (h.foldl_addFlag .nil) h.filter_plain

end Repeats

/-- The caller's arguments make a difference to a plugin only by their relocation. -/
theorem Invocation.plugin_congr {settings : Settings} (runtime compiler tool : String)
    (h : relocate settings.checkFlags args = relocate settings.checkFlags args') :
    plugin ⟨runtime, compiler, tool, args⟩ settings =
      plugin ⟨runtime, compiler, tool, args'⟩ settings := by
  simp only [plugin, h]

/-- Requests that mix the same check flags with the same other arguments come to the same command
line with a plugin, and they still do if in either of them check flags are given again behind where
they stood. -/
theorem plugin_ignores_positions (settings : Settings) (runtime compiler tool : String)
    (args args' : List String) (hflags : args.filter isCheckFlag = args'.filter isCheckFlag)
    (hplain : args.filter (isCheckFlag · = false) = args'.filter (isCheckFlag · = false)) :
    Invocation.plugin ⟨runtime, compiler, tool, args⟩ settings =
      Invocation.plugin ⟨runtime, compiler, tool, args'⟩ settings ∧
    ∀ more more', Repeats [] args more → Repeats [] args' more' →
      Invocation.plugin ⟨runtime, compiler, tool, more⟩ settings =
        Invocation.plugin ⟨runtime, compiler, tool, more'⟩ settings := by
  have hmixed : relocate settings.checkFlags args = relocate settings.checkFlags args' :=
    relocate_of_filter_eq hflags hplain
  constructor
  · exact Invocation.plugin_congr runtime compiler tool hmixed
  · intro more more' hmore hmore'
    apply Invocation.plugin_congr
    calc relocate settings.checkFlags more
        = relocate settings.checkFlags args := hmore.relocate_eq _
      _ = relocate settings.checkFlags args' := hmixed
      _ = relocate settings.checkFlags more' := (hmore'.relocate_eq _).symm

theorem plugin_ignores_scattered_flags :
    let settings := { Settings.standard with checkFlags := ["-d", "-Xep:C:OFF"] }
    let args := ["-Xep:A", "-Xep:B", "-d", "out", "-g", "A.java"]
    let args' := ["-d", "out", "-Xep:A", "-g", "A.java", "-Xep:B"]
    let more := ["-d", "out", "-Xep:A", "-g", "-Xep:A", "A.java", "-Xep:B", "-Xep:A"]
    args.filter isCheckFlag = args'.filter isCheckFlag ∧
      args.filter (isCheckFlag · = false) = args'.filter (isCheckFlag · = false) ∧
      Repeats [] args args ∧ Repeats [] args' more ∧
      Invocation.plugin ⟨"java", "javac", "ep.jar", args⟩ settings =
        Invocation.plugin ⟨"java", "javac", "ep.jar", more⟩ settings := by
  intro settings args args' more
  have hflags : args.filter isCheckFlag = args'.filter isCheckFlag := by decide +kernel
  have hplain : args.filter (isCheckFlag · = false) = args'.filter (isCheckFlag · = false) := by
    decide +kernel
  have hargs : Repeats [] args args := .keep (.keep (.keep (.keep (.keep (.keep .nil)))))
  have hagain {seen args more : List String} (hmem : "-Xep:A" ∈ seen) (h : Repeats seen args more) :
      Repeats seen args ("-Xep:A" :: more) := .again (by decide +kernel) hmem h
  have hmore : Repeats [] args' more :=
    .keep (.keep (.keep (.keep (hagain (by simp) (.keep (.keep (hagain (by simp) .nil)))))))
  have hsame := plugin_ignores_positions settings "java" "javac" "ep.jar" args args' hflags hplain
  exact ⟨hflags, hplain, hargs, hmore, hsame.2 args more hargs hmore⟩

end JavacLaunch
