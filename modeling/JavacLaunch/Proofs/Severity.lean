import JavacLaunch.Invocation
import JavacLaunch.Proofs.MergedFlags
import Mathlib.Data.List.Induction

/-!
# JavacLaunch.Proofs.Severity

Which flag has the last word on a check, with either strategy.

The tool lets a later flag for a check override an earlier one. On the boot class path it sees all
flags as they were given. As a plugin it sees every flag once, at its first place, so there the flag
that turned up last has the last word, even where an older one was repeated behind it.

* `lastFor_addFlag`: one more argument keeps the merged flags in step with the arguments.
* `lastFor_mergeFlags`: so the flag that turned up last is the last of the merged ones.
* `severity_of_strategies`: when the two strategies agree on a check.
-/

namespace JavacLaunch

/-- The check that a flag is for: what follows `-Xep:`, up to the next colon or the end. -/
def checkName? (arg : String) : Option String :=
  if isCheckFlag arg then
    some (String.ofList ((arg.toList.drop "-Xep:".toList.length).takeWhile (· ≠ ':')))
  else none

/-- The flag that has the last word on a check. -/
def lastFor (check : String) (args : List String) : Option String :=
  (args.filter fun arg => checkName? arg = some check).getLast?

/-- Of the flags for a check, the one whose first occurrence comes last. -/
structure IsNewest (check : String) (args : List String) (flag : String) : Prop where
  mem : flag ∈ args
  name : checkName? flag = some check
  last : ∀ other ∈ args, checkName? other = some check → args.idxOf other ≤ args.idxOf flag

variable {check : String} {flags standing args : List String} {flag arg : String}

theorem isCheckFlag_of_checkName? (h : checkName? arg = some check) : isCheckFlag arg = true := by
  unfold checkName? at h
  split at h
  · assumption
  · cases h

theorem lastFor_concat (check : String) (flags : List String) (flag : String) :
    lastFor check (flags ++ [flag]) =
      if checkName? flag = some check then some flag else lastFor check flags := by
  rw [lastFor, List.filter_append, List.getLast?_append]
  split
  · rename_i h
    simp [h]
  · rename_i h
    simp [h, lastFor]

theorem isSome_lastFor :
    (lastFor check args).isSome = true ↔ ∃ arg ∈ args, checkName? arg = some check := by
  simp [lastFor]

theorem idxOf_concat_of_mem (h : arg ∈ args) (flag : String) :
    (args ++ [flag]).idxOf arg = args.idxOf arg := by
  rw [List.idxOf_append, if_pos h]

theorem idxOf_concat_of_notMem (h : arg ∉ args) : (args ++ [arg]).idxOf arg = args.length := by
  rw [List.idxOf_append, if_neg h, List.idxOf_cons_self, Nat.zero_add]

/-- An argument that is no new flag for the check leaves open no other newest one. -/
theorem isNewest_concat_of_old (h : checkName? arg = some check → arg ∈ args) :
    IsNewest check (args ++ [arg]) flag ↔ IsNewest check args flag := by
  have hback {x : String} (hx : x ∈ args ++ [arg]) (hcheck : checkName? x = some check) :
      x ∈ args := by
    rw [List.mem_append, List.mem_singleton] at hx
    obtain hx | rfl := hx
    · exact hx
    · exact h hcheck
  constructor
  · intro hflag
    have hmem := hback hflag.mem hflag.name
    refine ⟨hmem, hflag.name, ?_⟩
    intro other ho hcheck
    have hle := hflag.last other (List.mem_append_left _ ho) hcheck
    rwa [idxOf_concat_of_mem ho, idxOf_concat_of_mem hmem] at hle
  · intro hflag
    refine ⟨List.mem_append_left _ hflag.mem, hflag.name, ?_⟩
    intro other ho hcheck
    have hmem := hback ho hcheck
    rw [idxOf_concat_of_mem hmem, idxOf_concat_of_mem hflag.mem]
    exact hflag.last other hmem hcheck

theorem isNewest_concat_of_new (h : arg ∉ args) (hcheck : checkName? arg = some check) :
    IsNewest check (args ++ [arg]) flag ↔ arg = flag := by
  have hself : arg ∈ args ++ [arg] := List.mem_append_right _ (List.mem_singleton_self _)
  constructor
  · intro hflag
    have hle := hflag.last arg hself hcheck
    have hmem := hflag.mem
    rw [List.mem_append, List.mem_singleton] at hmem
    obtain hmem | rfl := hmem
    · have hlt := List.idxOf_lt_length_of_mem hmem
      rw [idxOf_concat_of_notMem h, idxOf_concat_of_mem hmem] at hle
      omega
    · rfl
  · rintro rfl
    refine ⟨hself, hcheck, ?_⟩
    intro other ho _
    rw [idxOf_concat_of_notMem h]
    rw [List.mem_append, List.mem_singleton] at ho
    obtain ho | rfl := ho
    · rw [idxOf_concat_of_mem ho]
      exact List.idxOf_le_length
    · exact Nat.le_of_eq (idxOf_concat_of_notMem h)

theorem lastFor_addFlag (hmem : arg ∈ flags ↔ arg ∈ args)
    (hlast : ∀ flag, lastFor check flags = some flag ↔ IsNewest check args flag) (flag : String) :
    lastFor check (addFlag flags arg) = some flag ↔ IsNewest check (args ++ [arg]) flag := by
  by_cases h : arg ∈ flags
  · rw [addFlag_of_mem h, isNewest_concat_of_old fun _ => hmem.1 h]
    exact hlast flag
  · rw [addFlag_of_notMem h, lastFor_concat]
    split
    · rename_i hcheck
      rw [isNewest_concat_of_new (fun ha => h (hmem.2 ha)) hcheck, Option.some.injEq]
    · rename_i hcheck
      rw [isNewest_concat_of_old fun hname => absurd hname hcheck]
      exact hlast flag

theorem lastFor_standing (check : String) (standing : List String) (flag : String) :
    lastFor check (standing.foldl addFlag []) = some flag ↔ IsNewest check standing flag := by
  induction standing using List.reverseRecOn generalizing flag with
  | nil =>
    constructor
    · intro h
      cases h
    · intro h
      cases h.mem
  | append_singleton standing arg ih =>
    rw [List.foldl_append]
    refine lastFor_addFlag ?_ ih flag
    simp

theorem lastFor_mergeFlags (check : String) (standing args : List String) (flag : String) :
    lastFor check (mergeFlags standing args) = some flag ↔
      IsNewest check (standing ++ args) flag := by
  induction args using List.reverseRecOn generalizing flag with
  | nil =>
    rw [mergeFlags_nil, List.append_nil]
    exact lastFor_standing check standing flag
  | append_singleton args arg ih =>
    rw [mergeFlags_concat, ← List.append_assoc]
    split
    · rename_i harg
      refine lastFor_addFlag ?_ ih flag
      simp [mem_mergeFlags, harg]
    · rename_i harg
      rw [isNewest_concat_of_old fun hname => absurd (isCheckFlag_of_checkName? hname) harg]
      exact ih flag

theorem isSome_lastFor_mergeFlags (check : String) (standing args : List String) :
    (lastFor check (mergeFlags standing args)).isSome =
      (lastFor check (standing ++ args)).isSome := by
  rw [Bool.eq_iff_iff, isSome_lastFor, isSome_lastFor]
  constructor
  · rintro ⟨flag, hmem, hcheck⟩
    refine ⟨flag, ?_, hcheck⟩
    rw [mem_mergeFlags] at hmem
    rw [List.mem_append]
    exact hmem.imp_right And.left
  · rintro ⟨flag, hmem, hcheck⟩
    refine ⟨flag, ?_, hcheck⟩
    rw [List.mem_append] at hmem
    rw [mem_mergeFlags]
    exact hmem.imp_right fun h => ⟨h, isCheckFlag_of_checkName? hcheck⟩

theorem lastFor_of_nodup (h : (args.filter fun arg => checkName? arg = some check).Nodup) :
    lastFor check args = some flag ↔ IsNewest check args flag := by
  induction args using List.reverseRecOn generalizing flag with
  | nil =>
    constructor
    · intro hlast
      cases hlast
    · intro hlast
      cases hlast.mem
  | append_singleton args arg ih =>
    rw [List.filter_append, List.nodup_append] at h
    rw [lastFor_concat]
    split
    · rename_i hcheck
      have hnew : arg ∉ args := by
        intro harg
        exact h.2.2 arg (by simp [harg, hcheck]) arg (by simp [hcheck]) rfl
      rw [isNewest_concat_of_new hnew hcheck, Option.some.injEq]
    · rename_i hcheck
      rw [isNewest_concat_of_old fun hname => absurd hname hcheck]
      exact ih h.1

/-- Without a flag that is given twice the strategies agree. -/
theorem strategies_agree (settings : Settings) (request : Request)
    (h : ((settings.checkFlags ++ request.args).filter fun arg =>
      checkName? arg = some check).Nodup) :
    lastFor check (relocate settings.checkFlags request.args).flags =
      lastFor check ((Invocation.bootClassPath request settings).args.drop 3) := by
  refine Option.ext fun flag => ?_
  exact (lastFor_mergeFlags check settings.checkFlags request.args flag).trans
    (lastFor_of_nodup h).symm

/-- With both strategies a check has a flag or has none. The plugin's last flag for it is the
newest one, so the strategies agree on the check as long as the flag that comes last on the boot
class path is the newest one too. -/
theorem severity_of_strategies (settings : Settings) (request : Request) (check : String) :
    let merged := (relocate settings.checkFlags request.args).flags
    let verbatim := (Invocation.bootClassPath request settings).args.drop 3
    (lastFor check merged).isSome = (lastFor check verbatim).isSome ∧
    (∀ flag, lastFor check merged = some flag ↔ IsNewest check verbatim flag) ∧
    (lastFor check merged = lastFor check verbatim ↔
      ∀ flag, lastFor check verbatim = some flag → IsNewest check verbatim flag) := by
  intro merged verbatim
  have hexists : (lastFor check merged).isSome = (lastFor check verbatim).isSome :=
    isSome_lastFor_mergeFlags check settings.checkFlags request.args
  have hlast : ∀ flag, lastFor check merged = some flag ↔ IsNewest check verbatim flag :=
    lastFor_mergeFlags check settings.checkFlags request.args
  refine ⟨hexists, hlast, ?_, ?_⟩
  · intro heq flag hflag
    exact (hlast flag).1 (heq.trans hflag)
  · intro hnewest
    cases hv : lastFor check verbatim with
    | none =>
      rw [hv] at hexists
      exact Option.isNone_iff_eq_none.1 (Option.isSome_eq_false_iff.1 hexists)
    | some flag => exact (hlast flag).2 (hnewest flag hv)

/-- A flag that is given again does not get the last word back as a plugin's. -/
theorem strategies_disagree :
    ¬ ∀ (settings : Settings) (request : Request) (check : String),
      lastFor check (relocate settings.checkFlags request.args).flags =
        lastFor check ((Invocation.bootClassPath request settings).args.drop 3) := by
  intro hagree
  let request : Request :=
    ⟨"java", "javac", "ep.jar", ["-Xep:ReturnValueIgnored:ERROR", "-Xep:ReturnValueIgnored:WARN"]⟩
  have hplugin : lastFor "ReturnValueIgnored" (relocate Settings.standard.checkFlags
      request.args).flags = some "-Xep:ReturnValueIgnored:ERROR" := by
    decide +kernel
  have hboot : lastFor "ReturnValueIgnored" ((Invocation.bootClassPath request .standard).args.drop
      3) = some "-Xep:ReturnValueIgnored:WARN" := by
    decide +kernel
  have heq := hagree .standard request "ReturnValueIgnored"
  rw [hplugin, hboot] at heq
  exact absurd heq (by decide)

end JavacLaunch
