import JavacLaunch.Invocation
import JavacLaunch.Proofs.MergedFlags

/-!
# JavacLaunch.Proofs.Delivery

Both strategies deliver the same content.

On the boot class path the standing flags and the caller's arguments come one after the other, as
they are. As a plugin the tool finds the check flags inside one argument, and the compiler finds all
else behind it.

* `mem_mergeFlags_iff_mem_append`: what goes into the plugin's argument.
* `filter_verbatim`: what does not go there comes behind it, in its order and as often.
* `strategies_deliver_same`: the two command lines compared.
-/

namespace JavacLaunch

variable {standing args : List String} {arg : String}

/-- An argument goes into the plugin's argument if it is a check flag or equals a standing one. -/
theorem mem_mergeFlags_iff_mem_append :
    arg ∈ mergeFlags standing args ↔
      arg ∈ standing ++ args ∧ (isCheckFlag arg = true ∨ arg ∈ standing) := by
  rw [mem_mergeFlags, List.mem_append]
  constructor
  · rintro (hstanding | ⟨harg, hflag⟩)
    · exact ⟨.inl hstanding, .inr hstanding⟩
    · exact ⟨.inr harg, .inl hflag⟩
  · rintro ⟨hmem, hflag | hstanding⟩
    · exact hmem.imp_right fun harg => ⟨harg, hflag⟩
    · exact .inl hstanding

theorem filter_verbatim (standing args : List String) :
    (standing ++ args).filter (· ∉ mergeFlags standing args) = (relocate standing args).rest := by
  have hnone : standing.filter (· ∉ mergeFlags standing args) = [] := by
    rw [List.filter_eq_nil_iff]
    intro flag hflag
    simp [mem_mergeFlags, hflag]
  rw [List.filter_append, hnone, List.nil_append]
  rfl

theorem notMem_of_mem_rest (h : arg ∈ (relocate standing args).rest) :
    isCheckFlag arg = false ∧ arg ∉ mergeFlags standing args := by
  constructor
  · rw [rest_relocate, List.mem_filter, decide_eq_true_iff] at h
    exact h.2.2
  · exact of_decide_eq_true (List.mem_filter.1 h).2

/-- No argument gets lost or is made up. -/
theorem mem_relocate :
    arg ∈ (relocate standing args).flags ∨ arg ∈ (relocate standing args).rest ↔
      arg ∈ standing ∨ arg ∈ args := by
  rw [rest_relocate, relocate, mem_mergeFlags, List.mem_filter, decide_eq_true_iff]
  by_cases hstanding : arg ∈ standing <;> by_cases hflag : isCheckFlag arg = true <;>
    simp [hstanding, hflag]

theorem forall_mem_relocate (standing args : List String) (P : String → Prop) :
    (∀ arg ∈ (relocate standing args).flags, P arg) ∧
        (∀ arg ∈ (relocate standing args).rest, P arg) ↔
      (∀ arg ∈ standing, P arg) ∧ ∀ arg ∈ args, P arg := by
  simp only [← or_imp, ← forall_and, mem_relocate]

namespace Invocation

theorem getElem?_plugin (request : Request) (settings : Settings) :
    (plugin request settings).args[settings.exports.length + 4]? =
      some (pluginArgument settings (relocate settings.checkFlags request.args).flags) := by
  simp [plugin]

theorem drop_plugin (request : Request) (settings : Settings) :
    (plugin request settings).args.drop (settings.exports.length + 5) =
      (relocate settings.checkFlags request.args).rest := by
  simp [plugin]

end Invocation

/-- What comes after the entry class on the boot class path comes as a plugin either inside the
plugin's argument or behind it, but never in both places. Inside are the check flags and whatever
equals a standing flag, each once. Behind it is all else, in its order and as often as it was
given. -/
theorem strategies_deliver_same (settings : Settings) (request : Request) :
    let plugin := (Invocation.plugin request settings).args
    let bootClassPath := (Invocation.bootClassPath request settings).args
    let merged := (relocate settings.checkFlags request.args).flags
    let behind := plugin.drop (settings.exports.length + 5)
    let verbatim := bootClassPath.drop 3
    plugin[settings.exports.length + 4]? = some (" ".intercalate (settings.pluginToken :: merged)) ∧
    bootClassPath[2]? = some settings.entryClass ∧
    merged.Nodup ∧
    (∀ arg, arg ∈ merged ↔
      arg ∈ verbatim ∧ (isCheckFlag arg = true ∨ arg ∈ settings.checkFlags)) ∧
    verbatim.filter (· ∉ merged) = behind ∧
    ∀ arg ∈ behind, isCheckFlag arg = false ∧ arg ∉ merged := by
  intro plugin bootClassPath merged behind verbatim
  have hbehind : behind = (relocate settings.checkFlags request.args).rest :=
    Invocation.drop_plugin request settings
  refine ⟨Invocation.getElem?_plugin request settings, rfl, nodup_mergeFlags _ _, ?_, ?_, ?_⟩
  · intro arg
    exact mem_mergeFlags_iff_mem_append
  · rw [hbehind]
    exact filter_verbatim settings.checkFlags request.args
  · intro arg harg
    rw [hbehind] at harg
    exact notMem_of_mem_rest harg

theorem strategies_deliver_repeated_argument :
    let settings := { Settings.standard with checkFlags := ["-d", "-Xep:A:OFF", "-d"] }
    let request : Request :=
      ⟨"java", "javac", "ep.jar", ["out", "-Xep:B", "-d", "out", "-Xep:A:OFF", "-Xep:B"]⟩
    let plugin := (Invocation.plugin request settings).args
    let merged := (relocate settings.checkFlags request.args).flags
    let behind := plugin.drop (settings.exports.length + 5)
    plugin[settings.exports.length + 4]? = some "-Xplugin:ErrorProne -d -Xep:A:OFF -Xep:B" ∧
      merged = ["-d", "-Xep:A:OFF", "-Xep:B"] ∧ behind = ["out", "out"] ∧ "out" ∈ behind ∧
      isCheckFlag "out" = false ∧ "out" ∉ merged := by
  intro settings request plugin merged behind
  have hmerged : merged = ["-d", "-Xep:A:OFF", "-Xep:B"] := by decide +kernel
  have hbehind : behind = ["out", "out"] := by decide +kernel
  have hout : "out" ∈ behind := by
    rw [hbehind]
    exact List.mem_cons_self
  have hjoined : " ".intercalate (settings.pluginToken :: merged) =
      "-Xplugin:ErrorProne -d -Xep:A:OFF -Xep:B" := by decide +kernel
  obtain ⟨hargument, -, -, -, -, hapart⟩ := strategies_deliver_same settings request
  exact ⟨hargument.trans (congrArg some hjoined), hmerged, hbehind, hout, hapart "out" hout⟩

end JavacLaunch
