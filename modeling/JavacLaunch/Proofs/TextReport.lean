import JavacLaunch.Proofs.Delivery
import JavacLaunch.Proofs.Fields
import JavacLaunch.Report

/-!
# JavacLaunch.Proofs.TextReport

A dry run prints one argument a line. An argument that holds a line feed takes several lines, and
then the arguments cannot be told from the lines any more.

* `unlines_eq`: the lines of a report, and the line feed at its end.
* `isRow_args_plugin_iff`: where a line feed in the plugin's command line can come from.
* `text_report_decodable_iff`: when the lines are the arguments.
-/

namespace JavacLaunch

/-- A text without line feeds. -/
def IsRow (text : String) : Prop :=
  '\n' ∉ text.toList

theorem unlines_eq {items : List String} (h : items ≠ []) :
    unlines items = "\n".intercalate items ++ "\n" := by
  induction items with
  | nil => exact absurd rfl h
  | cons item more ih =>
    cases more with
    | nil => simp [unlines]
    | cons next more =>
      have hmore := ih (List.cons_ne_nil next more)
      rw [unlines, List.map_cons, String.join_cons, ← unlines, hmore]
      simp [String.append_assoc]

namespace Invocation

theorem args_build_ne_nil (release : Release) (request : Request) (settings : Settings) :
    (build release request settings).args ≠ [] := by
  unfold build
  split <;> simp [plugin, bootClassPath]

/-- The spaces between the flags hold no line feed. -/
theorem isRow_pluginArgument_iff (settings : Settings) (flags : List String) :
    IsRow (pluginArgument settings flags) ↔
      IsRow settings.pluginToken ∧ ∀ flag ∈ flags, IsRow flag :=
  (notMem_intercalate_iff (by decide)).trans List.forall_mem_cons

theorem isRow_args_plugin_iff (request : Request) (settings : Settings) :
    (∀ arg ∈ (plugin request settings).args, IsRow arg) ↔
      IsRow request.compiler ∧ IsRow request.tool ∧ (∀ arg ∈ settings.exports, IsRow arg) ∧
      IsRow settings.processorPathFlag ∧ IsRow settings.compilePolicy ∧
      IsRow settings.pluginToken ∧ (∀ flag ∈ settings.checkFlags, IsRow flag) ∧
      ∀ arg ∈ request.args, IsRow arg := by
  have hrelocate := forall_mem_relocate settings.checkFlags request.args IsRow
  simp only [plugin, List.forall_mem_append, List.forall_mem_cons, List.not_mem_nil,
    false_implies, implies_true, true_and, isRow_pluginArgument_iff, and_assoc]
  constructor
  · intro h
    obtain ⟨hcompiler, hexports, hflag, htool, hpolicy, htoken, hmerged, hrest⟩ := h
    obtain ⟨hstanding, hargs⟩ := hrelocate.1 ⟨hmerged, hrest⟩
    exact ⟨hcompiler, htool, hexports, hflag, hpolicy, htoken, hstanding, hargs⟩
  · intro h
    obtain ⟨hcompiler, htool, hexports, hflag, hpolicy, htoken, hstanding, hargs⟩ := h
    obtain ⟨hmerged, hrest⟩ := hrelocate.2 ⟨hstanding, hargs⟩
    exact ⟨hcompiler, hexports, hflag, htool, hpolicy, htoken, hmerged, hrest⟩

end Invocation

/-- A text report ends with a line feed, and the lines in front of it are the arguments if and only
if no argument holds a line feed. Relocating check flags does not change whether one does: for the
plugin's command line all its parts and all of the caller's arguments count. -/
theorem text_report_decodable_iff (release : Release) (request : Request) (settings : Settings) :
    let p := Prepared.build release request settings
    let args := p.invocation.args
    ∃ rows, p.report .text = rows ++ "\n" ∧
      (fields '\n' rows = args ↔ ∀ arg ∈ args, IsRow arg) ∧
      (args = (Invocation.plugin request settings).args →
        (fields '\n' rows = args ↔
          IsRow request.compiler ∧ IsRow request.tool ∧ (∀ arg ∈ settings.exports, IsRow arg) ∧
          IsRow settings.processorPathFlag ∧ IsRow settings.compilePolicy ∧
          IsRow settings.pluginToken ∧ (∀ flag ∈ settings.checkFlags, IsRow flag) ∧
          ∀ arg ∈ request.args, IsRow arg)) := by
  intro p args
  have hne : args ≠ [] := Invocation.args_build_ne_nil release request settings
  have hrows : fields '\n' ("\n".intercalate args) = args ↔ ∀ arg ∈ args, IsRow arg :=
    fields_intercalate_eq_iff hne
  refine ⟨"\n".intercalate args, unlines_eq hne, hrows, fun hplugin => ?_⟩
  rw [hrows, hplugin]
  exact Invocation.isRow_args_plugin_iff request settings

theorem text_report_split_in_flag :
    let request : Request := ⟨"java", "javac", "ep.jar", ["A.java", "-Xep:A\n:OFF"]⟩
    let p := Prepared.build ⟨"17", 17⟩ request .standard
    p.invocation.args = (Invocation.plugin request .standard).args ∧
      ∃ rows, p.report .text = rows ++ "\n" ∧ fields '\n' rows ≠ p.invocation.args := by
  intro request p
  obtain ⟨rows, hreport, -, hplugin⟩ := text_report_decodable_iff ⟨"17", 17⟩ request .standard
  have hargs : p.invocation.args = (Invocation.plugin request .standard).args := by decide +kernel
  refine ⟨hargs, rows, hreport, fun hsame => ?_⟩
  obtain ⟨-, -, -, -, -, -, -, hrequest⟩ := (hplugin hargs).1 hsame
  exact hrequest "-Xep:A\n:OFF" (by simp [request]) (by decide)

end JavacLaunch
