import JavacLaunch.Proofs.Delivery
import JavacLaunch.Proofs.Fields

/-!
# JavacLaunch.Proofs.PluginArgument

The compiler cuts a plugin's argument at its spaces: the plugin's token comes first, then its flags.
A token or a flag that holds a space itself is cut as well.

* `fields_pluginArgument`: what the compiler gets out of the argument.
* `plugin_argument_decodable_iff`: when that is what was put in.
-/

namespace JavacLaunch

theorem fields_pluginArgument (settings : Settings) (flags : List String) :
    fields ' ' (Invocation.pluginArgument settings flags) =
      (settings.pluginToken :: flags).flatMap (fields ' ') :=
  fields_intercalate (List.cons_ne_nil settings.pluginToken flags)

theorem fields_pluginArgument_eq_iff (settings : Settings) (flags : List String) :
    fields ' ' (Invocation.pluginArgument settings flags) = settings.pluginToken :: flags ↔
      ' ' ∉ settings.pluginToken.toList ∧ ∀ flag ∈ flags, ' ' ∉ flag.toList :=
  (fields_intercalate_eq_iff (List.cons_ne_nil settings.pluginToken flags)).trans
    List.forall_mem_cons

/-- The plugin's argument stands behind the exports, the processor path and the compile policy. Cut
at its spaces, it falls into whatever the token and the merged flags fall into one by one. That is
the token and the flags themselves if and only if there is no space in any of them. -/
theorem plugin_argument_decodable_iff (settings : Settings) (request : Request) :
    let merged := (relocate settings.checkFlags request.args).flags
    ∃ argument,
      (Invocation.plugin request settings).args[settings.exports.length + 4]? = some argument ∧
      fields ' ' argument = (settings.pluginToken :: merged).flatMap (fields ' ') ∧
      (fields ' ' argument = settings.pluginToken :: merged ↔
        ' ' ∉ settings.pluginToken.toList ∧ ∀ flag ∈ merged, ' ' ∉ flag.toList) := by
  intro merged
  refine ⟨Invocation.pluginArgument settings merged, ?_, ?_, ?_⟩
  · exact Invocation.getElem?_plugin request settings
  · exact fields_pluginArgument settings merged
  · exact fields_pluginArgument_eq_iff settings merged

end JavacLaunch
