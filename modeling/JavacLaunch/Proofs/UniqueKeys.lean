import JavacLaunch.Toml.Document

/-!
# JavacLaunch.Proofs.UniqueKeys

A TOML document gives no key twice.

The table of a document grows by one statement after the other. Each statement alters what one key
of the outermost table holds, adds a key that is not there, or moves a key to the end.

* `keys_alter`, `nodup_keys_openTable`: one operation on the outermost table.
* `Draft.nodup_keys_add?`: one statement.
* `nodup_keys_ofText?`: a whole document.
-/

namespace JavacLaunch
namespace Toml

variable {k : String} {t t' : Tree} {f : Tree → Option Tree}

namespace Tree

theorem nodup_keys_concat {n : Node} (hk : k ∉ t.map Prod.fst) (hnodup : (t.map Prod.fst).Nodup) :
    ((t ++ [(k, n)]).map Prod.fst).Nodup := by
  rw [List.map_append]
  exact (List.perm_append_singleton _ _).nodup_iff.2 (List.nodup_cons.2 ⟨hk, hnodup⟩)

/-- An altered table has the keys it had, or one more at its end. -/
theorem keys_alter {f : Option Node → Option Node} (h : t.alter k f = some t') :
    t'.map Prod.fst = t.map Prod.fst ∨
      k ∉ t.map Prod.fst ∧ ∃ n, t'.map Prod.fst = (t ++ [(k, n)]).map Prod.fst := by
  induction t generalizing t' with
  | nil =>
    obtain ⟨n, _, rfl⟩ := Option.map_eq_some_iff.1 h
    exact .inr ⟨List.not_mem_nil, n, rfl⟩
  | cons e rest ih =>
    rw [alter] at h
    split at h
    · rename_i hk
      obtain ⟨n, _, rfl⟩ := Option.map_eq_some_iff.1 h
      exact .inl (by simp [hk])
    · rename_i hk
      obtain ⟨more, hmore, rfl⟩ := Option.map_eq_some_iff.1 h
      obtain hsame | ⟨hnew, n, hmore⟩ := ih hmore
      · exact .inl (by simp [hsame])
      · exact .inr ⟨by simpa [Ne.symm hk] using hnew, n, by simp [hmore]⟩

theorem nodup_keys_alter {f : Option Node → Option Node} (h : t.alter k f = some t')
    (hnodup : (t.map Prod.fst).Nodup) : (t'.map Prod.fst).Nodup := by
  obtain hsame | ⟨hnew, n, hmore⟩ := keys_alter h
  · rwa [hsame]
  · rw [hmore]
    exact nodup_keys_concat hnew hnodup

theorem nodup_keys_openTable (h : t.openTable k = some t') (hnodup : (t.map Prod.fst).Nodup) :
    (t'.map Prod.fst).Nodup := by
  unfold openTable at h
  split at h
  · rename_i hget
    cases h
    have hk : k ∉ t.map Prod.fst := by
      intro hmem
      obtain ⟨e, he, rfl⟩ := List.mem_map.1 hmem
      simpa using List.lookup_eq_none_iff.1 hget e he
    exact nodup_keys_concat hk hnodup
  · -- a table that longer headers implied moves to the end
    cases h
    have hk : k ∉ (t.erase k).map Prod.fst := by
      simp [erase]
    have hrest : ((t.erase k).map Prod.fst).Nodup :=
      (List.filter_sublist.map Prod.fst).nodup hnodup
    exact nodup_keys_concat hk hrest
  · cases h

theorem nodup_keys_updateAt {path : List String}
    (hf : ∀ {t t'}, f t = some t' → (t.map Prod.fst).Nodup → (t'.map Prod.fst).Nodup)
    (h : updateAt f path t = some t') (hnodup : (t.map Prod.fst).Nodup) :
    (t'.map Prod.fst).Nodup := by
  cases path with
  | nil => exact hf h hnodup
  | cons k path => exact nodup_keys_alter h hnodup

theorem nodup_keys_insert {path : List String} {last : String} {v : Value}
    (h : t.insert path last v = some t') (hnodup : (t.map Prod.fst).Nodup) :
    (t'.map Prod.fst).Nodup := by
  cases path with
  | nil => exact nodup_keys_alter h hnodup
  | cons k path => exact nodup_keys_alter h hnodup

end Tree

theorem keys_finishEntries (t : Tree) : (finishEntries t).map Prod.fst = t.map Prod.fst := by
  induction t with
  | nil => rfl
  | cons e rest ih => rw [finishEntries, List.map_cons, List.map_cons, ih]

theorem Draft.nodup_keys_add? {d d' : Draft} {s : Statement} (h : d.add? s = some d')
    (hnodup : (d.tree.map Prod.fst).Nodup) : (d'.tree.map Prod.fst).Nodup := by
  cases s with
  | entry key v =>
    obtain ⟨t, ht, rfl⟩ := Option.map_eq_some_iff.1 h
    exact Tree.nodup_keys_updateAt Tree.nodup_keys_insert ht hnodup
  | table key =>
    obtain ⟨t, ht, rfl⟩ := Option.map_eq_some_iff.1 h
    exact Tree.nodup_keys_updateAt Tree.nodup_keys_openTable ht hnodup
  | element key =>
    obtain ⟨t, ht, rfl⟩ := Option.map_eq_some_iff.1 h
    exact Tree.nodup_keys_updateAt Tree.nodup_keys_alter ht hnodup

theorem Draft.nodup_keys_foldlM {d d' : Draft} {statements : List Statement}
    (h : statements.foldlM Draft.add? d = some d') (hnodup : (d.tree.map Prod.fst).Nodup) :
    (d'.tree.map Prod.fst).Nodup := by
  induction statements generalizing d with
  | nil =>
    cases h
    exact hnodup
  | cons s rest ih =>
    rw [List.foldlM_cons] at h
    obtain ⟨d₁, hd₁, hrest⟩ := Option.bind_eq_some_iff.1 h
    exact ih hrest (Draft.nodup_keys_add? hd₁ hnodup)

theorem nodup_keys_ofText? {text : String} {entries : Table}
    (h : Table.ofText? text = some entries) : (entries.map Prod.fst).Nodup := by
  obtain ⟨statements, _, htable⟩ := Option.bind_eq_some_iff.1 h
  obtain ⟨d, hd, rfl⟩ := Option.map_eq_some_iff.1 htable
  rw [keys_finishEntries]
  exact Draft.nodup_keys_foldlM hd List.nodup_nil

end Toml
end JavacLaunch
