import JavacLaunch.Proofs.Except
import JavacLaunch.Proofs.UniqueKeys
import JavacLaunch.Settings.Schema

/-!
# JavacLaunch.Proofs.Decoding

Settings are decoded from a TOML document field by field.

`Settings.value` goes the other way: it is what a document gives a field for the settings to have
what they have there. Settings are the same if their values are, so the values of the fields say
all about what has been decoded.

* `set_eq_ok`: one field replaced, and the frame.
* `foldlM_setEntry_eq_ok`: the entries of a table, one after the other.
* `exists_foldlM_setEntry`: when there is nothing wrong with them.
* `ofText_decodes_schema`: what comes of a document.
-/

namespace JavacLaunch
namespace Settings

/-- What a document gives a field. -/
def value (s : Settings) : Field → Toml.Value
  | .checkFlags => .array (s.checkFlags.map .string)
  | .exports => .array (s.exports.map .string)
  | .pluginSince => .integer s.pluginSince.toNat
  | .processorPathFlag => .string s.processorPathFlag
  | .compilePolicy => .string s.compilePolicy
  | .pluginToken => .string s.pluginToken
  | .bootClassPathFlag => .string s.bootClassPathFlag
  | .entryClass => .string s.entryClass

/-- The values that a field takes: lists of strings, a number of 32 bits, and strings. -/
def Field.Takes (v : Toml.Value) : Field → Prop
  | .checkFlags | .exports => ∃ items : List String, v = .array (items.map .string)
  | .pluginSince => ∃ n : Int, v = .integer n ∧ 0 ≤ n ∧ n < UInt32.size
  | .processorPathFlag | .compilePolicy | .pluginToken | .bootClassPathFlag | .entryClass =>
    ∃ text, v = .string text

variable {s s' : Settings} {f g : Field} {v : Toml.Value} {key : String} {entries : Toml.Table}

theorem eq_of_value_eq (h : ∀ f, s.value f = s'.value f) : s = s' := by
  have hlist {xs ys : List String}
      (h : Toml.Value.array (xs.map .string) = .array (ys.map .string)) : xs = ys :=
    (List.map_inj_right fun _ _ => Toml.Value.string.inj).1 (Toml.Value.array.inj h)
  have hword (h : Toml.Value.integer s.pluginSince.toNat = .integer s'.pluginSince.toNat) :
      s.pluginSince = s'.pluginSince :=
    UInt32.toNat_inj.1 (Int.ofNat.inj (Toml.Value.integer.inj h))
  have hstring {x y : String} (h : Toml.Value.string x = .string y) : x = y :=
    Toml.Value.string.inj h
  cases s
  cases s'
  simp only [mk.injEq]
  exact ⟨hlist (h .checkFlags), hlist (h .exports), hword (h .pluginSince),
    hstring (h .processorPathFlag), hstring (h .compilePolicy), hstring (h .pluginToken),
    hstring (h .bootClassPathFlag), hstring (h .entryClass)⟩

theorem Field.key_injective (h : f.key = g.key) : f = g := by
  cases f <;> cases g <;> first | rfl | exact absurd h (by decide)

theorem Field.ofKey?_eq_some_iff : Field.ofKey? key = some f ↔ f.key = key := by
  constructor
  · intro h
    simpa using List.find?_some h
  · rintro rfl
    cases f <;> decide

theorem stringOf_eq_ok {x : String} : stringOf v = .ok x ↔ v = .string x := by
  cases v <;> simp [stringOf]

theorem mapM_stringOf_eq_ok {items : List Toml.Value} {xs : List String} :
    items.mapM stringOf = .ok xs ↔ items = xs.map .string := by
  induction items generalizing xs with
  | nil => simp [List.mapM_nil, pure, Except.pure, eq_comm]
  | cons item rest ih =>
    simp only [mapM_cons_eq_ok, stringOf_eq_ok, ih]
    cases xs with
    | nil => simp
    | cons x xs => simp

theorem stringsOf_eq_ok {xs : List String} :
    stringsOf v = .ok xs ↔ v = .array (xs.map .string) := by
  cases v with
  | array items => simp [stringsOf, mapM_stringOf_eq_ok]
  | _ => simp [stringsOf]

theorem wordOf_eq_ok {n : UInt32} : wordOf v = .ok n ↔ v = .integer n.toNat := by
  constructor
  · intro h
    unfold wordOf at h
    split at h
    · rename_i i
      split at h
      · rename_i hrange
        rw [Bool.and_eq_true, decide_eq_true_iff, decide_eq_true_iff] at hrange
        have hsize : i.toNat < UInt32.size := by omega
        cases h
        rw [UInt32.toNat_ofNat_of_lt' hsize, Int.toNat_of_nonneg hrange.1]
      · cases h
    · cases h
  · rintro rfl
    have hsize := n.toNat_lt_size
    have hrange : 0 ≤ (n.toNat : Int) ∧ (n.toNat : Int) < UInt32.size := by omega
    simp only [wordOf, decide_eq_true hrange.1, decide_eq_true hrange.2, Bool.and_self, if_true,
      Int.toNat_natCast, UInt32.ofNat_toNat]

theorem value_of_set (h : s.set v f = .ok s') :
    s'.value f = v ∧ ∀ g, g ≠ f → s'.value g = s.value g := by
  cases f
  all_goals
    simp only [set, map_eq_ok, stringsOf_eq_ok, stringOf_eq_ok, wordOf_eq_ok] at h
    obtain ⟨x, rfl, rfl⟩ := h
    refine ⟨rfl, fun g hg => ?_⟩
    cases g
  all_goals first | rfl | exact absurd rfl hg

theorem takes_value (s : Settings) (f : Field) : f.Takes (s.value f) := by
  cases f with
  | pluginSince =>
    have hsize := s.pluginSince.toNat_lt_size
    exact ⟨s.pluginSince.toNat, rfl, by omega, by omega⟩
  | _ => exact ⟨_, rfl⟩

theorem exists_set_of_takes (s : Settings) (h : f.Takes v) : ∃ s', s.set v f = .ok s' := by
  cases f with
  | checkFlags | exports =>
    obtain ⟨items, rfl⟩ := h
    exact ⟨_, map_eq_ok.2 ⟨items, stringsOf_eq_ok.2 rfl, rfl⟩⟩
  | pluginSince =>
    obtain ⟨n, rfl, hn, hlt⟩ := h
    have hsize : n.toNat < UInt32.size := by omega
    have hword : wordOf (.integer n) = .ok (UInt32.ofNat n.toNat) := by
      rw [wordOf_eq_ok, UInt32.toNat_ofNat_of_lt' hsize, Int.toNat_of_nonneg hn]
    exact ⟨_, map_eq_ok.2 ⟨_, hword, rfl⟩⟩
  | _ =>
    obtain ⟨text, rfl⟩ := h
    exact ⟨_, rfl⟩

theorem exists_set_iff (s : Settings) : (∃ s', s.set v f = .ok s') ↔ f.Takes v := by
  constructor
  · rintro ⟨s', h⟩
    rw [← (value_of_set h).1]
    exact takes_value s' f
  · exact exists_set_of_takes s

/-- A field is replaced, and no other one. -/
theorem set_eq_ok :
    s.set v f = .ok s' ↔ s'.value f = v ∧ ∀ g, g ≠ f → s'.value g = s.value g := by
  constructor
  · exact value_of_set
  · rintro ⟨rfl, hframe⟩
    obtain ⟨s₁, hset⟩ := exists_set_of_takes s (takes_value s' f)
    obtain ⟨hvalue, hframe₁⟩ := value_of_set hset
    have hsame : s₁ = s' := by
      refine eq_of_value_eq fun g => ?_
      by_cases hg : g = f
      · rw [hg, hvalue]
      · rw [hframe₁ g hg, hframe g hg]
    rw [hset, hsame]

theorem setEntry_eq_ok {e : String × Toml.Value} :
    s.setEntry e = .ok s' ↔ ∃ f : Field, f.key = e.1 ∧ s.set e.2 f = .ok s' := by
  unfold setEntry
  split
  · rename_i f hf
    rw [Field.ofKey?_eq_some_iff] at hf
    constructor
    · exact fun h => ⟨f, hf, h⟩
    · rintro ⟨g, hg, h⟩
      rwa [Field.key_injective (hf.trans hg.symm)]
  · rename_i hnone
    constructor
    · nofun
    · rintro ⟨f, hf, _⟩
      rw [Field.ofKey?_eq_some_iff.2 hf] at hnone
      cases hnone

section Entries

variable {entries entries' : Toml.Table}

theorem lookup_of_notMem (h : key ∉ entries.map Prod.fst) : entries.lookup key = none := by
  rw [List.lookup_eq_none_iff]
  intro e he
  rw [bne_iff_ne]
  rintro rfl
  exact h (List.mem_map_of_mem he)

/-- A table that gives no key twice gives each value for its key, wherever it stands. -/
theorem lookup_eq_some_iff_mem (hnodup : (entries.map Prod.fst).Nodup) :
    entries.lookup key = some v ↔ (key, v) ∈ entries := by
  induction entries with
  | nil => simp
  | cons e rest ih =>
    obtain ⟨k, w⟩ := e
    rw [List.map_cons, List.nodup_cons] at hnodup
    by_cases hkey : key = k
    · subst hkey
      have hnew : (key, v) ∉ rest := fun h => hnodup.1 (List.mem_map.2 ⟨_, h, rfl⟩)
      simp [hnew, eq_comm]
    · have hbeq : (key == k) = false := beq_eq_false_iff_ne.2 hkey
      rw [List.lookup_cons, hbeq]
      simp [hkey, ih hnodup.2]

theorem lookup_of_perm (hnodup : (entries.map Prod.fst).Nodup)
    (hnodup' : (entries'.map Prod.fst).Nodup) (h : entries.Perm entries') (key : String) :
    entries.lookup key = entries'.lookup key := by
  refine Option.ext fun v => ?_
  rw [lookup_eq_some_iff_mem hnodup, lookup_eq_some_iff_mem hnodup', h.mem_iff]

/-- An entry whose field has been replaced may as well still be looked up. -/
theorem getD_lookup_of_set (hnew : f.key ∉ entries.map Prod.fst) (hset : s.set v f = .ok s')
    (g : Field) :
    (entries.lookup g.key).getD (s'.value g) =
      (List.lookup g.key ((f.key, v) :: entries)).getD (s.value g) := by
  obtain ⟨hvalue, hframe⟩ := set_eq_ok.1 hset
  by_cases hg : g = f
  · rw [hg, lookup_of_notMem hnew, List.lookup_cons_self]
    exact hvalue
  · have hkey : g.key ≠ f.key := fun h => hg (Field.key_injective h)
    rw [List.lookup_cons, beq_eq_false_iff_ne.2 hkey, hframe g hg]

theorem foldlM_setEntry_eq_ok (hnodup : (entries.map Prod.fst).Nodup) :
    entries.foldlM setEntry s = .ok s' ↔
      (∀ e ∈ entries, ∃ f : Field, f.key = e.1) ∧
      ∀ f : Field, s'.value f = (entries.lookup f.key).getD (s.value f) := by
  induction entries generalizing s with
  | nil =>
    constructor
    · intro h
      cases h
      exact ⟨nofun, fun _ => rfl⟩
    · rintro ⟨_, h⟩
      exact congrArg Except.ok (eq_of_value_eq fun f => (h f).symm)
  | cons e rest ih =>
    obtain ⟨key, v⟩ := e
    rw [List.map_cons, List.nodup_cons] at hnodup
    simp only [foldlM_cons_eq_ok, setEntry_eq_ok, ih hnodup.2, List.forall_mem_cons]
    -- no later entry has this key, so what it sets stays to the end
    constructor
    · rintro ⟨s₁, ⟨f, rfl, hset⟩, hknown, hvalues⟩
      refine ⟨⟨⟨f, rfl⟩, hknown⟩, fun g => ?_⟩
      rw [hvalues g, getD_lookup_of_set hnodup.1 hset]
    · rintro ⟨⟨⟨f, rfl⟩, hknown⟩, hvalues⟩
      have hvalue : s'.value f = v := by
        rw [hvalues f, List.lookup_cons_self]
        rfl
      -- its value can be set, since in the end some settings have it
      obtain ⟨s₁, hset⟩ := exists_set_of_takes s (takes_value s' f)
      rw [hvalue] at hset
      refine ⟨s₁, ⟨f, rfl, hset⟩, hknown, fun g => ?_⟩
      rw [hvalues g, getD_lookup_of_set hnodup.1 hset]

/-- Entries are taken over or not by themselves, whatever settings they replace. -/
theorem exists_foldlM_setEntry (s : Settings) :
    (∃ s', entries.foldlM setEntry s = .ok s') ↔
      ∀ e ∈ entries, ∃ f : Field, f.key = e.1 ∧ f.Takes e.2 := by
  induction entries generalizing s with
  | nil => exact ⟨fun _ => nofun, fun _ => ⟨s, rfl⟩⟩
  | cons e rest ih =>
    simp only [foldlM_cons_eq_ok, setEntry_eq_ok, List.forall_mem_cons]
    constructor
    · rintro ⟨s', s₁, ⟨f, hf, hset⟩, hrest⟩
      exact ⟨⟨f, hf, (exists_set_iff s).1 ⟨s₁, hset⟩⟩, (ih s₁).1 ⟨s', hrest⟩⟩
    · rintro ⟨⟨f, hf, htakes⟩, hrest⟩
      obtain ⟨s₁, hset⟩ := (exists_set_iff s).2 htakes
      obtain ⟨s', hs'⟩ := (ih s₁).2 hrest
      exact ⟨s', s₁, ⟨f, hf, hset⟩, hs'⟩

end Entries

section Text

variable {text : String} {entries : Toml.Table}

theorem ofText_eq_ok (h : Toml.Table.ofText? text = some entries) :
    ofText text = .ok s ↔ entries.foldlM setEntry standard = .ok s := by
  rw [ofText, h]
  exact mapError_eq_ok

end Text

/-- A TOML document is decoded if every key is that of a field and every value is one that the field
takes. A field then has the value that the document gives for its key, and its standard value if
there is none. The order of the entries and the ways in which they are written do not matter. -/
theorem ofText_decodes_schema (text : String) (entries : Toml.Table)
    (h : Toml.Table.ofText? text = some entries) :
    (entries.map Prod.fst).Nodup ∧
    ((∃ s, ofText text = .ok s) ↔ ∀ e ∈ entries, ∃ f : Field, f.key = e.1 ∧ f.Takes e.2) ∧
    (∀ s, ofText text = .ok s →
      ∀ f : Field, s.value f = (entries.lookup f.key).getD (standard.value f)) ∧
    ∀ text' entries', Toml.Table.ofText? text' = some entries' → entries.Perm entries' →
      ∀ s, ofText text = .ok s ↔ ofText text' = .ok s := by
  have hnodup := Toml.nodup_keys_ofText? h
  refine ⟨hnodup, ?_, ?_, ?_⟩
  · simp only [ofText_eq_ok h]
    exact exists_foldlM_setEntry standard
  · intro s hs
    exact ((foldlM_setEntry_eq_ok hnodup).1 ((ofText_eq_ok h).1 hs)).2
  · intro text' entries' h' hperm s
    have hnodup' := Toml.nodup_keys_ofText? h'
    simp only [ofText_eq_ok h, ofText_eq_ok h', foldlM_setEntry_eq_ok hnodup,
      foldlM_setEntry_eq_ok hnodup', lookup_of_perm hnodup hnodup' hperm, hperm.mem_iff]

/-- The entries of a table that holds nothing but strings, which can be compared. -/
def stringEntries? : Toml.Table → Option (List (String × String))
  | [] => some []
  | (k, .string text) :: rest => (stringEntries? rest).map ((k, text) :: ·)
  | _ :: _ => none

theorem eq_of_stringEntries? {entries : Toml.Table} {strings : List (String × String)}
    (h : stringEntries? entries = some strings) :
    entries = strings.map fun e => (e.1, .string e.2) := by
  fun_induction stringEntries? entries generalizing strings with
  | case1 =>
    cases h
    rfl
  | case2 k text rest ih =>
    obtain ⟨more, hmore, rfl⟩ := Option.map_eq_some_iff.1 h
    rw [ih hmore, List.map_cons]
  | case3 => cases h

theorem ofText_spelled_differently :
    let text := "entry_class=''\nplugin_token='A'"
    let text' := "'plugin_token'=\"\\u0041\"\n\"entry_class\"=\"\""
    ∃ s, ofText text = .ok s ∧ ofText text' = .ok s ∧ s.value .pluginToken = .string "A" ∧
      s.value .checkFlags = standard.value .checkFlags := by
  intro text text'
  have hread : (Toml.Table.ofText? text).bind stringEntries? =
      some [("entry_class", ""), ("plugin_token", "A")] := by
    decide +kernel
  have hread' : (Toml.Table.ofText? text').bind stringEntries? =
      some [("plugin_token", "A"), ("entry_class", "")] := by
    decide +kernel
  obtain ⟨entries, h, hstrings⟩ := Option.bind_eq_some_iff.1 hread
  obtain ⟨entries', h', hstrings'⟩ := Option.bind_eq_some_iff.1 hread'
  obtain rfl := eq_of_stringEntries? hstrings
  obtain rfl := eq_of_stringEntries? hstrings'
  obtain ⟨_, hexists, hvalues, hsame⟩ := ofText_decodes_schema text _ h
  obtain ⟨s, hs⟩ := hexists.2 (by
    rw [List.map_cons, List.forall_mem_cons, List.map_singleton, List.forall_mem_singleton]
    exact ⟨⟨.entryClass, rfl, "", rfl⟩, ⟨.pluginToken, rfl, "A", rfl⟩⟩)
  exact ⟨s, hs, (hsame text' _ h' (List.Perm.swap _ _ _) s).1 hs, hvalues s hs .pluginToken,
    hvalues s hs .checkFlags⟩

end Settings
end JavacLaunch
