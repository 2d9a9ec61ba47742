import JavacLaunch.Proofs.Decoding
import JavacLaunch.Proofs.Front
import JavacLaunch.Proofs.Written
import JavacLaunch.Text.Lines

/-!
# JavacLaunch.Proofs.RoundTrip

Settings can be written down, field by field and in any order, and are read back.

* `Toml.Writes`: a text that is read as a value at the end of a line.
* `Toml.statementsOf?_rows`: lines of a bare key and a value, in front of any rest.
* `Toml.ofText?_lines`: a document of such lines.
* `Toml.ofStatements?_entries`: the table of entries whose keys differ.
* `Settings.ofText_written_fields`: the settings that come of a document.
-/

namespace JavacLaunch
namespace Toml

/-- What a line may go on with after its value: nothing, or a line feed. -/
def AtLineEnd (rest : List Char) : Prop :=
  ∀ c ∈ rest.head?, c = '\n'

/-- A text that is read as a value at the end of a line. -/
structure Writes (text : List Char) (v : Value) : Prop where
  ne_nil : text ≠ []
  head : ∀ c ∈ text.head?, isSpace c = false
  read : ∀ rest, AtLineEnd rest → value? (text ++ rest) = some (v, rest)

section Values

theorem writes_writeString (hex : Hex) (s : String) : Writes (writeString hex s) (.string s) where
  ne_nil := List.cons_ne_nil _ _
  head := by
    rintro c ⟨⟩
    rfl
  read := by
    intro rest hend
    refine valueOf?_writeString hex s _ fun hquote => ?_
    exact absurd (hend _ hquote) (by decide)

theorem writes_writeList (hex : Hex) (items : List String) :
    Writes (writeList hex items) (.array (items.map .string)) where
  ne_nil := List.cons_ne_nil _ _
  head := by
    rintro c ⟨⟩
    rfl
  read := fun rest _ => valueOf?_writeList hex items _ rest

theorem writes_writeNumber {n : Nat} (h : n < 0x8000000000000000) :
    Writes (writeNumber n) (.integer n) where
  ne_nil := Nat.toDigits_ne_nil
  head := by
    intro c hc
    have hdigit := isDigit_of_mem_writeNumber c (List.mem_of_mem_head? hc)
    by_cases hspace : isSpace c = true
    · simp only [isSpace, Bool.or_eq_true, decide_eq_true_iff] at hspace
      rcases hspace with rfl | rfl <;> exact absurd hdigit (by decide)
    · exact Bool.eq_false_iff.2 hspace
  read := by
    intro rest hend
    refine valueOf?_writeNumber h _ fun c hc => ?_
    rw [hend c hc]
    decide

end Values

section Keys

variable {key rest : List Char}

theorem skipSpace_of_head (h : ∀ c ∈ rest.head?, isSpace c = false) : skipSpace rest = rest :=
  dropWhile_of_head h

theorem skipSpace_atLineEnd (h : AtLineEnd rest) : skipSpace rest = rest := by
  refine skipSpace_of_head fun c hc => ?_
  rw [h c hc]
  decide

theorem ne_of_isKeyChar {c d : Char} (h : isKeyChar c = true) (hd : isKeyChar d = false) :
    c ≠ d := by
  rintro rfl
  rw [h] at hd
  cases hd

theorem isSpace_of_isKeyChar {c : Char} (h : isKeyChar c = true) : isSpace c = false := by
  have hblank : c ≠ ' ' := ne_of_isKeyChar h (by decide)
  have htab : c ≠ '\t' := ne_of_isKeyChar h (by decide)
  simp [isSpace, hblank, htab]

theorem beginsText_of_isKeyChar {c : Char} (h : isKeyChar c = true) : beginsText c = true := by
  have hfeed : c ≠ '\n' := ne_of_isKeyChar h (by decide)
  have hreturn : c ≠ '\r' := ne_of_isKeyChar h (by decide)
  have hhash : c ≠ '#' := ne_of_isKeyChar h (by decide)
  simp [beginsText, isSpace_of_isKeyChar h, hfeed, hreturn, hhash]

/-- A key of letters, digits, hyphens and underscores. -/
structure IsBare (key : List Char) : Prop where
  ne_nil : key ≠ []
  chars : ∀ c ∈ key, isKeyChar c = true

theorem IsBare.exists_head (h : IsBare key) : ∃ c more, key = c :: more ∧ isKeyChar c = true := by
  obtain ⟨c, more, rfl⟩ := List.exists_cons_of_ne_nil h.ne_nil
  exact ⟨c, more, rfl, h.chars c List.mem_cons_self⟩

theorem keyPart?_bare (h : IsBare key) (rest : List Char) :
    keyPart? (key ++ ' ' :: rest) = some (String.ofList key, ' ' :: rest) := by
  have hspace : ∀ c ∈ (' ' :: rest).head?, isKeyChar c = false := by
    intro c hc
    rw [← Option.some.inj hc]
    decide
  rw [keyPart?, takeWhile_front_append h.chars hspace, dropWhile_front_append h.chars hspace]
  split
  · exact absurd rfl h.ne_nil
  · rfl

theorem key?_bare (h : IsBare key) (rest : List Char) :
    key? (key ++ ' ' :: '=' :: rest) = some (⟨[], String.ofList key⟩, '=' :: rest) := by
  have hskip : skipSpace (key ++ ' ' :: '=' :: rest) = key ++ ' ' :: '=' :: rest := by
    obtain ⟨c, more, rfl, hc⟩ := h.exists_head
    exact skipSpace_of_head (by rintro d ⟨⟩; exact isSpace_of_isKeyChar hc)
  have hequals : skipSpace (' ' :: '=' :: rest) = '=' :: rest := rfl
  rw [key?, show depthLimit - 1 = 78 + 1 from rfl, keyOf?, hskip, keyPart?_bare h]
  simp only [hequals]
  rfl

end Keys

/-- A line that gives a bare key a value. -/
structure Line where
  key : List Char
  text : List Char
  value : Value
  bare : IsBare key
  writes : Writes text value

namespace Line

def chars (l : Line) : List Char :=
  l.key ++ ' ' :: '=' :: ' ' :: l.text

def statement (l : Line) : Statement :=
  .entry ⟨[], String.ofList l.key⟩ l.value

theorem exists_head (l : Line) : ∃ c more, l.chars = c :: more ∧ isKeyChar c = true := by
  obtain ⟨c, more, hkey, hc⟩ := l.bare.exists_head
  exact ⟨c, more ++ ' ' :: '=' :: ' ' :: l.text, by rw [chars, hkey]; rfl, hc⟩

theorem skipBlank_chars (l : Line) (rest : List Char) :
    skipBlank (l.chars ++ rest) = l.chars ++ rest := by
  obtain ⟨c, more, hl, hc⟩ := l.exists_head
  rw [hl]
  exact skipBlank_cons (beginsText_of_isKeyChar hc) _

variable {rest : List Char}

theorem keyValue?_chars (l : Line) (hend : AtLineEnd rest) :
    keyValue? value? (l.chars ++ rest) = some ((⟨[], String.ofList l.key⟩, l.value), rest) := by
  have hl : l.chars ++ rest = l.key ++ ' ' :: '=' :: ' ' :: (l.text ++ rest) := by
    simp [chars]
  have hskip : skipSpace (' ' :: (l.text ++ rest)) = l.text ++ rest := by
    have hdrop : skipSpace (' ' :: (l.text ++ rest)) = skipSpace (l.text ++ rest) := rfl
    obtain ⟨c, more, htext⟩ := List.exists_cons_of_ne_nil l.writes.ne_nil
    have hhead := l.writes.head
    rw [htext] at hhead
    rw [hdrop, htext, skipSpace_of_head]
    exact hhead
  rw [keyValue?, hl, key?_bare l.bare]
  simp only [hskip, l.writes.read rest hend, Option.map_some, skipSpace_atLineEnd hend]

theorem statement?_chars (l : Line) (hend : AtLineEnd rest) :
    statement? (l.chars ++ rest) = some (l.statement, rest) := by
  have hentry := l.keyValue?_chars hend
  obtain ⟨c, more, hl, hc⟩ := l.exists_head
  have hbracket : c ≠ '[' := ne_of_isKeyChar hc (by decide)
  rw [hl] at hentry ⊢
  unfold statement?
  split
  · rename_i heq
    exact absurd (List.cons.inj heq).1 hbracket
  · rename_i heq
    exact absurd (List.cons.inj heq).1 hbracket
  · rw [hentry]
    rfl

/-- One line is one statement, and reading goes on behind its line feed. -/
theorem statementsOf?_chars (l : Line) (fuel : Nat) (rest : List Char) :
    statementsOf? (fuel + 1) (l.chars ++ '\n' :: rest) =
      (statementsOf? fuel rest).map (l.statement :: ·) := by
  have hend : AtLineEnd ('\n' :: rest) := by
    rintro c ⟨⟩
    rfl
  have hafter : afterStatement? ('\n' :: rest) = some rest := rfl
  rw [statementsOf?, l.skipBlank_chars]
  split
  · rename_i heq
    exact absurd heq (List.append_ne_nil_of_right_ne_nil _ (List.cons_ne_nil _ _))
  · rw [l.statement?_chars hend]
    simp only [hafter]

theorem statementsOf?_last (l : Line) (fuel : Nat) :
    statementsOf? (fuel + 2) l.chars = some [l.statement] := by
  have hend : AtLineEnd [] := by
    rintro c ⟨⟩
  have hafter : afterStatement? [] = some [] := rfl
  have hskip := l.skipBlank_chars []
  have hread := l.statement?_chars hend
  rw [List.append_nil] at hskip hread
  rw [statementsOf?, hskip]
  split
  · rename_i heq
    obtain ⟨c, more, hl, -⟩ := l.exists_head
    rw [hl] at heq
    cases heq
  · rw [hread]
    simp only [hafter]
    rfl

end Line

/-- Lines, each with a line feed behind it. -/
def rows (ls : List Line) : List Char :=
  ls.flatMap fun l => l.chars ++ ['\n']

section Rows

variable {rest : List Char}

theorem rows_cons_append (l : Line) (ls : List Line) (rest : List Char) :
    rows (l :: ls) ++ rest = l.chars ++ '\n' :: (rows ls ++ rest) := by
  simp [rows]

theorem length_le_length_rows (ls : List Line) : ls.length ≤ (rows ls).length := by
  induction ls with
  | nil => exact Nat.le_refl 0
  | cons l ls ih =>
    have hsplit := rows_cons_append l ls []
    rw [List.append_nil, List.append_nil] at hsplit
    rw [hsplit, List.length_append, List.length_cons, List.length_cons]
    omega

theorem statementsOf?_rows (ls : List Line) (fuel : Nat) (rest : List Char) :
    statementsOf? (ls.length + fuel) (rows ls ++ rest) =
      (statementsOf? fuel rest).map (ls.map Line.statement ++ ·) := by
  induction ls with
  | nil => simp [rows]
  | cons l ls ih =>
    have hfuel : (l :: ls).length + fuel = ls.length + fuel + 1 := by
      rw [List.length_cons]
      omega
    rw [hfuel, rows_cons_append, Line.statementsOf?_chars, ih, Option.map_map]
    rfl

theorem statements?_of_head {s : List Char} (h : s.head? ≠ some '\uFEFF') :
    statements? s = statementsOf? (s.length + 1) s := by
  simp only [statements?, if_neg h]

theorem Line.head?_chars_append_ne (l : Line) (rest : List Char) :
    (l.chars ++ rest).head? ≠ some '\uFEFF' := by
  obtain ⟨c, more, hl, hc⟩ := l.exists_head
  have hmark : c ≠ '\uFEFF' := ne_of_isKeyChar hc (by decide)
  rw [hl]
  simpa using hmark

theorem head?_rows_append_ne (ls : List Line) (h : rest.head? ≠ some '\uFEFF') :
    (rows ls ++ rest).head? ≠ some '\uFEFF' := by
  cases ls with
  | nil => exact h
  | cons l ls =>
    rw [rows_cons_append]
    exact l.head?_chars_append_ne _

/-- Behind the lines there is still enough fuel for the rest. -/
theorem exists_statements?_rows (ls : List Line) (h : rest.head? ≠ some '\uFEFF') :
    ∃ fuel, rest.length < fuel ∧ statements? (rows ls ++ rest) =
      (statementsOf? fuel rest).map (ls.map Line.statement ++ ·) := by
  obtain ⟨extra, hextra⟩ := Nat.exists_eq_add_of_le (length_le_length_rows ls)
  refine ⟨extra + rest.length + 1, by omega, ?_⟩
  have hlength : (rows ls ++ rest).length + 1 = ls.length + (extra + rest.length + 1) := by
    rw [List.length_append, hextra]
    omega
  rw [statements?_of_head (head?_rows_append_ne ls h), hlength, statementsOf?_rows]

/-- Every line with a line feed behind it. -/
theorem statements?_rows (ls : List Line) :
    statements? (rows ls) = some (ls.map Line.statement) := by
  have hnil : ([] : List Char).head? ≠ some '\uFEFF' := by decide
  obtain ⟨fuel, hfuel, hread⟩ := exists_statements?_rows ls hnil
  obtain ⟨fuel, rfl⟩ := Nat.exists_eq_add_one_of_ne_zero (Nat.ne_zero_of_lt hfuel)
  have hend : statementsOf? (fuel + 1) [] = some [] := rfl
  rw [List.append_nil, hend] at hread
  simpa using hread

theorem intercalate_concat (ls : List Line) (last : List Char) :
    ['\n'].intercalate (ls.map Line.chars ++ [last]) = rows ls ++ last := by
  induction ls with
  | nil => exact List.intercalate_singleton
  | cons l ls ih =>
    rw [List.map_cons, List.cons_append, List.intercalate_cons_of_ne_nil (by simp), ih,
      rows_cons_append, List.append_assoc, List.singleton_append]

/-- Line feeds between the lines only. -/
theorem statements?_intercalate (ls : List Line) :
    statements? (['\n'].intercalate (ls.map Line.chars)) = some (ls.map Line.statement) := by
  rcases List.eq_nil_or_concat ls with rfl | ⟨init, last, rfl⟩
  · rfl
  · have hlast : last.chars.head? ≠ some '\uFEFF' := by
      simpa using last.head?_chars_append_ne []
    obtain ⟨fuel, hfuel, hread⟩ := exists_statements?_rows init hlast
    obtain ⟨c, more, hchars, -⟩ := last.exists_head
    obtain ⟨fuel, rfl⟩ : ∃ n, fuel = n + 2 := by
      rw [hchars, List.length_cons] at hfuel
      exact Nat.exists_eq_add_of_le' (by omega)
    rw [List.concat_eq_append, List.map_append, List.map_singleton, intercalate_concat, hread,
      last.statementsOf?_last, Option.map_some, List.map_append, List.map_singleton]

end Rows

section Tables

variable {k : String} {t : Tree} {v : Value}

theorem Tree.alter_of_notMem {f : Option Node → Option Node} {n : Node}
    (h : k ∉ t.map Prod.fst) (hf : f none = some n) : t.alter k f = some (t ++ [(k, n)]) := by
  induction t with
  | nil => simp [alter, hf]
  | cons e rest ih =>
    rw [List.map_cons, List.mem_cons, not_or] at h
    rw [alter, if_neg (Ne.symm h.1), ih h.2]
    rfl

theorem Tree.insert_of_notMem (h : k ∉ t.map Prod.fst) :
    t.insert [] k v = some (t ++ [(k, .value v)]) := by
  rw [insert, insertFrom, if_pos rfl]
  exact alter_of_notMem h rfl

theorem Draft.add?_entry (h : k ∉ t.map Prod.fst) :
    Draft.add? ⟨t, []⟩ (.entry ⟨[], k⟩ v) = some ⟨t ++ [(k, .value v)], []⟩ := by
  rw [add?, Tree.updateAt, Tree.insert_of_notMem h, Option.map_some]

theorem foldlM_add?_entries (t : Tree) (entries : Table)
    (hnodup : (t.map Prod.fst ++ entries.map Prod.fst).Nodup) :
    (entries.map fun e => Statement.entry ⟨[], e.1⟩ e.2).foldlM Draft.add? ⟨t, []⟩ =
      some ⟨t ++ entries.map fun e => (e.1, .value e.2), []⟩ := by
  -- the keys that are there and those that are still to come stay apart
  induction entries generalizing t with
  | nil => simp
  | cons e entries ih =>
    have hnew : e.1 ∉ t.map Prod.fst := by
      intro hmem
      exact (List.nodup_append.1 hnodup).2.2 _ hmem _ List.mem_cons_self rfl
    have hmore : ((t ++ [(e.1, Node.value e.2)]).map Prod.fst ++ entries.map Prod.fst).Nodup := by
      simpa using hnodup
    rw [List.map_cons, List.foldlM_cons, Draft.add?_entry hnew]
    exact (ih _ hmore).trans (by simp)

theorem finishEntries_values (entries : Table) :
    finishEntries (entries.map fun e => (e.1, .value e.2)) = entries := by
  induction entries with
  | nil => rfl
  | cons e entries ih =>
    rw [List.map_cons, finishEntries, ih]
    rfl

/-- Entries of bare keys make the table that they are, if no key is there twice. -/
theorem ofStatements?_entries {entries : Table} (hnodup : (entries.map Prod.fst).Nodup) :
    Table.ofStatements? (entries.map fun e => .entry ⟨[], e.1⟩ e.2) = some entries := by
  have hfold := foldlM_add?_entries [] entries (by simpa using hnodup)
  rw [Table.ofStatements?, hfold, Option.map_some, List.nil_append, finishEntries_values]

def Line.entry (l : Line) : String × Value :=
  (String.ofList l.key, l.value)

/-- Lines whose keys differ are a document, whether the last one ends in a line feed or not. -/
theorem ofText?_lines {ls : List Line} {text : String}
    (hnodup : ((ls.map Line.entry).map Prod.fst).Nodup)
    (htext : text.toList = rows ls ∨ text.toList = ['\n'].intercalate (ls.map Line.chars)) :
    Table.ofText? text = some (ls.map Line.entry) := by
  have hread : statements? text.toList = some (ls.map Line.statement) := by
    rcases htext with h | h
    · rw [h, statements?_rows]
    · rw [h, statements?_intercalate]
  have hstatements : ls.map Line.statement =
      (ls.map Line.entry).map fun e => .entry ⟨[], e.1⟩ e.2 := by
    rw [List.map_map]
    rfl
  rw [Table.ofText?, hread, Option.bind_some, hstatements, ofStatements?_entries hnodup]

end Tables

end Toml

namespace Settings

/-- The text of what a document gives a field. -/
def writeValue (hex : Toml.Hex) (s : Settings) : Field → List Char
  | .checkFlags => Toml.writeList hex s.checkFlags
  | .exports => Toml.writeList hex s.exports
  | .pluginSince => Toml.writeNumber s.pluginSince.toNat
  | .processorPathFlag => Toml.writeString hex s.processorPathFlag
  | .compilePolicy => Toml.writeString hex s.compilePolicy
  | .pluginToken => Toml.writeString hex s.pluginToken
  | .bootClassPathFlag => Toml.writeString hex s.bootClassPathFlag
  | .entryClass => Toml.writeString hex s.entryClass

/-- The line of a document that gives a field what it has in some settings. -/
def writeField (hex : Toml.Hex) (s : Settings) (f : Field) : String :=
  f.key ++ " = " ++ String.ofList (s.writeValue hex f)

/-- Settings with some fields replaced by those of other settings. -/
def replacing (s : Settings) (fields : List Field) (other : Settings) : Settings where
  checkFlags := if .checkFlags ∈ fields then other.checkFlags else s.checkFlags
  exports := if .exports ∈ fields then other.exports else s.exports
  pluginSince := if .pluginSince ∈ fields then other.pluginSince else s.pluginSince
  processorPathFlag :=
    if .processorPathFlag ∈ fields then other.processorPathFlag else s.processorPathFlag
  compilePolicy := if .compilePolicy ∈ fields then other.compilePolicy else s.compilePolicy
  pluginToken := if .pluginToken ∈ fields then other.pluginToken else s.pluginToken
  bootClassPathFlag :=
    if .bootClassPathFlag ∈ fields then other.bootClassPathFlag else s.bootClassPathFlag
  entryClass := if .entryClass ∈ fields then other.entryClass else s.entryClass

section Document

variable {hex : Toml.Hex} {s other : Settings} {fields : List Field}

theorem value_replacing (s other : Settings) (fields : List Field) (f : Field) :
    (s.replacing fields other).value f = if f ∈ fields then other.value f else s.value f := by
  cases f <;> simp only [replacing, value] <;> split <;> rfl

theorem writes_writeValue (hex : Toml.Hex) (s : Settings) (f : Field) :
    Toml.Writes (s.writeValue hex f) (s.value f) := by
  cases f with
  | checkFlags | exports => exact Toml.writes_writeList hex _
  | pluginSince =>
    have hsize := s.pluginSince.toNat_lt_size
    exact Toml.writes_writeNumber (by simp only [UInt32.size] at hsize; omega)
  | _ => exact Toml.writes_writeString hex _

theorem Field.isBare_key (f : Field) : Toml.IsBare f.key.toList where
  ne_nil := by cases f <;> decide
  chars := by
    have hall : f.key.toList.all Toml.isKeyChar = true := by
      cases f <;> decide
    exact List.all_eq_true.1 hall

/-- The line of a field, with what it is read as. -/
def line (hex : Toml.Hex) (s : Settings) (f : Field) : Toml.Line :=
  ⟨f.key.toList, s.writeValue hex f, s.value f, f.isBare_key, s.writes_writeValue hex f⟩

theorem chars_line (hex : Toml.Hex) (s : Settings) (f : Field) :
    (s.line hex f).chars = (s.writeField hex f).toList := by
  simp [Toml.Line.chars, line, writeField]

/-- What a document says that gives some fields what they have in these settings. -/
def entries (s : Settings) (fields : List Field) : Toml.Table :=
  fields.map fun f => (f.key, s.value f)

theorem entry_line (hex : Toml.Hex) (s : Settings) (f : Field) :
    (s.line hex f).entry = (f.key, s.value f) := by
  simp only [Toml.Line.entry, line, String.ofList_toList]

theorem nodup_keys_entries (s : Settings) (h : fields.Nodup) :
    ((s.entries fields).map Prod.fst).Nodup := by
  rw [entries, List.map_map]
  exact List.pairwise_map.2 (h.imp fun hne heq => hne (Field.key_injective heq))

theorem lookup_entries (s : Settings) (fields : List Field) (f : Field) :
    (s.entries fields).lookup f.key = if f ∈ fields then some (s.value f) else none := by
  induction fields with
  | nil => rfl
  | cons g fields ih =>
    rw [entries, List.map_cons, List.lookup_cons]
    by_cases hfg : f = g
    · subst hfg
      simp
    · have hkey : (f.key == g.key) = false :=
        beq_eq_false_iff_ne.2 fun heq => hfg (Field.key_injective heq)
      rw [hkey]
      simpa [hfg, entries] using ih

theorem ofText_of_entries {text : String} (h : Toml.Table.ofText? text = some (s.entries fields))
    (hnodup : fields.Nodup) : ofText text = .ok (standard.replacing fields s) := by
  rw [ofText_eq_ok h, foldlM_setEntry_eq_ok (s.nodup_keys_entries hnodup)]
  constructor
  · intro e he
    obtain ⟨f, -, rfl⟩ := List.mem_map.1 he
    exact ⟨f, rfl⟩
  · intro f
    rw [value_replacing, lookup_entries]
    split <;> rfl

/-- Settings can be written down and read back: of a document that gives some fields what they have
in these settings, in any order, come the standard settings with just these fields replaced. -/
theorem ofText_written_fields (hex : Toml.Hex) (s : Settings) (fields : List Field)
    (hnodup : fields.Nodup) :
    let written := fields.map (s.writeField hex)
    ofText (unlines written) = .ok (standard.replacing fields s) ∧
      ofText ("\n".intercalate written) = .ok (standard.replacing fields s) := by
  intro written
  have hentries : (fields.map (s.line hex)).map Toml.Line.entry = s.entries fields := by
    simp only [List.map_map, Function.comp_def, entry_line, entries]
  have hkeys : (((fields.map (s.line hex)).map Toml.Line.entry).map Prod.fst).Nodup := by
    rw [hentries]
    exact s.nodup_keys_entries hnodup
  have hread {text : String} (htext : text.toList = Toml.rows (fields.map (s.line hex)) ∨
      text.toList = ['\n'].intercalate ((fields.map (s.line hex)).map Toml.Line.chars)) :
      ofText text = .ok (standard.replacing fields s) := by
    refine ofText_of_entries ?_ hnodup
    rw [Toml.ofText?_lines hkeys htext, hentries]
  constructor
  · refine hread (.inl ?_)
    simp [unlines, written, Toml.rows, String.toList_join, List.flatMap_map, chars_line]
  · refine hread (.inr ?_)
    simp [written, String.toList_intercalate, Function.comp_def, chars_line]

theorem ofText_written_controls :
    let s := { standard with
      checkFlags := ["-Xep:A, \"B\"]", ""]
      pluginSince := 4294967295
      entryClass := "\x7f\té\n\\" }
    [Field.entryClass, .pluginSince, .checkFlags].Nodup ∧
      ofText ("entry_class = \"\\u007F\té\\u000A\\u005C\"\n" ++
        "module_system_threshold = 4294967295\n" ++
        "analysis_flags = [\"-Xep:A, \\u0022B\\u0022]\", \"\"]") = .ok s := by
  intro s
  have hnodup : [Field.entryClass, .pluginSince, .checkFlags].Nodup := by decide
  have hread := (ofText_written_fields .upper s _ hnodup).2
  have hwritten : "\n".intercalate ([Field.entryClass, .pluginSince, .checkFlags].map
      (s.writeField .upper)) =
      "entry_class = \"\\u007F\té\\u000A\\u005C\"\n" ++
        "module_system_threshold = 4294967295\n" ++
        "analysis_flags = [\"-Xep:A, \\u0022B\\u0022]\", \"\"]" := by
    decide +kernel
  rw [hwritten] at hread
  exact ⟨hnodup, hread⟩

end Document

end Settings
end JavacLaunch
