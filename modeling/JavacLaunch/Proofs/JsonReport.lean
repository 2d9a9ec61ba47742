import JavacLaunch.Proofs.Json.Completeness
import JavacLaunch.Proofs.Written
import JavacLaunch.Report

/-!
# JavacLaunch.Proofs.JsonReport

A dry run's JSON report loses nothing.

* `spells_escapeChar`, `quoted_string`: every character is escaped in a way that JSON knows.
* `number_repr`: a number is written without needless zeros.
* `separated_intercalate`: rows that are laid out with line feeds and indents.
* `denotes_strings`, `denotes_object`: arrays and objects.
* `json_report_read_back`: a report denotes the release and the command line, and nothing else.
-/

namespace JavacLaunch
namespace Json

section Strings

theorem codeUnit_control {n : Nat} (h : n < 0x20) :
    CodeUnit ['0', '0', Nat.digitChar (n / 16), Nat.digitChar (n % 16)] n := by
  have hhigh : Toml.digitValue? (Nat.digitChar (n / 16)) = some (n / 16) :=
    Toml.digitValue?_digit .lower (by omega)
  have hlow : Toml.digitValue? (Nat.digitChar (n % 16)) = some (n % 16) :=
    Toml.digitValue?_digit .lower (by omega)
  have hzero : Toml.digitValue? '0' = some 0 := rfl
  refine ⟨rfl, ?_, ?_⟩
  · simp [Toml.isDigitOf, hhigh, hlow, hzero]
    omega
  · simp [Toml.ofDigits, hhigh, hlow, hzero]
    omega

theorem spells_escapeChar (c : Char) : Spells (escapeChar c).toList c := by
  unfold escapeChar
  split
  · exact .short rfl
  · exact .short rfl
  · exact .short rfl
  · exact .short rfl
  · exact .short rfl
  · exact .short rfl
  · exact .short rfl
  · rename_i hquote hbackslash _ _ _ _ _
    split
    · rename_i hcontrol
      have hspells := Spells.unit (codeUnit_control hcontrol) c.valid
      rw [Char.ofNat_toNat] at hspells
      simpa using hspells
    · rename_i hcontrol
      have hplain : isPlain c = true := by
        simp only [isPlain, Bool.and_eq_true, decide_eq_true_iff]
        exact ⟨⟨Nat.not_lt.1 hcontrol, hquote⟩, hbackslash⟩
      simpa using Spells.plain hplain

theorem body_flatMap (cs : List Char) : Body (cs.flatMap fun c => (escapeChar c).toList) cs := by
  induction cs with
  | nil => exact .nil
  | cons c cs ih => exact .cons (spells_escapeChar c) ih

theorem quoted_string (s : String) : Quoted (string s).toList s := by
  have htext : (string s).toList =
      '"' :: (s.toList.flatMap (fun c => (escapeChar c).toList) ++ ['"']) := by
    simp [string, List.flatMap_map]
  rw [htext]
  exact .mk (body_flatMap s.toList)

end Strings

theorem number_repr (n : Nat) : Number n.repr.toList n 0 := by
  have hdigits : Digits (Nat.toDigits 10 n) :=
    ⟨Nat.toDigits_ne_nil, fun c hc => Nat.isDigit_of_mem_toDigits (by decide) (by decide) hc⟩
  have hwhole : Whole (Nat.toDigits 10 n) := by
    refine ⟨hdigits, fun hzero => ?_⟩
    cases n with
    | zero => rfl
    | succ n => exact absurd hzero (Toml.head?_toDigits (Nat.succ_pos n))
  have hnumber := Number.mk .absent hwhole .absent .absent
  simpa [signed, Nat.ofDigitChars_toDigits] using hnumber

section Rows

variable {α : Type} {Item : List Char → α → Prop} {indent close : List Char}

theorem space_nil : Space [] := by
  simp [Space]

/-- Each item has an indent in front of it, and what closes the row follows the last one. -/
theorem separated_intercalate (hindent : Space indent) (hclose : Space close)
    {items : List (List Char × α)} (hne : items ≠ []) (hitems : ∀ i ∈ items, Item i.1 i.2) :
    Separated Item (indent ++ ((',' :: indent).intercalate (items.map Prod.fst) ++ close))
      (items.map Prod.snd) := by
  induction items with
  | nil => exact absurd rfl hne
  | cons item more ih =>
    rw [List.forall_mem_cons] at hitems
    cases more with
    | nil => simpa using Separated.last (.mk hindent hitems.1 hclose)
    | cons next more =>
      have hmore := ih (List.cons_ne_nil next more) hitems.2
      simpa using Separated.cons (.mk hindent hitems.1 space_nil) hmore

end Rows

theorem Denotes.document {text : List Char} {v : Value} (h : Denotes text v) : Document text v := by
  have hpadded := Padded.mk space_nil h space_nil
  rwa [List.nil_append, List.append_nil] at hpadded

theorem denotes_strings (items : List String) :
    Denotes (strings items).toList (.array (items.map .string)) := by
  cases items with
  | nil => exact .array (.none space_nil)
  | cons item more =>
    let row (s : String) : List Char × Value := ((string s).toList, .string s)
    have hitems : ∀ i ∈ (item :: more).map row, Denotes i.1 i.2 := by
      intro i hi
      obtain ⟨s, -, rfl⟩ := List.mem_map.1 hi
      exact .string (quoted_string s)
    have hindent : Space ['\n', ' ', ' ', ' ', ' '] := by
      simp [Space, isSpace]
    have hclose : Space ['\n', ' ', ' '] := by
      simp [Space, isSpace]
    have hrow := separated_intercalate hindent hclose (by simp) hitems
    have htext : (strings (item :: more)).toList = '[' :: (['\n', ' ', ' ', ' ', ' '] ++
        ([',', '\n', ' ', ' ', ' ', ' '].intercalate (((item :: more).map row).map Prod.fst) ++
          ['\n', ' ', ' ']) ++ [']']) := by
      simp [strings, row, Function.comp_def]
    have hvalues : ((item :: more).map row).map Prod.snd = (item :: more).map .string := by
      simp [row, Function.comp_def]
    rw [htext, ← hvalues]
    exact .array (.some hrow)

/-- A member's name, its value as JSON, and what that denotes. -/
theorem denotes_object {members : List (String × String × Value)} (hne : members ≠ [])
    (hmembers : ∀ m ∈ members, Denotes m.2.1.toList m.2.2) :
    Denotes (object (members.map fun m => (m.1, m.2.1))).toList
      (.object (members.map fun m => (m.1, m.2.2))) := by
  let row (m : String × String × Value) : List Char × (String × Value) :=
    ((string m.1).toList ++ ([] ++ ':' :: ([' '] ++ m.2.1.toList)), (m.1, m.2.2))
  have hspace : Space [' '] := by
    simp [Space, isSpace]
  have hitems : ∀ i ∈ members.map row, Member Denotes i.1 i.2 := by
    intro i hi
    obtain ⟨m, hm, rfl⟩ := List.mem_map.1 hi
    exact .mk (quoted_string m.1) space_nil hspace (hmembers m hm)
  have hindent : Space ['\n', ' ', ' '] := by
    simp [Space, isSpace]
  have hclose : Space ['\n'] := by
    simp [Space, isSpace]
  have hrow := separated_intercalate hindent hclose (by simpa using hne) hitems
  have htext : (object (members.map fun m => (m.1, m.2.1))).toList =
      '\x7b' :: (['\n', ' ', ' '] ++
        ([',', '\n', ' ', ' '].intercalate ((members.map row).map Prod.fst) ++ ['\n']) ++
          ['\x7d']) := by
    simp [object, row, Function.comp_def]
  have hvalues : (members.map row).map Prod.snd = members.map fun m => (m.1, m.2.2) := by
    simp [row, Function.comp_def]
  rw [htext, ← hvalues]
  exact .object (.some hrow)

end Json

namespace Prepared

/-- What a report denotes. -/
def jsonValue (p : Prepared) : Json.Value :=
  .object
    [("args", .array (p.invocation.args.map .string)),
     ("major", .number p.release.major.toNat 0),
     ("program", .string p.invocation.program),
     ("strategy", .string p.invocation.strategy.name),
     ("version", .string p.release.token)]

theorem denotes_json (p : Prepared) : Json.Denotes p.json.toList p.jsonValue := by
  let members : List (String × String × Json.Value) :=
    [("args", Json.strings p.invocation.args, .array (p.invocation.args.map .string)),
     ("major", toString p.release.major, .number p.release.major.toNat 0),
     ("program", Json.string p.invocation.program, .string p.invocation.program),
     ("strategy", Json.string p.invocation.strategy.name, .string p.invocation.strategy.name),
     ("version", Json.string p.release.token, .string p.release.token)]
  have hmajor : toString p.release.major = Nat.repr p.release.major.toNat := rfl
  have hmembers : ∀ m ∈ members, Json.Denotes m.2.1.toList m.2.2 := by
    simp only [members, hmajor, List.forall_mem_cons]
    exact ⟨Json.denotes_strings _, .number (Json.number_repr _), .string (Json.quoted_string _),
      .string (Json.quoted_string _), .string (Json.quoted_string _), by simp⟩
  have hjson : p.json = Json.object (members.map fun m => (m.1, m.2.1)) := rfl
  rw [hjson]
  exact Json.denotes_object (List.cons_ne_nil _ _) hmembers

theorem jsonValue_injective {p q : Prepared} (h : p.jsonValue = q.jsonValue) : p = q := by
  obtain ⟨⟨token, major⟩, ⟨program, args, strategy⟩⟩ := p
  obtain ⟨⟨token', major'⟩, ⟨program', args', strategy'⟩⟩ := q
  simp only [jsonValue, Json.Value.object.injEq, List.cons.injEq, Prod.mk.injEq,
    Json.Value.array.injEq, Json.Value.number.injEq, Json.Value.string.injEq, true_and, and_true,
    Int.natCast_inj, UInt32.toNat_inj] at h
  obtain ⟨hargs, rfl, rfl, hstrategy, rfl⟩ := h
  have hargs : args = args' := by
    simpa [List.map_inj_right] using hargs
  have hstrategy : strategy = strategy' := by
    cases strategy <;> cases strategy' <;> simp_all [Strategy.name]
  rw [hargs, hstrategy]

end Prepared

/-- A JSON report is one JSON text and a line feed. The text denotes an object with five members,
and nothing else; it is read as that object. So a report tells everything about what was prepared. -/
theorem json_report_read_back (p : Prepared) :
    let value : Json.Value := .object
      [("args", .array (p.invocation.args.map .string)),
       ("major", .number p.release.major.toNat 0),
       ("program", .string p.invocation.program),
       ("strategy", .string (if p.invocation.strategy = .plugin then "plugin" else "bootclasspath")),
       ("version", .string p.release.token)]
    (∃ text, p.report .json = text ++ "\n" ∧
      (∀ v, Json.Document text.toList v ↔ v = value) ∧ Json.read? text = some value) ∧
    ∀ q : Prepared, q.report .json = p.report .json → q = p := by
  intro value
  have hvalue : p.jsonValue = value := by
    unfold Prepared.jsonValue value
    cases p.invocation.strategy <;> rfl
  have hdocument (p : Prepared) : Json.Document p.json.toList p.jsonValue :=
    p.denotes_json.document
  refine ⟨⟨p.json, rfl, fun v => ?_, ?_⟩, fun q hreport => ?_⟩
  · rw [← hvalue]
    constructor
    · intro h
      exact h.unique (hdocument p)
    · intro h
      rw [h]
      exact hdocument p
  · rw [← hvalue]
    exact Json.read?_of_document (hdocument p)
  · have htext : q.json = p.json := by
      simpa [Prepared.report] using hreport
    have hq := hdocument q
    rw [htext] at hq
    exact Prepared.jsonValue_injective (hq.unique (hdocument p))

/-- An argument that spells out the layout of a report stays one argument. -/
theorem json_report_tells_arguments_apart :
    let p : Prepared := ⟨⟨"17", 17⟩, ⟨"javac", ["-d", "out"], .plugin⟩⟩
    let q : Prepared := ⟨⟨"17", 17⟩, ⟨"javac", ["-d\",\n    \"out"], .plugin⟩⟩
    q.report .json ≠ p.report .json := by
  intro p q hreport
  have hsame : q = p := (json_report_read_back p).2 q hreport
  have hargs : q.invocation.args.length = p.invocation.args.length := by rw [hsame]
  simp [p, q] at hargs

end JavacLaunch
