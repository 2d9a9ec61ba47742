import JavacLaunch.Proofs.Reading

/-!
# JavacLaunch.Proofs.Given

Options as a caller may write them, and the reading that a row of them leads to.

* `Given.args`: the arguments that an option is written as.
* `Reading.ofGiven`: what has been read once a row of options has been read.
* `readOwn_args`: one more option, and when it is accepted.
* `first_given`: in front of the operands there is nothing but such options.
-/

namespace JavacLaunch

/-- A value that an option of its own gives. -/
inductive Choice where
  | format (f : Format)
  | config (file : Bytes)
deriving DecidableEq, Repr

/-- Where the value of an option stands: in the next argument, or behind an equals sign. -/
inductive Style where
  | apart
  | joined
deriving DecidableEq, Repr

inductive Given where
  | debug
  | dryRun
  | choice (style : Style) (c : Choice)
deriving DecidableEq, Repr

def Choice.parameter : Choice → Parameter
  | .format _ => .format
  | .config _ => .config

def Choice.bytes : Choice → Bytes
  | .format f => Utf8.encode f.name
  | .config file => file

namespace Given

def args : Given → List Bytes
  | .debug => [Utf8.encode Switch.debug.name]
  | .dryRun => [Utf8.encode Switch.dryRun.name]
  | .choice .apart c => [Utf8.encode c.parameter.name, c.bytes]
  | .choice .joined c => [withValue (Utf8.encode c.parameter.name) (some c.bytes)]

/-- Which option it is. -/
def kind : Given → Single
  | .debug => .switch .debug
  | .dryRun => .switch .dryRun
  | .choice _ c => .parameter c.parameter

/-- A value is not empty, and one that stands apart is a word. -/
def Readable : Given → Prop
  | .debug | .dryRun => True
  | .choice .apart c => c.bytes ≠ [] ∧ IsWord c.bytes
  | .choice .joined c => c.bytes ≠ []

/-- A value that is joined to its option is text besides. -/
def WellFormed (g : Given) : Prop :=
  g.Readable ∧ match g with
    | .choice .joined c => Utf8.isText c.bytes = true
    | _ => True

def format? : Given → Option Format
  | .choice _ (.format f) => some f
  | _ => none

def config? : Given → Option Bytes
  | .choice _ (.config file) => some file
  | _ => none

end Given

/-- What a row of options says. -/
def Options.ofGiven (gs : List Given) : Options where
  debug := decide (.debug ∈ gs)
  dryRun := decide (.dryRun ∈ gs)
  format := (gs.findSome? Given.format?).getD .text
  config := gs.findSome? Given.config?

namespace Reading

/-- What has been read once a row of options has been read. -/
def ofGiven (gs : List Given) : Reading where
  debug := decide (.debug ∈ gs)
  dryRun := decide (.dryRun ∈ gs)
  format := gs.findSome? Given.format?
  config := gs.findSome? Given.config?
  operands := []
  pending := none

theorem ofGiven_nil : ofGiven [] = empty := rfl

variable {gs : List Given} {r' : Reading} {rest : List Bytes}

theorem kind_eq_debug {g : Given} : g.kind = .switch .debug ↔ g = .debug := by
  cases g <;> simp [Given.kind]

theorem kind_eq_dryRun {g : Given} : g.kind = .switch .dryRun ↔ g = .dryRun := by
  cases g <;> simp [Given.kind]

theorem kind_eq_parameter {g : Given} {p : Parameter} :
    g.kind = .parameter p ↔ ∃ style c, g = .choice style c ∧ c.parameter = p := by
  cases g with
  | debug => simp [Given.kind]
  | dryRun => simp [Given.kind]
  | choice style c =>
    constructor
    · intro h
      cases h
      exact ⟨style, c, rfl, rfl⟩
    · rintro ⟨_, _, ⟨⟩, rfl⟩
      rfl

theorem debug_ofGiven : (ofGiven gs).debug = true ↔ .switch .debug ∈ gs.map Given.kind := by
  simp [ofGiven, kind_eq_debug]

theorem dryRun_ofGiven : (ofGiven gs).dryRun = true ↔ .switch .dryRun ∈ gs.map Given.kind := by
  simp [ofGiven, kind_eq_dryRun]

theorem has_ofGiven {p : Parameter} :
    (ofGiven gs).has p = true ↔ .parameter p ∈ gs.map Given.kind := by
  rw [List.mem_map]
  simp only [kind_eq_parameter]
  cases p with
  | format =>
    simp only [has, ofGiven, List.findSome?_isSome_iff]
    constructor
    · rintro ⟨g, hg, hf⟩
      match g with
      | .choice style (.format f) => exact ⟨_, hg, style, _, rfl, rfl⟩
    · rintro ⟨_, hg, style, c, rfl, hc⟩
      match c with
      | .format f => exact ⟨_, hg, rfl⟩
  | config =>
    simp only [has, ofGiven, List.findSome?_isSome_iff]
    constructor
    · rintro ⟨g, hg, hf⟩
      match g with
      | .choice style (.config file) => exact ⟨_, hg, style, _, rfl, rfl⟩
    · rintro ⟨_, hg, style, c, rfl, hc⟩
      match c with
      | .config file => exact ⟨_, hg, rfl⟩

theorem switch_debug :
    (ofGiven gs).switch .debug = .ok r' ↔
      .switch .debug ∉ gs.map Given.kind ∧ r' = ofGiven (gs ++ [.debug]) := by
  have hnext : { ofGiven gs with debug := true } = ofGiven (gs ++ [.debug]) := by
    simp [ofGiven, Given.format?, Given.config?]
  rw [← debug_ofGiven, switch, hnext]
  split <;> simp [*, eq_comm]

theorem switch_dryRun :
    (ofGiven gs).switch .dryRun = .ok r' ↔
      .switch .dryRun ∉ gs.map Given.kind ∧ r' = ofGiven (gs ++ [.dryRun]) := by
  have hnext : { ofGiven gs with dryRun := true } = ofGiven (gs ++ [.dryRun]) := by
    simp [ofGiven, Given.format?, Given.config?]
  rw [← dryRun_ofGiven, switch, hnext]
  split <;> simp [*, eq_comm]

theorem exists_choice {r : Reading} {p : Parameter} {v : Bytes} (h : r.take p (some v) = .ok r') :
    ∃ c : Choice, c.parameter = p ∧ c.bytes = v := by
  cases p with
  | config => exact ⟨.config v, rfl, rfl⟩
  | format =>
    cases hf : Format.ofBytes? v with
    | none =>
      simp only [take.eq_def, hf] at h
      split at h
      · cases h
      · split at h <;> cases h
    | some f => exact ⟨.format f, rfl, (Format.ofBytes?_eq_some_iff.1 hf).symm⟩

theorem take_choice (style : Style) {c : Choice} :
    (ofGiven gs).take c.parameter (some c.bytes) = .ok r' ↔
      c.bytes ≠ [] ∧ .parameter c.parameter ∉ gs.map Given.kind ∧
        r' = ofGiven (gs ++ [.choice style c]) := by
  rw [← has_ofGiven]
  cases hhas : (ofGiven gs).has c.parameter with
  | true => simp [take.eq_def, hhas]
  | false =>
    by_cases hv : c.bytes = []
    · simp [take.eq_def, hhas, hv]
    have hnext : (ofGiven gs).take c.parameter (some c.bytes) =
        .ok (ofGiven (gs ++ [.choice style c])) := by
      cases c with
      | config file =>
        have hnone : gs.findSome? Given.config? = none := by
          simpa [has, ofGiven, Choice.parameter] using hhas
        simp only [Choice.parameter, Choice.bytes] at hv ⊢
        simp [take.eq_def, has, hv, ofGiven, Given.format?, Given.config?, hnone]
      | format f =>
        have hnone : gs.findSome? Given.format? = none := by
          simpa [has, ofGiven, Choice.parameter] using hhas
        have hf : Format.ofBytes? (Utf8.encode f.name) = some f := Format.ofBytes?_eq_some_iff.2 rfl
        simp only [Choice.parameter, Choice.bytes] at hv ⊢
        simp [take.eq_def, has, hv, hf, ofGiven, Given.format?, Given.config?, hnone]
    rw [hnext]
    simp [hv, eq_comm]

theorem readOwn_args {g : Given} :
    (ofGiven gs).readOwn (g.args ++ rest) = .ok r' ↔
      g.Readable ∧ g.kind ∉ gs.map Given.kind ∧ (ofGiven (gs ++ [g])).readOwn rest = .ok r' := by
  have hready : (ofGiven gs).pending = none := rfl
  match g with
  | .debug =>
    simp only [Given.args, List.cons_append, List.nil_append, readOwn_switch hready, switch_debug]
    constructor
    · rintro ⟨_, ⟨hnew, rfl⟩, h⟩
      exact ⟨trivial, hnew, h⟩
    · rintro ⟨_, hnew, h⟩
      exact ⟨_, ⟨hnew, rfl⟩, h⟩
  | .dryRun =>
    simp only [Given.args, List.cons_append, List.nil_append, readOwn_switch hready, switch_dryRun]
    constructor
    · rintro ⟨_, ⟨hnew, rfl⟩, h⟩
      exact ⟨trivial, hnew, h⟩
    · rintro ⟨_, hnew, h⟩
      exact ⟨_, ⟨hnew, rfl⟩, h⟩
  | .choice .apart c =>
    simp only [Given.args, List.cons_append, List.nil_append, readOwn_apart hready,
      take_choice .apart]
    constructor
    · rintro ⟨hword, _, ⟨hne, hnew, rfl⟩, h⟩
      exact ⟨⟨hne, hword⟩, hnew, h⟩
    · rintro ⟨⟨hne, hword⟩, hnew, h⟩
      exact ⟨hword, _, ⟨hne, hnew, rfl⟩, h⟩
  | .choice .joined c =>
    simp only [Given.args, List.cons_append, List.nil_append, readOwn_joined hready,
      take_choice .joined]
    constructor
    · rintro ⟨_, ⟨hne, hnew, rfl⟩, h⟩
      exact ⟨hne, hnew, h⟩
    · rintro ⟨hne, hnew, h⟩
      exact ⟨_, ⟨hne, hnew, rfl⟩, h⟩

theorem first_given {arg : Bytes} (h : (ofGiven gs).readOwn (arg :: rest) = .ok r')
    (hend : arg ≠ endOfOptions) (hword : ¬ IsWord arg) :
    ∃ g rest', arg :: rest = Given.args g ++ rest' := by
  have hready : (ofGiven gs).pending = none := rfl
  obtain he | ⟨s, rfl⟩ | ⟨p, v, rfl⟩ | hw := first_argument h
  · exact absurd he hend
  · cases s with
    | debug => exact ⟨.debug, rest, rfl⟩
    | dryRun => exact ⟨.dryRun, rest, rfl⟩
    | help =>
      obtain ⟨_, hs, _⟩ := (readOwn_switch hready).1 h
      cases hs
    | version =>
      obtain ⟨_, hs, _⟩ := (readOwn_switch hready).1 h
      cases hs
  · cases v with
    | some v =>
      obtain ⟨_, ht, _⟩ := (readOwn_joined hready).1 h
      obtain ⟨c, rfl, rfl⟩ := exists_choice ht
      exact ⟨.choice .joined c, rest, rfl⟩
    | none =>
      cases rest with
      | nil => exact absurd h (not_readOwn_alone hready)
      | cons v rest =>
        obtain ⟨_, _, ht, _⟩ := (readOwn_apart hready).1 h
        obtain ⟨c, rfl, rfl⟩ := exists_choice ht
        exact ⟨.choice .apart c, rest, rfl⟩
  · exact absurd hw hword

end Reading

theorem Given.optionSpan_args {g : Given} (h : g.WellFormed) (rest : List Bytes) :
    optionSpan (g.args ++ rest) = g.args.length + optionSpan rest := by
  match g with
  | .debug => exact optionSpan_switch .debug rest
  | .dryRun => exact optionSpan_switch .dryRun rest
  | .choice .apart c => exact optionSpan_apart c.parameter (c.bytes :: rest)
  | .choice .joined c => exact optionSpan_joined c.parameter h.2 rest

theorem Given.args_length_pos (g : Given) : 0 < g.args.length := by
  match g with
  | .debug | .dryRun => exact Nat.one_pos
  | .choice .apart _ | .choice .joined _ => exact Nat.succ_pos _

/-- An option in which the scan does not stop is well formed if it is readable. -/
theorem Given.wellFormed_of_readable {g : Given} (h : g.Readable) {rest : List Bytes}
    (hspan : optionSpan (g.args ++ rest) ≠ 0) : g.WellFormed := by
  match g with
  | .debug => exact ⟨h, trivial⟩
  | .dryRun => exact ⟨h, trivial⟩
  | .choice .apart c => exact ⟨h, trivial⟩
  | .choice .joined c =>
    refine ⟨h, ?_⟩
    cases htext : Utf8.isText c.bytes with
    | true => exact htext
    | false =>
      rw [args, List.cons_append, optionSpan_cons, if_pos (by rw [isText_withValue, htext])] at hspan
      exact absurd rfl hspan

end JavacLaunch
