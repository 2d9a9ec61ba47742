import JavacLaunch.Proofs.Arguments
import JavacLaunch.Proofs.Except

/-!
# JavacLaunch.Proofs.Reading

The reader of the launcher's own arguments, one argument at a time.

What is pending is checked late, so a reading with something pending differs from the reading in
which it has been checked. `readOwn_settle` says that, to a command line that is accepted, the
difference does not matter, unless an option still waits for its value. From there on a reading
starts with nothing pending, and there is one lemma for each kind of first argument.

* `readOwn_nil`, `readOwn_end`, `readOwn_switch`, `readOwn_joined`, `readOwn_apart`,
  `readOwn_word`: when the rest is accepted, and what it is read into.
* `first_argument`: there is no other kind of first argument.
* `passedOn_eq_ok`, `passedOn_eq_error`: the arguments that are passed on, and the first one that
  is not text.
-/

namespace JavacLaunch

namespace Reading

variable {r r' : Reading} {arg : Bytes} {args rest : List Bytes}

/-- An option has been read that takes the next word for its value. -/
def Waits (r : Reading) : Prop :=
  ∃ p, r.pending = some (.parameter p none)

/-- A reading with more operands. -/
def push (r : Reading) (operands : List String) : Reading :=
  { r with operands := r.operands ++ operands }

theorem push_nil (r : Reading) : r.push [] = r := by
  simp [push]

theorem push_push (r : Reading) (xs ys : List String) : (r.push xs).push ys = r.push (xs ++ ys) := by
  simp [push]

theorem push_pending (h : r.pending = none) (operands : List String) :
    (r.push operands).pending = none :=
  h

theorem switch_frame {s : Switch} (h : r.switch s = .ok r') :
    r'.pending = r.pending ∧ r'.operands = r.operands := by
  unfold switch at h
  grind

theorem take_frame {p : Parameter} {value : Option Bytes} (h : r.take p value = .ok r') :
    r'.pending = r.pending ∧ r'.operands = r.operands := by
  unfold take at h
  grind

theorem settle_of_none (h : r.pending = none) : r.settle = .ok r := by
  cases r; cases h; rfl

theorem settle_pending (h : r.settle = .ok r') : r'.pending = none := by
  unfold settle at h
  split at h
  · cases h; rfl
  · exact (take_frame h).1
  · split at h
    · cases h; rfl
    · cases h

theorem settle_settle (h : r.settle = .ok r') : r'.settle = .ok r' :=
  settle_of_none (settle_pending h)

/-- An option without the value it waits for is refused. -/
theorem not_settle_of_waits (h : r.Waits) : r.settle ≠ .ok r' := by
  obtain ⟨p, hp⟩ := h
  simp [settle, hp, take]

theorem postpone_eq_ok {p : Pending} :
    r.postpone p = .ok r' ↔ ∃ r₀, r.settle = .ok r₀ ∧ { r₀ with pending := some p } = r' :=
  map_eq_ok

/-! ## One argument -/

theorem next_switch (r : Reading) (s : Switch) :
    r.next (Utf8.encode s.name) = (r.settle.mapError .usage).bind fun r₀ => r₀.switch s := by
  obtain ⟨name, hshape, hname⟩ := shape_switch s
  simp only [next, hshape, long, hname, Switch.ofBytes?_eq_some_iff.2 rfl]
  cases r.settle <;> rfl

theorem next_joined (r : Reading) (p : Parameter) (v : Bytes) :
    r.next (withValue (Utf8.encode p.name) (some v)) =
      (r.settle.bind fun r₀ => r₀.take p (some v)).mapError .usage := by
  obtain ⟨name, hshape, hname⟩ := shape_parameter p (some v)
  simp only [next, hshape, long, hname, Switch.ofBytes?_parameter,
    Parameter.ofBytes?_eq_some_iff.2 rfl]

theorem next_parameter (r : Reading) (p : Parameter) :
    r.next (Utf8.encode p.name) = (r.postpone (.parameter p none)).mapError .usage := by
  obtain ⟨name, hshape, hname⟩ := shape_parameter p none
  rw [withValue] at hshape
  simp only [next, hshape, long, hname, Switch.ofBytes?_parameter,
    Parameter.ofBytes?_eq_some_iff.2 rfl]

theorem next_word (r : Reading) (h : IsWord arg) : r.next arg = (r.word arg).mapError .usage := by
  simp only [next, shape_word_iff.2 h]

theorem not_short_ok {letters : Bytes} : r.short letters ≠ .ok r' := by
  unfold short
  grind

/-- Only options that are known, and words, are ever accepted. -/
theorem next_ok_cases (h : r.next arg = .ok r') :
    (∃ s : Switch, arg = Utf8.encode s.name) ∨
    (∃ p v, arg = withValue (Utf8.encode (Parameter.name p)) v) ∨ IsWord arg := by
  unfold next at h
  split at h
  · rename_i name value hshape
    have harg := eq_withValue_of_shape hshape
    unfold long at h
    simp only at h
    split at h
    · rename_i s hs
      rw [Switch.ofBytes?_eq_some_iff] at hs
      cases value with
      | some v => cases h
      | none => exact .inl ⟨s, by rw [harg, hs]; rfl⟩
    · split at h
      · rename_i p hp
        rw [Parameter.ofBytes?_eq_some_iff] at hp
        exact .inr (.inl ⟨p, value, by rw [harg, hp]⟩)
      · cases h
  · exact absurd h not_short_ok
  · rename_i hshape
    exact .inr (.inr (shape_word_iff.1 hshape))

/-! ## Late checks -/

theorem word_of_not_waits (h : ¬ r.Waits) : r.word arg = r.postpone (.operand arg) := by
  unfold word
  split
  · rename_i p hp
    exact absurd ⟨p, hp⟩ h
  · rfl

/-- Checking what is pending before the next argument makes no difference to one that is
accepted. -/
theorem next_settle (h : ¬ r.Waits) :
    r.next arg = .ok r' ↔ ∃ r₀, r.settle = .ok r₀ ∧ r₀.next arg = .ok r' := by
  have key (harg : (∃ s : Switch, arg = Utf8.encode s.name) ∨
      (∃ p v, arg = withValue (Utf8.encode (Parameter.name p)) v) ∨ IsWord arg) :
      (∃ e, r.settle = .error e ∧ r.next arg = .error (.usage e)) ∨
        ∃ r₀, r.settle = .ok r₀ ∧ r₀.next arg = r.next arg := by
    cases hr : r.settle with
    | error e =>
      refine .inl ⟨e, rfl, ?_⟩
      obtain ⟨s, rfl⟩ | ⟨p, v, rfl⟩ | hword := harg
      · rw [next_switch, hr]; rfl
      · cases v with
        | none => rw [withValue, next_parameter, postpone, hr]; rfl
        | some v => rw [next_joined, hr]; rfl
      · rw [next_word r hword, word_of_not_waits h, postpone, hr]; rfl
    | ok r₀ =>
      have hr₀ := settle_settle hr
      refine .inr ⟨r₀, rfl, ?_⟩
      obtain ⟨s, rfl⟩ | ⟨p, v, rfl⟩ | hword := harg
      · rw [next_switch, next_switch, hr, hr₀]
      · cases v with
        | none => rw [withValue, next_parameter, next_parameter, postpone, postpone, hr, hr₀]
        | some v => rw [next_joined, next_joined, hr, hr₀]
      · have hw₀ : ¬ r₀.Waits := fun hw => not_settle_of_waits hw hr₀
        rw [next_word r hword, next_word r₀ hword, word_of_not_waits h, word_of_not_waits hw₀,
          postpone, postpone, hr, hr₀]
  constructor
  · intro hn
    obtain ⟨e, _, he⟩ | ⟨r₀, hr, hn₀⟩ := key (next_ok_cases hn)
    · rw [he] at hn; cases hn
    · exact ⟨r₀, hr, hn₀.trans hn⟩
  · rintro ⟨r₀, hr, hn₀⟩
    obtain ⟨e, he, _⟩ | ⟨r₁, hr₁, hn₁⟩ := key (next_ok_cases hn₀)
    · rw [he] at hr; cases hr
    · rw [hr₁] at hr
      cases hr
      exact hn₁.symm.trans hn₀

theorem operandsOnly_settle :
    r.operandsOnly args = .ok r' ↔ ∃ r₀, r.settle = .ok r₀ ∧ r₀.operandsOnly args = .ok r' := by
  cases hr : r.settle with
  | error e => cases args <;> simp [operandsOnly, postpone, hr, Except.map]
  | ok r₀ =>
    have hr₀ := settle_settle hr
    cases args <;> simp [operandsOnly, postpone, hr, hr₀]

theorem readOwn_cons (harg : arg ≠ endOfOptions) :
    r.readOwn (arg :: rest) = .ok r' ↔ ∃ r₁, r.next arg = .ok r₁ ∧ r₁.readOwn rest = .ok r' := by
  rw [readOwn, if_neg harg]
  cases r.next arg <;> simp

theorem readOwn_settle (h : ¬ r.Waits) :
    r.readOwn args = .ok r' ↔ ∃ r₀, r.settle = .ok r₀ ∧ r₀.readOwn args = .ok r' := by
  cases args with
  | nil =>
    simp only [readOwn, mapError_eq_ok]
    constructor
    · intro hr
      exact ⟨r', hr, settle_settle hr⟩
    · rintro ⟨r₀, hr, hr'⟩
      rw [settle_settle hr] at hr'
      cases hr'; exact hr
  | cons arg rest =>
    by_cases harg : arg = endOfOptions
    · simp only [readOwn, if_pos harg, mapError_eq_ok]
      exact operandsOnly_settle
    · simp only [readOwn_cons harg]
      constructor
      · rintro ⟨r₁, hn, hr⟩
        obtain ⟨r₀, hr₀, hn₀⟩ := (next_settle h).1 hn
        exact ⟨r₀, hr₀, r₁, hn₀, hr⟩
      · rintro ⟨r₀, hr₀, r₁, hn₀, hr⟩
        exact ⟨r₁, (next_settle h).2 ⟨r₀, hr₀, hn₀⟩, hr⟩

/-- An option that waits for its value takes nothing but a word. -/
theorem isWord_of_waits (hw : r.Waits) (h : r.readOwn (arg :: rest) = .ok r') : IsWord arg := by
  by_cases harg : arg = endOfOptions
  · rw [readOwn, if_pos harg, mapError_eq_ok, operandsOnly_settle] at h
    obtain ⟨r₀, hr₀, _⟩ := h
    exact absurd hr₀ (not_settle_of_waits hw)
  · rw [readOwn_cons harg] at h
    obtain ⟨r₁, hn, _⟩ := h
    obtain ⟨s, rfl⟩ | ⟨p, v, rfl⟩ | hword := next_ok_cases hn
    · rw [next_switch, bind_eq_ok] at hn
      obtain ⟨r₀, hr₀, _⟩ := hn
      exact absurd (mapError_eq_ok.1 hr₀) (not_settle_of_waits hw)
    · cases v with
      | none =>
        rw [withValue, next_parameter, mapError_eq_ok, postpone_eq_ok] at hn
        obtain ⟨r₀, hr₀, _⟩ := hn
        exact absurd hr₀ (not_settle_of_waits hw)
      | some v =>
        rw [next_joined, mapError_eq_ok, bind_eq_ok] at hn
        obtain ⟨r₀, hr₀, _⟩ := hn
        exact absurd hr₀ (not_settle_of_waits hw)
    · exact hword

/-! ## A command line with nothing pending -/

section Ready

variable (hr : r.pending = none)
include hr

theorem settle_operand :
    ({ r with pending := some (.operand arg) } : Reading).settle = .ok r' ↔
      ∃ s, arg = Utf8.encode s ∧ r' = r.push [s] := by
  cases r; cases hr
  simp only [settle, push]
  split
  · rename_i s hs
    rw [Utf8.decode?_eq_some_iff] at hs
    subst hs
    constructor
    · intro h
      cases h
      exact ⟨s, rfl, rfl⟩
    · rintro ⟨t, ht, rfl⟩
      rw [Utf8.encode_injective ht]
  · rename_i hnone
    constructor
    · intro h
      cases h
    · rintro ⟨s, rfl, _⟩
      rw [Utf8.decode?_encode] at hnone
      cases hnone

theorem settle_value {p : Parameter} {v : Bytes} :
    ({ r with pending := some (.parameter p (some v)) } : Reading).settle = r.take p (some v) := by
  cases r; cases hr; rfl

theorem readOwn_nil : r.readOwn [] = .ok r' ↔ r' = r := by
  rw [readOwn, mapError_eq_ok, settle_of_none hr]
  exact ⟨fun h => by cases h; rfl, fun h => by rw [h]⟩

theorem readOwn_switch {s : Switch} :
    r.readOwn (Utf8.encode s.name :: rest) = .ok r' ↔
      ∃ r₁, r.switch s = .ok r₁ ∧ r₁.readOwn rest = .ok r' := by
  have hend : Utf8.encode s.name ≠ endOfOptions := by cases s <;> decide
  rw [readOwn_cons hend, next_switch, settle_of_none hr]
  rfl

theorem readOwn_joined {p : Parameter} {v : Bytes} :
    r.readOwn (withValue (Utf8.encode p.name) (some v) :: rest) = .ok r' ↔
      ∃ r₁, r.take p (some v) = .ok r₁ ∧ r₁.readOwn rest = .ok r' := by
  have hend : withValue (Utf8.encode p.name) (some v) ≠ endOfOptions := by
    obtain ⟨_, hshape, _⟩ := shape_parameter p (some v)
    intro hend
    rw [hend] at hshape
    cases hshape
  rw [readOwn_cons hend, next_joined, settle_of_none hr]
  simp only [mapError_eq_ok]
  rfl

/-- An option that takes its value from the next argument. -/
theorem readOwn_apart {p : Parameter} {v : Bytes} :
    r.readOwn (Utf8.encode p.name :: v :: rest) = .ok r' ↔
      IsWord v ∧ ∃ r₁, r.take p (some v) = .ok r₁ ∧ r₁.readOwn rest = .ok r' := by
  have hend : Utf8.encode p.name ≠ endOfOptions := by cases p <;> decide
  have hnext : r.next (Utf8.encode p.name) = .ok { r with pending := some (.parameter p none) } := by
    rw [next_parameter, postpone, settle_of_none hr]; rfl
  have hvalue (hv : IsWord v) :
      ({ r with pending := some (.parameter p none) } : Reading).next v =
        .ok { r with pending := some (.parameter p (some v)) } := by
    rw [next_word _ hv]; rfl
  have hwaits : ¬ ({ r with pending := some (.parameter p (some v)) } : Reading).Waits := by
    rintro ⟨q, hq⟩
    cases hq
  simp only [readOwn_cons hend, hnext, Except.ok.injEq, exists_eq_left']
  constructor
  · intro h
    have hv := isWord_of_waits ⟨p, rfl⟩ h
    rw [readOwn_cons (ne_endOfOptions_of_isWord hv), hvalue hv] at h
    obtain ⟨r₁, ⟨⟩, h⟩ := h
    rw [readOwn_settle hwaits, settle_value hr] at h
    exact ⟨hv, h⟩
  · rintro ⟨hv, h⟩
    rw [readOwn_cons (ne_endOfOptions_of_isWord hv), hvalue hv]
    rw [← settle_value hr, ← readOwn_settle hwaits] at h
    exact ⟨_, rfl, h⟩

theorem not_readOwn_alone {p : Parameter} : r.readOwn [Utf8.encode p.name] ≠ .ok r' := by
  have hend : Utf8.encode p.name ≠ endOfOptions := by cases p <;> decide
  intro h
  rw [readOwn_cons hend, next_parameter, postpone, settle_of_none hr] at h
  obtain ⟨r₁, ⟨⟩, h⟩ := h
  rw [readOwn, mapError_eq_ok] at h
  exact not_settle_of_waits ⟨p, rfl⟩ h

theorem readOwn_word (h : IsWord arg) :
    r.readOwn (arg :: rest) = .ok r' ↔
      ∃ s, arg = Utf8.encode s ∧ (r.push [s]).readOwn rest = .ok r' := by
  have hnw : ¬ r.Waits := fun ⟨p, hp⟩ => by rw [hr] at hp; cases hp
  have hnext : r.next arg = .ok { r with pending := some (.operand arg) } := by
    rw [next_word r h, word_of_not_waits hnw, postpone, settle_of_none hr]; rfl
  have hwaits : ¬ ({ r with pending := some (.operand arg) } : Reading).Waits := by
    rintro ⟨q, hq⟩
    cases hq
  rw [readOwn_cons (ne_endOfOptions_of_isWord h), hnext]
  simp only [Except.ok.injEq, exists_eq_left', readOwn_settle hwaits, settle_operand hr]
  constructor
  · rintro ⟨_, ⟨s, hs, rfl⟩, h⟩
    exact ⟨s, hs, h⟩
  · rintro ⟨s, hs, h⟩
    exact ⟨_, ⟨s, hs, rfl⟩, h⟩

end Ready

theorem readOwn_words (hr : r.pending = none) {ss : List String}
    (h : ∀ s ∈ ss, IsWord (Utf8.encode s)) : r.readOwn (ss.map Utf8.encode) = .ok (r.push ss) := by
  induction ss generalizing r with
  | nil => rw [List.map_nil, readOwn_nil hr, push_nil]
  | cons s ss ih =>
    rw [List.map_cons, readOwn_word hr (h s List.mem_cons_self)]
    refine ⟨s, rfl, ?_⟩
    rw [ih (push_pending hr [s]) fun t ht => h t (List.mem_cons_of_mem s ht), push_push]
    rfl

theorem operandsOnly_eq_ok (hr : r.pending = none) :
    r.operandsOnly args = .ok r' ↔ ∃ ss, args = ss.map Utf8.encode ∧ r' = r.push ss := by
  induction args generalizing r with
  | nil =>
    rw [operandsOnly, settle_of_none hr]
    constructor
    · intro h
      cases h
      exact ⟨[], rfl, (push_nil _).symm⟩
    · rintro ⟨ss, hss, rfl⟩
      rw [List.map_eq_nil_iff.1 hss.symm, push_nil]
  | cons arg rest ih =>
    rw [operandsOnly, postpone, settle_of_none hr]
    simp only [Except.map]
    rw [operandsOnly_settle]
    simp only [settle_operand hr]
    constructor
    · rintro ⟨_, ⟨s, rfl, rfl⟩, h⟩
      obtain ⟨ss, rfl, rfl⟩ := (ih (push_pending hr [s])).1 h
      exact ⟨s :: ss, rfl, push_push r [s] ss⟩
    · rintro ⟨ss, hss, rfl⟩
      cases ss with
      | nil => cases hss
      | cons s ss =>
        cases hss
        exact ⟨_, ⟨s, rfl, rfl⟩, (ih (push_pending hr [s])).2 ⟨ss, rfl, (push_push r [s] ss).symm⟩⟩

/-- Behind the end of the options all arguments are operands. -/
theorem readOwn_end (hr : r.pending = none) :
    r.readOwn (endOfOptions :: rest) = .ok r' ↔
      ∃ ss, rest = ss.map Utf8.encode ∧ r' = r.push ss := by
  rw [readOwn, if_pos rfl, mapError_eq_ok, operandsOnly_eq_ok hr]

/-- What an accepted command line may begin with. -/
theorem first_argument (h : r.readOwn (arg :: rest) = .ok r') :
    arg = endOfOptions ∨ (∃ s : Switch, arg = Utf8.encode s.name) ∨
      (∃ p v, arg = withValue (Utf8.encode (Parameter.name p)) v) ∨ IsWord arg := by
  by_cases harg : arg = endOfOptions
  · exact .inl harg
  · rw [readOwn_cons harg] at h
    obtain ⟨r₁, hn, _⟩ := h
    exact .inr (next_ok_cases hn)

/-! ## Counting operands -/

/-- An accepted command line ends its options, or goes on with an operand, or goes on behind an
option. -/
theorem readOwn_step (hr : r.pending = none) (h : r.readOwn (arg :: rest) = .ok r') :
    (∃ ss, rest = ss.map Utf8.encode ∧ r' = r.push ss) ∨
    (∃ s, IsWord arg ∧ arg = Utf8.encode s ∧ (r.push [s]).readOwn rest = .ok r') ∨
    (∃ (r₁ : Reading) (rest' : List Bytes), r₁.pending = none ∧ r₁.operands = r.operands ∧
      rest'.length ≤ rest.length ∧ r₁.readOwn rest' = .ok r') := by
  obtain rfl | ⟨s, rfl⟩ | ⟨p, v, rfl⟩ | hword := first_argument h
  · exact .inl ((readOwn_end hr).1 h)
  · obtain ⟨r₁, hs, h⟩ := (readOwn_switch hr).1 h
    obtain ⟨hp, ho⟩ := switch_frame hs
    exact .inr (.inr ⟨r₁, rest, hp.trans hr, ho, Nat.le_refl _, h⟩)
  · cases v with
    | some v =>
      obtain ⟨r₁, ht, h⟩ := (readOwn_joined hr).1 h
      obtain ⟨hp, ho⟩ := take_frame ht
      exact .inr (.inr ⟨r₁, rest, hp.trans hr, ho, Nat.le_refl _, h⟩)
    | none =>
      cases rest with
      | nil => exact absurd h (not_readOwn_alone hr)
      | cons v rest =>
        obtain ⟨_, r₁, ht, h⟩ := (readOwn_apart hr).1 h
        obtain ⟨hp, ho⟩ := take_frame ht
        exact .inr (.inr ⟨r₁, rest, hp.trans hr, ho, Nat.le_succ _, h⟩)
  · obtain ⟨s, hs, h⟩ := (readOwn_word hr hword).1 h
    exact .inr (.inl ⟨s, hword, hs, h⟩)

/-- No argument gives more than one operand. -/
theorem operands_length_le {n : Nat} : ∀ {r : Reading} {args : List Bytes}, args.length ≤ n →
    r.pending = none → r.readOwn args = .ok r' →
    r'.operands.length ≤ r.operands.length + args.length := by
  induction n with
  | zero =>
    intro r args hn hr h
    rw [List.eq_nil_of_length_eq_zero (Nat.le_zero.1 hn)] at h
    rw [(readOwn_nil hr).1 h]
    exact Nat.le_add_right _ _
  | succ n ih =>
    intro r args hn hr h
    cases args with
    | nil =>
      rw [(readOwn_nil hr).1 h]
      exact Nat.le_add_right _ _
    | cons arg rest =>
      rw [List.length_cons] at hn ⊢
      obtain ⟨ss, rfl, rfl⟩ | ⟨s, _, _, h⟩ | ⟨r₁, rest', hr₁, ho, hle, h⟩ := readOwn_step hr h
      · simp [push]
      · have := ih (by omega) (push_pending hr [s]) h
        simp only [push, List.length_append, List.length_cons, List.length_nil] at this
        omega
      · have := ih (by omega) hr₁ h
        rw [ho] at this
        omega

/-- If every argument gives an operand, all of them are words. -/
theorem words_of_operands_length (hr : r.pending = none) (h : r.readOwn args = .ok r')
    (hlen : r.operands.length + args.length ≤ r'.operands.length) :
    ∃ ss, args = ss.map Utf8.encode ∧ (∀ arg ∈ args, IsWord arg) ∧ r' = r.push ss := by
  induction args generalizing r with
  | nil => exact ⟨[], rfl, by simp, by rw [(readOwn_nil hr).1 h, push_nil]⟩
  | cons arg rest ih =>
    rw [List.length_cons] at hlen
    obtain ⟨ss, rfl, rfl⟩ | ⟨s, hword, rfl, hrest⟩ | ⟨r₁, rest', hr₁, ho, hle, hrest⟩ :=
      readOwn_step hr h
    · simp only [push, List.length_append, List.length_map] at hlen
      omega
    · have hlen' : (r.push [s]).operands.length + rest.length ≤ r'.operands.length := by
        simp only [push, List.length_append, List.length_cons, List.length_nil]
        omega
      obtain ⟨ss, rfl, hwords, rfl⟩ := ih (push_pending hr [s]) hrest hlen'
      refine ⟨s :: ss, rfl, ?_, push_push r [s] ss⟩
      intro arg harg
      rcases List.mem_cons.1 harg with rfl | harg
      · exact hword
      · exact hwords arg harg
    · have := operands_length_le (Nat.le_refl _) hr₁ hrest
      rw [ho] at this
      omega

end Reading

/-! ## The whole command line -/

theorem passedOn_eq_ok {args : List Bytes} {texts : List String} :
    passedOn args = .ok texts ↔ args = texts.map Utf8.encode := by
  induction args generalizing texts with
  | nil =>
    rw [passedOn]
    constructor
    · intro h
      cases h; rfl
    · intro h
      rw [List.map_eq_nil_iff.1 h.symm]
  | cons arg rest ih =>
    rw [passedOn]
    cases harg : Utf8.decode? arg with
    | none =>
      constructor
      · intro h
        cases h
      · intro h
        cases texts with
        | nil => cases h
        | cons s ss =>
          cases h
          rw [Utf8.decode?_encode] at harg
          cases harg
    | some s =>
      rw [Utf8.decode?_eq_some_iff] at harg
      subst harg
      simp only [map_eq_ok, ih]
      constructor
      · rintro ⟨ss, rfl, rfl⟩
        rfl
      · intro h
        cases texts with
        | nil => cases h
        | cons t ts =>
          rw [List.map_cons, List.cons.injEq] at h
          exact ⟨ts, h.2, by rw [Utf8.encode_injective h.1]⟩

theorem passedOn_eq_error {args : List Bytes} {e : UsageError} :
    passedOn args = .error e ↔
      ∃ bad, args.find? (fun arg => !Utf8.isText arg) = some bad ∧ e = .badPassedOn bad := by
  induction args with
  | nil => simp [passedOn]
  | cons arg rest ih =>
    rw [passedOn]
    cases harg : Utf8.decode? arg with
    | none => simp [Utf8.isText, harg, eq_comm]
    | some s =>
      have : (!Utf8.isText arg) = false := by simp [Utf8.isText, harg]
      rw [List.find?_cons_of_neg (by simp [this]), ← ih]
      cases passedOn rest <;> simp [Except.map]

/-- The command of a reading, once the arguments that are passed on are known. -/
def Command.ofReading (r : Reading) (passed : List Bytes) : Except Halt Command :=
  match r.operands with
  | runtime :: compiler :: tool :: _ =>
    match passedOn passed with
    | .ok args => .ok ⟨r.options, ⟨runtime, compiler, tool, args⟩⟩
    | .error e => .error (.usage e)
  | operands => .error (.usage (.missing (Operand.all.drop operands.length)))

theorem ofReading_eq_ok {r : Reading} {passed : List Bytes} {c : Command} :
    Command.ofReading r passed = .ok c ↔
      ∃ runtime compiler tool more args, r.operands = runtime :: compiler :: tool :: more ∧
        passed = args.map Utf8.encode ∧ c = ⟨r.options, ⟨runtime, compiler, tool, args⟩⟩ := by
  unfold Command.ofReading
  split
  · rename_i runtime compiler tool more hr
    constructor
    · intro h
      split at h
      · rename_i args hargs
        cases h
        exact ⟨_, _, _, _, args, hr, passedOn_eq_ok.1 hargs, rfl⟩
      · cases h
    · rintro ⟨_, _, _, _, args, hr', hargs, rfl⟩
      rw [hr] at hr'
      cases hr'
      rw [passedOn_eq_ok.2 hargs]
  · rename_i hr
    constructor
    · intro h
      cases h
    · rintro ⟨_, _, _, _, _, hr', _⟩
      exact absurd hr' (hr _ _ _ _)

theorem ofArgv_eq (argv : List Bytes) :
    Command.ofArgv argv =
      (Reading.empty.readOwn (argv.take (ownSpan argv)).tail).bind fun r =>
        Command.ofReading r (argv.drop (ownSpan argv)) := by
  rw [Command.ofArgv, List.splitAt_eq]
  simp only [Command.ofReading]
  cases Reading.empty.readOwn (argv.take (ownSpan argv)).tail <;> rfl

theorem ownSpan_cons (name : Bytes) (rest : List Bytes) :
    ownSpan (name :: rest) = optionSpan rest + 3 + 1 := by
  simp only [ownSpan, List.tail_cons, Operand.all, List.length_cons, List.length_nil]
  omega

theorem ofArgv_cons (name : Bytes) (rest : List Bytes) :
    Command.ofArgv (name :: rest) =
      (Reading.empty.readOwn (rest.take (optionSpan rest + 3))).bind fun r =>
        Command.ofReading r (rest.drop (optionSpan rest + 3)) := by
  rw [ofArgv_eq, ownSpan_cons, List.take_succ_cons, List.drop_succ_cons, List.tail_cons]

end JavacLaunch
