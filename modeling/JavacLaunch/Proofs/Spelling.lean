import JavacLaunch.Proofs.Given

/-!
# JavacLaunch.Proofs.Spelling

The value of an option may stand behind an equals sign or in the next argument.

The scan for options passes one argument in the first case and two in the second, and has to find
the operands behind either. It does, unless a file name behind an equals sign is not text: the scan
stops there, and cuts the launcher's own part one operand short.

* `accepts_args`: one more option, whatever follows it.
* `accepts_spelling`: one option in its two spellings.
* `joined_accepted_iff`: a whole command line in its two spellings.
-/

namespace JavacLaunch

theorem Given.args_length_le (g : Given) : g.args.length ≤ 2 := by
  match g with
  | .debug | .dryRun | .choice .joined _ => exact Nat.le_succ 1
  | .choice .apart _ => exact Nat.le_refl 2

namespace Reading

/-- From this reading on, the rest of a command line is accepted as a command. -/
def Accepts (r : Reading) (rest : List Bytes) (c : Command) : Prop :=
  ∃ r', r.readOwn (rest.take (optionSpan rest + 3)) = .ok r' ∧
    Command.ofReading r' (rest.drop (optionSpan rest + 3)) = .ok c

variable {gs : List Given} {rest : List Bytes} {c : Command}

theorem ofArgv_eq_ok_iff_accepts (name : Bytes) (rest : List Bytes) (c : Command) :
    Command.ofArgv (name :: rest) = .ok c ↔ (ofGiven []).Accepts rest c := by
  rw [ofArgv_cons, bind_eq_ok]
  rfl

theorem operands_of_ofReading {r : Reading} {passed : List Bytes}
    (h : Command.ofReading r passed = .ok c) : 3 ≤ r.operands.length := by
  obtain ⟨runtime, compiler, tool, more, args, ho, _, _⟩ := ofReading_eq_ok.1 h
  rw [ho]
  exact Nat.le_add_left 3 _

theorem accepts_args_of_wellFormed {g : Given} (hw : g.WellFormed) :
    (ofGiven gs).Accepts (g.args ++ rest) c ↔
      g.kind ∉ gs.map Given.kind ∧ (ofGiven (gs ++ [g])).Accepts rest c := by
  unfold Accepts
  rw [Given.optionSpan_args hw, Nat.add_assoc, List.take_length_add_append,
    List.drop_length_add_append]
  constructor
  · rintro ⟨r', hread, hc⟩
    obtain ⟨_, hnew, hrest⟩ := readOwn_args.1 hread
    exact ⟨hnew, r', hrest, hc⟩
  · rintro ⟨hnew, r', hrest, hc⟩
    exact ⟨r', readOwn_args.2 ⟨hw.1, hnew, hrest⟩, hc⟩

/-- Where the scan stops at an option, two more arguments are left for three operands. -/
theorem wellFormed_of_accepts {g : Given} (h : (ofGiven gs).Accepts (g.args ++ rest) c) :
    g.WellFormed := by
  obtain ⟨r', hread, hc⟩ := h
  have hone := g.args_length_pos
  have htwo := g.args_length_le
  rw [List.take_append, List.take_of_length_le (by omega)] at hread
  obtain ⟨hreadable, _, hrest⟩ := readOwn_args.1 hread
  have hspan : optionSpan (g.args ++ rest) ≠ 0 := by
    intro hzero
    rw [hzero] at hrest
    have hmost := operands_length_le (Nat.le_refl _) rfl hrest
    have hleft := List.length_take_le (0 + 3 - g.args.length) rest
    have hleast := operands_of_ofReading hc
    have hnone : (ofGiven (gs ++ [g])).operands.length = 0 := rfl
    omega
  exact Given.wellFormed_of_readable hreadable hspan

theorem accepts_args {g : Given} :
    (ofGiven gs).Accepts (g.args ++ rest) c ↔
      g.WellFormed ∧ g.kind ∉ gs.map Given.kind ∧ (ofGiven (gs ++ [g])).Accepts rest c := by
  constructor
  · intro h
    have hw := wellFormed_of_accepts h
    exact ⟨hw, (accepts_args_of_wellFormed hw).1 h⟩
  · rintro ⟨hw, h⟩
    exact (accepts_args_of_wellFormed hw).2 h

/-! ## Two spellings of one option -/

/-- Where its value stands makes no difference to what an option says. -/
theorem ofGiven_choice (gs : List Given) (choice : Choice) :
    ofGiven (gs ++ [.choice .joined choice]) = ofGiven (gs ++ [.choice .apart choice]) := by
  cases choice <;> simp [ofGiven, Given.format?, Given.config?]

theorem accepts_choice (choice : Choice) :
    (ofGiven gs).Accepts (Given.args (.choice .joined choice) ++ rest) c ∧ IsWord choice.bytes ↔
      (ofGiven gs).Accepts (Given.args (.choice .apart choice) ++ rest) c ∧
        Utf8.isText choice.bytes = true := by
  rw [accepts_args, accepts_args, ofGiven_choice]
  constructor
  · rintro ⟨⟨⟨hne, htext⟩, hnew, hrest⟩, hword⟩
    exact ⟨⟨⟨⟨hne, hword⟩, trivial⟩, hnew, hrest⟩, htext⟩
  · rintro ⟨⟨⟨⟨hne, hword⟩, _⟩, hnew, hrest⟩, htext⟩
    exact ⟨⟨⟨hne, htext⟩, hnew, hrest⟩, hword⟩

theorem exists_choice_of_joined {p : Parameter} {v : Bytes}
    (h : (ofGiven gs).Accepts (withValue (Utf8.encode p.name) (some v) :: rest) c) :
    ∃ choice : Choice, choice.parameter = p ∧ choice.bytes = v := by
  obtain ⟨r', hread, _⟩ := h
  rw [List.take_succ_cons] at hread
  obtain ⟨_, htake, _⟩ := (readOwn_joined rfl).1 hread
  exact exists_choice htake

theorem exists_choice_of_apart {p : Parameter} {v : Bytes}
    (h : (ofGiven gs).Accepts (Utf8.encode p.name :: v :: rest) c) :
    ∃ choice : Choice, choice.parameter = p ∧ choice.bytes = v := by
  obtain ⟨r', hread, _⟩ := h
  rw [List.take_succ_cons, List.take_succ_cons] at hread
  obtain ⟨_, _, htake, _⟩ := (readOwn_apart rfl).1 hread
  exact exists_choice htake

/-- All names of formats are text. -/
theorem isText_choice {choice : Choice}
    (h : choice.parameter = .config → Utf8.isText choice.bytes = true) :
    Utf8.isText choice.bytes = true := by
  cases choice with
  | format f => exact Utf8.isText_encode _
  | config file => exact h rfl

theorem accepts_spelling (gs : List Given) (p : Parameter) (v : Bytes) (rest : List Bytes)
    (c : Command) :
    (ofGiven gs).Accepts (withValue (Utf8.encode p.name) (some v) :: rest) c ∧ IsWord v ↔
      (ofGiven gs).Accepts (Utf8.encode p.name :: v :: rest) c ∧
        (p = .config → Utf8.isText v = true) := by
  constructor
  · rintro ⟨h, hword⟩
    obtain ⟨choice, rfl, rfl⟩ := exists_choice_of_joined h
    obtain ⟨hapart, htext⟩ := (accepts_choice choice).1 ⟨h, hword⟩
    exact ⟨hapart, fun _ => htext⟩
  · rintro ⟨h, htext⟩
    obtain ⟨choice, rfl, rfl⟩ := exists_choice_of_apart h
    exact (accepts_choice choice).2 ⟨h, isText_choice htext⟩

/-- What options in front ask for does not depend on what follows them. -/
theorem accepts_behind {P Q : Prop} {xs ys : List Bytes}
    (h : ∀ gs, (ofGiven gs).Accepts xs c ∧ P ↔ (ofGiven gs).Accepts ys c ∧ Q)
    (gs front : List Given) :
    (ofGiven gs).Accepts (front.flatMap Given.args ++ xs) c ∧ P ↔
      (ofGiven gs).Accepts (front.flatMap Given.args ++ ys) c ∧ Q := by
  induction front generalizing gs with
  | nil => exact h gs
  | cons g front ih =>
    rw [List.flatMap_cons, List.append_assoc, List.append_assoc, accepts_args, accepts_args,
      and_assoc, and_assoc, and_assoc, and_assoc, ih (gs ++ [g])]

end Reading

/-- Behind any options, an option may be given with its value joined to it or apart from it, and the
command line is accepted as the same command. There are two exceptions: a value that begins like an
option cannot stand apart, and a file name that is not text cannot be joined. -/
theorem joined_accepted_iff (name : Bytes) (front : List Given) (p : Parameter) (v : Bytes)
    (rest : List Bytes) (c : Command) :
    Command.ofArgv (name :: (front.flatMap Given.args ++
        withValue (Utf8.encode p.name) (some v) :: rest)) = .ok c ∧ IsWord v ↔
      Command.ofArgv (name :: (front.flatMap Given.args ++ Utf8.encode p.name :: v :: rest)) =
          .ok c ∧
        (p = .config → Utf8.isText v = true) := by
  rw [Reading.ofArgv_eq_ok_iff_accepts, Reading.ofArgv_eq_ok_iff_accepts]
  refine Reading.accepts_behind (fun gs => ?_) [] front
  exact Reading.accepts_spelling gs p v rest c

/-- A file name that is not text is accepted apart from its option. Joined to it, the scan stops at
it, and the tool counts as an argument that is passed on. -/
theorem joined_file_name_refused :
    ¬ ∀ (name : Bytes) (front : List Given) (p : Parameter) (v : Bytes) (rest : List Bytes)
        (c : Command), (∀ g ∈ front, g.WellFormed) → v ≠ [] → v.head? ≠ some dash →
      (Command.ofArgv (name :: (front.flatMap Given.args ++
          withValue (Utf8.encode p.name) (some v) :: rest)) = .ok c ↔
        Command.ofArgv (name :: (front.flatMap Given.args ++ Utf8.encode p.name :: v :: rest)) =
          .ok c) := by
  intro hsame
  let rest := ["java", "javac", "ep.jar"].map Utf8.encode
  have hapart : Command.ofArgv (Utf8.encode "epwrap" :: Utf8.encode "--config" :: [0xFF] :: rest) =
      .ok ⟨⟨false, false, .text, some [0xFF]⟩, ⟨"java", "javac", "ep.jar", []⟩⟩ := rfl
  have hjoined : Command.ofArgv (Utf8.encode "epwrap" ::
      withValue (Utf8.encode "--config") (some [0xFF]) :: rest) =
      .error (.usage (.missing [.tool])) := rfl
  have haccepted := (hsame (Utf8.encode "epwrap") [] .config [0xFF] rest _ nofun (by decide)
    (by decide)).2 hapart
  exact absurd (hjoined.symm.trans haccepted) nofun

end JavacLaunch
