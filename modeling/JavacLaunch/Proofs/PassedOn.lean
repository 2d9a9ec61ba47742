import JavacLaunch.Proofs.Reading

/-!
# JavacLaunch.Proofs.PassedOn

The arguments behind the tool have no part in how the launcher reads its own arguments.

* `ofArgv_append`: a complete command line and what is appended to it are read apart.
* `appended_never_read`: what is appended shows up only in the arguments that are passed on, or, if
  it is not all text, in the error that names its first part that is not.
-/

namespace JavacLaunch

/-- The scan for options stops three arguments before the end. -/
def Complete (argv : List Bytes) : Prop :=
  1 + optionSpan argv.tail + Operand.all.length = argv.length

/-- The result of a command line that gives a command, once more arguments are passed on. -/
def Command.PassesOn (c : Command) (passed : List Bytes) (result : Except Halt Command) : Prop :=
  match passed.find? fun arg => !Utf8.isText arg with
  | some bad => result = .error (.usage (.badPassedOn bad))
  | none => ∃ args : List String, passed = args.map Utf8.encode ∧
      result = .ok { c with request := { c.request with args := args } }

theorem ofArgv_append {h : List Bytes} (hc : Complete h) (t : List Bytes) :
    Command.ofArgv (h ++ t) =
      (Reading.empty.readOwn h.tail).bind fun r => Command.ofReading r t := by
  cases h with
  | nil => cases hc
  | cons name own =>
    have hspan : ownSpan (name :: own) = (name :: own).length := hc
    rw [ownSpan_cons, List.length_cons] at hspan
    have hlen : optionSpan own + 3 = own.length := Nat.succ.inj hspan
    rw [List.cons_append, ofArgv_cons, optionSpan_append (by omega), hlen, List.take_left,
      List.drop_left]
    rfl

theorem ofReading_passesOn {r : Reading} {c : Command} (h : Command.ofReading r [] = .ok c)
    (t : List Bytes) : c.PassesOn t (Command.ofReading r t) := by
  obtain ⟨runtime, compiler, tool, more, args, ho, _, rfl⟩ := ofReading_eq_ok.1 h
  unfold Command.PassesOn
  cases hp : passedOn t with
  | ok texts =>
    have ht := passedOn_eq_ok.1 hp
    have hnone : t.find? (fun arg => !Utf8.isText arg) = none := by
      rw [List.find?_eq_none, ht]
      intro arg harg
      obtain ⟨s, _, rfl⟩ := List.mem_map.1 harg
      simp
    rw [hnone]
    exact ⟨texts, ht, ofReading_eq_ok.2 ⟨_, _, _, _, texts, ho, ht, rfl⟩⟩
  | error e =>
    obtain ⟨bad, hbad, rfl⟩ := passedOn_eq_error.1 hp
    rw [hbad]
    simp only [Command.ofReading, ho, hp]

theorem ofReading_error {r : Reading} {e : Halt} (h : Command.ofReading r [] = .error e)
    (t : List Bytes) : Command.ofReading r t = .error e := by
  unfold Command.ofReading at h ⊢
  split at h
  · cases h
  · exact h

theorem calledAs_append {h : List Bytes} (hc : Complete h) (t : List Bytes) :
    calledAs (h ++ t) = calledAs h := by
  cases h with
  | nil => cases hc
  | cons name own => rfl

/-- What is appended to a complete command line changes no error and no name in a message, and of a
command nothing but the arguments that are passed on. So any two such command lines differ in
nothing else. -/
theorem appended_never_read {h : List Bytes} (hc : Complete h) :
    (∀ t e, Command.ofArgv h = .error e → Command.ofArgv (h ++ t) = .error e) ∧
    (∀ t c, Command.ofArgv h = .ok c → c.PassesOn t (Command.ofArgv (h ++ t))) ∧
    (∀ t, calledAs (h ++ t) = calledAs h) ∧
    (∀ t t',
      (∃ e, Command.ofArgv (h ++ t) = .error e ∧ Command.ofArgv (h ++ t') = .error e) ∨
      (∃ c : Command, c.PassesOn t (Command.ofArgv (h ++ t)) ∧
        c.PassesOn t' (Command.ofArgv (h ++ t')))) := by
  have hself : Command.ofArgv h =
      (Reading.empty.readOwn h.tail).bind fun r => Command.ofReading r [] := by
    rw [← ofArgv_append hc, List.append_nil]
  have herror (t : List Bytes) (e : Halt) (he : Command.ofArgv h = .error e) :
      Command.ofArgv (h ++ t) = .error e := by
    rw [hself] at he
    rw [ofArgv_append hc]
    cases hr : Reading.empty.readOwn h.tail with
    | error e' => rw [hr] at he; exact he
    | ok r =>
      rw [hr] at he
      exact ofReading_error he t
  have hok (t : List Bytes) (c : Command) (hcmd : Command.ofArgv h = .ok c) :
      c.PassesOn t (Command.ofArgv (h ++ t)) := by
    rw [hself, bind_eq_ok] at hcmd
    obtain ⟨r, hr, hread⟩ := hcmd
    rw [ofArgv_append hc, hr]
    exact ofReading_passesOn hread t
  refine ⟨herror, hok, calledAs_append hc, ?_⟩
  intro t t'
  cases hh : Command.ofArgv h with
  | error e => exact .inl ⟨e, herror t e hh, herror t' e hh⟩
  | ok c => exact .inr ⟨c, hok t c hh, hok t' c hh⟩

/-- Behind a complete command line `--help` is not a request for help. -/
theorem appended_help_never_read :
    Complete (["epwrap", "--format", "json", "--", "-java", "javac", "ep.jar"].map Utf8.encode) ∧
    Command.ofArgv (["epwrap", "--format", "json", "--", "-java", "javac", "ep.jar"].map Utf8.encode
        ++ ["--help", "--", "--dry-run"].map Utf8.encode) =
      .ok ⟨⟨false, false, .json, none⟩,
        ⟨"-java", "javac", "ep.jar", ["--help", "--", "--dry-run"]⟩⟩ ∧
    Command.ofArgv (["epwrap", "--format", "json", "--", "-java", "javac", "ep.jar"].map Utf8.encode
        ++ [Utf8.encode "--help", [0xC3], [0xFF]]) = .error (.usage (.badPassedOn [0xC3])) := by
  have hc : Complete
      (["epwrap", "--format", "json", "--", "-java", "javac", "ep.jar"].map Utf8.encode) := by
    unfold Complete
    decide +kernel
  have hok : Command.ofArgv
      (["epwrap", "--format", "json", "--", "-java", "javac", "ep.jar"].map Utf8.encode) =
        .ok ⟨⟨false, false, .json, none⟩, ⟨"-java", "javac", "ep.jar", []⟩⟩ := rfl
  have hread := fun t => (appended_never_read hc).2.1 t _ hok
  refine ⟨hc, ?_, hread [Utf8.encode "--help", [0xC3], [0xFF]]⟩
  obtain ⟨args, hargs, h⟩ := hread (["--help", "--", "--dry-run"].map Utf8.encode)
  rw [← (List.map_inj_right fun _ _ => Utf8.encode_injective).1 hargs] at h
  exact h

end JavacLaunch
