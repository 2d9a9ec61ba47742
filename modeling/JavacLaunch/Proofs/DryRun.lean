import JavacLaunch.Launcher
import JavacLaunch.Proofs.Reading

/-!
# JavacLaunch.Proofs.DryRun

A dry run shows what a run without `--dry-run` does.

* `readOwn_withDryRun`: nothing but `--dry-run` looks at whether a dry run was asked for, so the
  reader can be told before or after it has read the rest.
* `ofArgv_dryRun`: `--dry-run` in front moves the end of the launcher's own part by one, and changes
  nothing else in what is read.
* `plan_dryRun`: so what is planned is the same, but for the last step.
* `encode_unlines`: what is printed, byte by byte.
* `dry_run_shows_run`: both runs come to the same end, or the dry run prints the argument vector
  that the other one starts a program with.
-/

namespace JavacLaunch

def dryRunOption : Bytes :=
  Utf8.encode "--dry-run"

/-- What the launcher takes for its own arguments. -/
def ownArguments (argv : List Bytes) : List Bytes :=
  (argv.take (ownSpan argv)).tail

namespace Reading

variable {r r' : Reading} {arg : Bytes} {args : List Bytes}

def withDryRun (b : Bool) (r : Reading) : Reading :=
  { r with dryRun := b }

theorem take_withDryRun (b : Bool) (r : Reading) (p : Parameter) (value : Option Bytes) :
    (r.withDryRun b).take p value = (r.take p value).map (withDryRun b) := by
  cases value with
  | none => rfl
  | some v =>
    have hhas : (r.withDryRun b).has p = r.has p := by cases p <;> rfl
    simp only [take.eq_def, hhas]
    split
    · rfl
    split
    · rfl
    cases p with
    | config => rfl
    | format => cases Format.ofBytes? v <;> rfl

theorem settle_withDryRun (b : Bool) (r : Reading) :
    (r.withDryRun b).settle = r.settle.map (withDryRun b) := by
  obtain ⟨debug, dryRun, format, config, operands, pending⟩ := r
  match pending with
  | none => rfl
  | some (.parameter p value) =>
    exact take_withDryRun b ⟨debug, dryRun, format, config, operands, none⟩ p value
  | some (.operand arg) =>
    simp only [settle, withDryRun]
    cases Utf8.decode? arg <;> rfl

theorem postpone_withDryRun (b : Bool) (r : Reading) (p : Pending) :
    (r.withDryRun b).postpone p = (r.postpone p).map (withDryRun b) := by
  rw [postpone, postpone, settle_withDryRun]
  cases r.settle <;> rfl

theorem word_withDryRun (b : Bool) (r : Reading) (arg : Bytes) :
    (r.withDryRun b).word arg = (r.word arg).map (withDryRun b) := by
  have hpending : (r.withDryRun b).pending = r.pending := rfl
  simp only [word, hpending]
  split
  · rfl
  · exact postpone_withDryRun b r _

theorem switch_withDryRun (b : Bool) (r : Reading) {s : Switch} (h : s ≠ .dryRun) :
    (r.withDryRun b).switch s = (r.switch s).map (withDryRun b) := by
  cases s with
  | debug =>
    obtain ⟨debug, dryRun, format, config, operands, pending⟩ := r
    cases debug <;> rfl
  | dryRun => exact absurd rfl h
  | help => rfl
  | version => rfl

/-- All options but `--dry-run` itself leave alone whether a dry run was asked for. -/
theorem next_withDryRun (b : Bool) (r : Reading) (h : arg ≠ dryRunOption) :
    (r.withDryRun b).next arg = (r.next arg).map (withDryRun b) := by
  unfold next
  split
  · rename_i name value hshape
    have harg := eq_withValue_of_shape hshape
    unfold long
    simp only [settle_withDryRun, postpone_withDryRun]
    cases hs : Switch.ofBytes? (endOfOptions ++ name) with
    | some s =>
      cases value with
      | some v => rfl
      | none =>
        have hne : s ≠ .dryRun := by
          rintro rfl
          exact h (harg.trans (Switch.ofBytes?_eq_some_iff.1 hs))
        cases r.settle with
        | error e => rfl
        | ok r₀ => exact switch_withDryRun b r₀ hne
    | none =>
      cases Parameter.ofBytes? (endOfOptions ++ name) with
      | none => rfl
      | some p =>
        cases value with
        | none =>
          dsimp only
          cases r.postpone (.parameter p none) <;> rfl
        | some v =>
          cases r.settle with
          | error e => rfl
          | ok r₀ =>
            have ht := take_withDryRun b r₀ p (some v)
            simp only [Except.map, Except.bind, ht]
            cases r₀.take p (some v) <;> rfl
  · rename_i letters
    unfold short
    simp only [settle_withDryRun]
    cases r.settle <;> split <;> rfl
  · rw [word_withDryRun]
    cases r.word arg <;> rfl

theorem operandsOnly_withDryRun (b : Bool) (r : Reading) (args : List Bytes) :
    (r.withDryRun b).operandsOnly args = (r.operandsOnly args).map (withDryRun b) := by
  induction args generalizing r with
  | nil => exact settle_withDryRun b r
  | cons arg rest ih =>
    rw [operandsOnly, operandsOnly, postpone_withDryRun]
    cases r.postpone (.operand arg) with
    | error e => rfl
    | ok r₀ => exact ih r₀

theorem readOwn_withDryRun (b : Bool) (r : Reading) (h : dryRunOption ∉ args) :
    (r.withDryRun b).readOwn args = (r.readOwn args).map (withDryRun b) := by
  induction args generalizing r with
  | nil =>
    rw [readOwn, readOwn, settle_withDryRun]
    cases r.settle <;> rfl
  | cons arg rest ih =>
    rw [List.mem_cons, not_or] at h
    rw [readOwn, readOwn]
    split
    · rw [operandsOnly_withDryRun]
      cases r.operandsOnly rest <;> rfl
    · rw [next_withDryRun b r (Ne.symm h.1)]
      cases r.next arg with
      | error e => rfl
      | ok r₀ => exact ih r₀ h.2

theorem dryRun_of_readOwn (h : dryRunOption ∉ args) (hread : r.readOwn args = .ok r') :
    r'.dryRun = r.dryRun := by
  have hself : r.withDryRun r.dryRun = r := rfl
  have htwice := readOwn_withDryRun r.dryRun r h
  rw [hself, hread] at htwice
  have hsame : r' = r'.withDryRun r.dryRun := Except.ok.inj htwice
  calc r'.dryRun
      = (r'.withDryRun r.dryRun).dryRun := congrArg Reading.dryRun hsame
    _ = r.dryRun := rfl

end Reading

def Command.withDryRun (b : Bool) (c : Command) : Command :=
  { c with options := { c.options with dryRun := b } }

theorem ofReading_withDryRun (b : Bool) (r : Reading) (passed : List Bytes) :
    Command.ofReading (r.withDryRun b) passed =
      (Command.ofReading r passed).map (Command.withDryRun b) := by
  have hoperands : (r.withDryRun b).operands = r.operands := rfl
  simp only [Command.ofReading, hoperands]
  split
  · cases passedOn passed <;> rfl
  · rfl

theorem Prepared.report_text (p : Prepared) {f : Format} (h : f ≠ .json) :
    p.report f = unlines p.invocation.args := by
  cases f with
  | text => rfl
  | json => exact absurd rfl h

theorem encode_unlines (items : List String) :
    Utf8.encode (unlines items) = items.flatMap fun item => Utf8.encode item ++ [0x0A] := by
  induction items with
  | nil => rfl
  | cons item items ih =>
    have hfeed : Utf8.encode "\n" = [0x0A] := rfl
    rw [List.flatMap_cons, ← ih, ← hfeed, ← Utf8.encode_append, ← Utf8.encode_append, unlines,
      List.map_cons, String.join_cons]
    rfl

theorem Invocation.head_args_build (release : Release) (request : Request) (settings : Settings) :
    (build release request settings).args.head? = some (build release request settings).program := by
  unfold build
  split <;> rfl

section Plan

variable {host : Host} {argv : List Bytes} {i : Invocation}

theorem plan_eq_replace :
    plan host argv = .replace i ↔
      ∃ c settings p, Command.ofArgv argv = .ok c ∧ c.options.settings host = .ok settings ∧
        Prepared.ofHost host c.request settings = .ok p ∧ c.options.dryRun = false ∧
        i = p.invocation := by
  constructor
  · intro h
    unfold plan at h
    split at h
    · cases h
    rename_i c hread
    split at h
    · cases h
    rename_i settings hset
    unfold Command.plan at h
    split at h
    · cases h
    rename_i p hp
    split at h
    · cases h
    rename_i hoff
    cases h
    exact ⟨c, settings, p, hread, hset, hp, Bool.eq_false_iff.2 hoff, rfl⟩
  · rintro ⟨c, settings, p, hread, hset, hp, hoff, rfl⟩
    simp only [plan, hread, hset, Command.plan, hp, hoff, Bool.false_eq_true, if_false]

theorem head_args_of_plan (h : plan host argv = .replace i) : i.args.head? = some i.program := by
  obtain ⟨c, settings, p, _, _, hp, _, rfl⟩ := plan_eq_replace.1 h
  obtain ⟨release, _, rfl⟩ := map_eq_ok.1 hp
  exact Invocation.head_args_build release c.request settings

theorem run_of_launch (h : plan host argv = .replace i) {response : Response}
    (hstart : host.launch i.program i.args = .ok response) :
    run host argv = .replaced response := by
  have hexec : i.exec host = .ok response := by
    rw [Invocation.exec, hstart]
    rfl
  simp only [run, h, Plan.carryOut, hexec]

/-- What becomes of a plan if the command line is only to be shown. -/
def Plan.shown : Plan → Plan
  | .replace i => .print (unlines i.args)
  | .halt h => .halt h
  | .fail f => .fail f
  | .print report => .print report

theorem Command.plan_withDryRun {c : Command} (hoff : c.options.dryRun = false)
    (htext : c.options.format ≠ .json) (settings : Settings) :
    (c.withDryRun true).plan host settings = (c.plan host settings).shown := by
  have hrequest : (c.withDryRun true).request = c.request := rfl
  have hon : (c.withDryRun true).options.dryRun = true := rfl
  have hformat : (c.withDryRun true).options.format = c.options.format := rfl
  unfold Command.plan
  rw [hrequest]
  cases Prepared.ofHost host c.request settings with
  | error e => rfl
  | ok p =>
    simp only [hon, hoff, hformat, p.report_text htext, if_true, Bool.false_eq_true, if_false]
    rfl

end Plan

section DryRun

variable {name : Bytes} {rest : List Bytes} (hnew : dryRunOption ∉ ownArguments (name :: rest))
include hnew

theorem not_mem_own : dryRunOption ∉ rest.take (optionSpan rest + 3) := by
  rwa [ownArguments, ownSpan_cons, List.take_succ_cons, List.tail_cons] at hnew

theorem ofArgv_dryRun :
    Command.ofArgv (name :: dryRunOption :: rest) =
      (Command.ofArgv (name :: rest)).map (Command.withDryRun true) := by
  have hspan : optionSpan (dryRunOption :: rest) + 3 = optionSpan rest + 3 + 1 := by
    have hfirst := optionSpan_switch .dryRun rest
    simp only [Switch.name] at hfirst
    rw [dryRunOption, hfirst]
    omega
  have hfirst : Reading.empty.next dryRunOption = .ok (Reading.empty.withDryRun true) := rfl
  have hend : dryRunOption ≠ endOfOptions := by decide
  rw [ofArgv_cons, ofArgv_cons, hspan, List.take_succ_cons, List.drop_succ_cons, Reading.readOwn,
    if_neg hend, hfirst]
  dsimp only
  rw [Reading.readOwn_withDryRun true Reading.empty (not_mem_own hnew)]
  cases Reading.empty.readOwn (rest.take (optionSpan rest + 3)) with
  | error e => rfl
  | ok r => exact ofReading_withDryRun true r _

theorem dryRun_of_ofArgv {c : Command} (h : Command.ofArgv (name :: rest) = .ok c) :
    c.options.dryRun = false := by
  rw [ofArgv_cons, bind_eq_ok] at h
  obtain ⟨r, hread, hc⟩ := h
  obtain ⟨runtime, compiler, tool, more, args, _, _, rfl⟩ := ofReading_eq_ok.1 hc
  exact Reading.dryRun_of_readOwn (not_mem_own hnew) hread

end DryRun

section Runs

variable {host : Host} {name : Bytes} {rest : List Bytes}
  (hnew : dryRunOption ∉ ownArguments (name :: rest))
include hnew

/-- The stages before the last one do not know which of the two runs they are in. -/
theorem plan_dryRun
    (htext : ∀ c, Command.ofArgv (name :: rest) = .ok c → c.options.format ≠ .json) :
    plan host (name :: dryRunOption :: rest) = (plan host (name :: rest)).shown := by
  have hdry := ofArgv_dryRun hnew
  cases hread : Command.ofArgv (name :: rest) with
  | error h =>
    rw [hread] at hdry
    simp only [plan, hdry, hread]
    rfl
  | ok c =>
    have hoff := dryRun_of_ofArgv hnew hread
    have hsettings : (c.withDryRun true).options.settings host = c.options.settings host := rfl
    rw [hread] at hdry
    simp only [plan, hdry, hread, Except.map, hsettings]
    cases c.options.settings host with
    | error e => rfl
    | ok settings => exact Command.plan_withDryRun hoff (htext c hread) settings

theorem plan_ne_print (report : String) : plan host (name :: rest) ≠ .print report := by
  unfold plan
  cases hread : Command.ofArgv (name :: rest) with
  | error h => nofun
  | ok c =>
    have hoff := dryRun_of_ofArgv hnew hread
    dsimp only
    cases c.options.settings host with
    | error e => nofun
    | ok settings =>
      dsimp only [Command.plan]
      cases Prepared.ofHost host c.request settings with
      | error e => nofun
      | ok p =>
        simp only [hoff, Bool.false_eq_true, if_false]
        nofun

theorem journal_dryRun (h : ∀ i, plan host (name :: rest) ≠ .replace i) :
    journal host (name :: dryRunOption :: rest) = journal host (name :: rest) := by
  rw [journal, journal, ofArgv_dryRun hnew]
  cases hread : Command.ofArgv (name :: rest) with
  | error e => rfl
  | ok c =>
    have hsettings : (c.withDryRun true).options.settings host = c.options.settings host := rfl
    have hdebug : (c.withDryRun true).options.debug = c.options.debug := rfl
    have hrequest : (c.withDryRun true).request = c.request := rfl
    have hoff := dryRun_of_ofArgv hnew hread
    simp only [Except.map, hsettings, hdebug]
    cases hset : c.options.settings host with
    | error e => rfl
    | ok settings =>
      simp only [Command.journal, hrequest]
      cases hp : Prepared.ofHost host c.request settings with
      | error e => rfl
      | ok p => exact absurd (plan_eq_replace.2 ⟨c, settings, p, hread, hset, hp, hoff, rfl⟩) (h _)

end Runs

/-- Runs under one name are told apart by what they come to and by what they note down. -/
theorem Outcome.ofRun_congr {host : Host} {name : Bytes} {args args' : List Bytes}
    (hplan : plan host (name :: args) = plan host (name :: args'))
    (hjournal : journal host (name :: args) = journal host (name :: args')) :
    run host (name :: args) = run host (name :: args') ∧
      ofRun host (name :: args) = ofRun host (name :: args') := by
  have hrun : run host (name :: args) = run host (name :: args') :=
    congrArg (Plan.carryOut host) hplan
  have hcalled : calledAs (name :: args) = calledAs (name :: args') := rfl
  refine ⟨hrun, ?_⟩
  rw [ofRun, ofRun, hrun, hjournal, hcalled]

/-- With one command line and its dry run, either both come to the same end and nothing that can be
seen tells them apart, or the dry run prints what the other one starts: its argument vector, with a
line feed behind each argument. -/
theorem dry_run_shows_run (host : Host) (name : Bytes) (rest : List Bytes)
    (hnew : dryRunOption ∉ ownArguments (name :: rest))
    (htext : ∀ c, Command.ofArgv (name :: rest) = .ok c → c.options.format ≠ .json) :
    match plan host (name :: rest) with
    | .replace i =>
      i.args.head? = some i.program ∧
      (∀ response, host.launch i.program i.args = .ok response →
        run host (name :: rest) = .replaced response) ∧
      run host (name :: dryRunOption :: rest) =
        .printed (String.join (i.args.map fun arg => arg ++ "\n")) ∧
      (Outcome.ofRun host (name :: dryRunOption :: rest)).out =
        i.args.flatMap (fun arg => Utf8.encode arg ++ [0x0A]) ∧
      (Outcome.ofRun host (name :: dryRunOption :: rest)).code = some 0
    | .halt _ | .fail _ =>
      run host (name :: dryRunOption :: rest) = run host (name :: rest) ∧
      Outcome.ofRun host (name :: dryRunOption :: rest) = Outcome.ofRun host (name :: rest)
    | .print _ => False := by
  have hshown : plan host (name :: dryRunOption :: rest) = (plan host (name :: rest)).shown :=
    plan_dryRun hnew htext
  have hjournal : (∀ i, plan host (name :: rest) ≠ .replace i) →
      journal host (name :: dryRunOption :: rest) = journal host (name :: rest) :=
    journal_dryRun hnew
  cases hplan : plan host (name :: rest) with
  | halt h =>
    rw [hplan] at hshown
    exact Outcome.ofRun_congr (hshown.trans hplan.symm) (hjournal (by simp [hplan]))
  | fail f =>
    rw [hplan] at hshown
    exact Outcome.ofRun_congr (hshown.trans hplan.symm) (hjournal (by simp [hplan]))
  | print report => exact plan_ne_print hnew report hplan
  | replace i =>
    rw [hplan] at hshown
    have hprinted : run host (name :: dryRunOption :: rest) = .printed (unlines i.args) := by
      rw [run, hshown]
      rfl
    refine ⟨head_args_of_plan hplan, fun response => run_of_launch hplan, hprinted, ?_, ?_⟩
    · rw [Outcome.ofRun, hprinted]
      exact encode_unlines i.args
    · rw [Outcome.ofRun, hprinted]
      rfl

theorem dry_run_shows_boot_class_path :
    let host : Host :=
      ⟨fun _ => .error .noSuchFile,
        fun _ _ => .ok ⟨[], Utf8.encode "java version \"1.8.0_212\"", some 0⟩⟩
    let i : Invocation :=
      ⟨"java",
        ["java", "-Xbootclasspath/p:ep.jar", "com.google.errorprone.ErrorProneCompiler",
          "-Xep:FunctionalInterfaceMethodChanged:WARN", "-Xep:ReturnValueIgnored:WARN",
          "A.java"],
        .bootClassPath⟩
    let dry := Outcome.ofRun host
      (["epwrap", "--dry-run", "java", "javac", "ep.jar", "A.java"].map Utf8.encode)
    plan host (["epwrap", "java", "javac", "ep.jar", "A.java"].map Utf8.encode) = .replace i ∧
      dry.out = Utf8.encode
        ("java\n-Xbootclasspath/p:ep.jar\ncom.google.errorprone.ErrorProneCompiler\n" ++
          "-Xep:FunctionalInterfaceMethodChanged:WARN\n-Xep:ReturnValueIgnored:WARN\nA.java\n") ∧
      dry.code = some 0 := by
  intro host i dry
  have hread : Command.ofArgv (["epwrap", "java", "javac", "ep.jar", "A.java"].map Utf8.encode) =
      .ok ⟨⟨false, false, .text, none⟩, ⟨"java", "javac", "ep.jar", ["A.java"]⟩⟩ := rfl
  have hplan : plan host (["epwrap", "java", "javac", "ep.jar", "A.java"].map Utf8.encode) =
      .replace i := by
    decide +kernel
  have hshown := dry_run_shows_run host (Utf8.encode "epwrap")
    (["java", "javac", "ep.jar", "A.java"].map Utf8.encode) (by decide +kernel) (by
      intro c hc
      obtain rfl := Except.ok.inj (hread.symm.trans hc)
      decide)
  refine ⟨hplan, ?_⟩
  rw [List.map_cons] at hplan
  rw [hplan] at hshown
  obtain ⟨-, -, -, hout, hcode⟩ := hshown
  refine ⟨hout.trans ?_, hcode⟩
  rw [← encode_unlines]
  rfl

end JavacLaunch
