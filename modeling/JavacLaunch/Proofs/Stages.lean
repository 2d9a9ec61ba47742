import JavacLaunch.Launcher

/-!
# JavacLaunch.Proofs.Stages

A stage that fails hides all later ones.

A run asks the host for three things at most: the configuration file, what the runtime answers to
`-version`, and what the program answers that takes the launcher's place. It asks for one only when
all stages before it have succeeded.

* `settings_congr`, `detect_congr`, `exec_congr`: what each stage asks for.
* `run_of_halt`, …, `run_of_exec`: where a run ends that gets so far.
* `run_congr_halt`, …, `run_congr_exec`: it ends there on any host that answers alike up to there.
* `failing_stage_hides_later`: so a run sees no more of the host than its stages have asked for.
-/

namespace JavacLaunch

/-- The configuration file that a command names, if it names one, is the same on two hosts. -/
def Command.SameConfig (c : Command) (host host' : Host) : Prop :=
  ∀ path, c.options.config = some path → host'.read path = host.read path

/-- The runtime of a command answers the same to `-version` on two hosts. -/
def Command.SameBanner (c : Command) (host host' : Host) : Prop :=
  host'.start c.request.runtime ["-version"] = host.start c.request.runtime ["-version"]

/-- The program of an invocation answers the same to its arguments on two hosts. -/
def Invocation.SameAnswer (i : Invocation) (host host' : Host) : Prop :=
  host'.start i.program i.args.tail = host.start i.program i.args.tail

/-- The outcome of a run, its journal aside. -/
def Outcome.plain (host : Host) (argv : List Bytes) : Outcome :=
  (run host argv).outcome (calledAs argv)

section Congruence

variable {host host' : Host} {c : Command} {i : Invocation}

theorem readText_congr {path : Bytes} (h : host'.read path = host.read path) :
    host'.readText path = host.readText path := by
  rw [Host.readText, Host.readText, h]

theorem settings_congr (h : c.SameConfig host host') :
    c.options.settings host' = c.options.settings host := by
  unfold Options.settings
  split
  · rename_i path hpath
    rw [Settings.load, Settings.load, readText_congr (h path hpath)]
  · rfl

theorem launch_congr {program : String} {argv : List String}
    (h : host'.start program argv.tail = host.start program argv.tail) :
    host'.launch program argv = host.launch program argv := by
  rw [Host.launch, Host.launch, h]

theorem detect_congr (h : c.SameBanner host host') :
    Release.detect host' c.request.runtime = Release.detect host c.request.runtime := by
  have hask : host'.askVersion c.request.runtime = host.askVersion c.request.runtime :=
    launch_congr h
  rw [Release.detect, Release.detect, hask]

theorem exec_congr (h : i.SameAnswer host host') : i.exec host' = i.exec host := by
  rw [Invocation.exec, Invocation.exec, launch_congr h]

theorem Outcome.plain_congr {argv : List Bytes} (h : run host' argv = run host argv) :
    plain host' argv = plain host argv :=
  congrArg (Ending.outcome (calledAs argv)) h

end Congruence

section Runs

variable {host : Host} {argv : List Bytes} {c : Command} {settings : Settings} {release : Release}

theorem run_of_halt {h : Halt} (hread : Command.ofArgv argv = .error h) :
    run host argv = .halted h := by
  simp only [run, plan, hread]
  rfl

variable (hread : Command.ofArgv argv = .ok c)
include hread

theorem run_of_configError {e : ConfigError} (hset : c.options.settings host = .error e) :
    run host argv = .failed (.config e) := by
  simp only [run, plan, hread, hset]
  rfl

variable (hset : c.options.settings host = .ok settings)
include hset

theorem run_of_detectError {e : LaunchError}
    (hdetect : Release.detect host c.request.runtime = .error e) :
    run host argv = .failed (.launch e) := by
  simp only [run, plan, hread, hset, Command.plan, Prepared.ofHost, hdetect]
  rfl

variable (hdetect : Release.detect host c.request.runtime = .ok release)
include hdetect

theorem run_of_dryRun (hon : c.options.dryRun = true) :
    run host argv =
      .printed ((Prepared.build release c.request settings).report c.options.format) := by
  simp only [run, plan, hread, hset, Command.plan, Prepared.ofHost, hdetect, Except.map, hon,
    if_true]
  rfl

theorem run_of_exec (hoff : c.options.dryRun = false) :
    run host argv =
      match (Invocation.build release c.request settings).exec host with
      | .ok response => .replaced response
      | .error e => .failed (.launch e) := by
  simp only [run, plan, hread, hset, Command.plan, Prepared.ofHost, hdetect, Except.map, hoff,
    Bool.false_eq_true, if_false]
  rfl

end Runs

section Sameness

variable {host host' : Host} {argv : List Bytes} {c : Command} {settings : Settings}
  {release : Release}

theorem run_congr_halt {h : Halt} (hread : Command.ofArgv argv = .error h) :
    run host' argv = run host argv := by
  rw [run_of_halt hread, run_of_halt hread]

variable (hread : Command.ofArgv argv = .ok c) (hconfig : c.SameConfig host host')
include hread hconfig

theorem run_congr_configError {e : ConfigError} (hset : c.options.settings host = .error e) :
    run host' argv = run host argv := by
  have hset' := (settings_congr hconfig).trans hset
  rw [run_of_configError hread hset, run_of_configError hread hset']

variable (hbanner : c.SameBanner host host') (hset : c.options.settings host = .ok settings)
include hbanner hset

theorem run_congr_detectError {e : LaunchError}
    (hdetect : Release.detect host c.request.runtime = .error e) :
    run host' argv = run host argv := by
  have hset' := (settings_congr hconfig).trans hset
  have hdetect' := (detect_congr hbanner).trans hdetect
  rw [run_of_detectError hread hset hdetect, run_of_detectError hread hset' hdetect']

variable (hdetect : Release.detect host c.request.runtime = .ok release)
include hdetect

theorem run_congr_dryRun (hon : c.options.dryRun = true) : run host' argv = run host argv := by
  have hset' := (settings_congr hconfig).trans hset
  have hdetect' := (detect_congr hbanner).trans hdetect
  rw [run_of_dryRun hread hset hdetect hon, run_of_dryRun hread hset' hdetect' hon]

theorem run_congr_exec (hoff : c.options.dryRun = false)
    (hanswer : (Invocation.build release c.request settings).SameAnswer host host') :
    run host' argv = run host argv := by
  have hset' := (settings_congr hconfig).trans hset
  have hdetect' := (detect_congr hbanner).trans hdetect
  rw [run_of_exec hread hset hdetect hoff, run_of_exec hread hset' hdetect' hoff,
    exec_congr hanswer]

end Sameness

theorem Invocation.program_build (release : Release) (request : Request) (settings : Settings) :
    (build release request settings).program =
      match (build release request settings).strategy with
      | .plugin => request.compiler
      | .bootClassPath => request.runtime := by
  unfold build
  split <;> rfl

/-- Every run ends in the first of its stages that fails, in the dry run, or in the program that
takes the launcher's place. On a host that answers alike to what the stages up to there ask for, it
ends in the same way, whatever else is different there. -/
theorem failing_stage_hides_later (host : Host) (argv : List Bytes) :
    let outcome := Outcome.ofRun host argv
    let SameOn := fun host' => Outcome.plain host' argv = Outcome.plain host argv
    match Command.ofArgv argv with
    | .error h =>
      (∀ host', SameOn host') ∧
      outcome.code = match h with
        | .notice _ => some 0
        | .usage _ => some 2
    | .ok c =>
      match c.options.settings host with
      | .error _ =>
        (∀ host', c.SameConfig host host' → SameOn host') ∧
        outcome.out = [] ∧ outcome.code = some 1
      | .ok settings =>
        match Release.detect host c.request.runtime with
        | .error _ =>
          (∀ host', c.SameConfig host host' → c.SameBanner host host' → SameOn host') ∧
          outcome.out = [] ∧ outcome.code = some 1
        | .ok release =>
          let i := Invocation.build release c.request settings
          if c.options.dryRun then
            (∀ host', c.SameConfig host host' → c.SameBanner host host' → SameOn host') ∧
            outcome.code = some 0
          else
            (∀ host', c.SameConfig host host' → c.SameBanner host host' →
              i.SameAnswer host host' → SameOn host') ∧
            (i.program = match i.strategy with
              | .plugin => c.request.compiler
              | .bootClassPath => c.request.runtime) ∧
            match host.launch i.program i.args with
            | .ok response =>
              outcome.out = response.out ∧ outcome.code = response.code ∧
              (Outcome.plain host argv).err = response.err
            | .error _ => outcome.out = [] ∧ outcome.code = some 1 := by
  intro outcome SameOn
  have hout : outcome.out = (Outcome.plain host argv).out := rfl
  have hcode : outcome.code = (Outcome.plain host argv).code := rfl
  rw [hout, hcode]
  unfold Outcome.plain
  -- one case for each stage that may be the last, with what the stages before it gave
  split
  · rename_i h hread
    refine ⟨fun host' => Outcome.plain_congr (run_congr_halt hread), ?_⟩
    rw [run_of_halt hread]
    cases h <;> rfl
  rename_i c hread
  split
  · rename_i e hset
    refine ⟨?_, ?_⟩
    · intro host' hconfig
      exact Outcome.plain_congr (run_congr_configError hread hconfig hset)
    · rw [run_of_configError hread hset]
      exact ⟨rfl, rfl⟩
  rename_i settings hset
  split
  · rename_i e hdetect
    refine ⟨?_, ?_⟩
    · intro host' hconfig hbanner
      exact Outcome.plain_congr (run_congr_detectError hread hconfig hbanner hset hdetect)
    · rw [run_of_detectError hread hset hdetect]
      exact ⟨rfl, rfl⟩
  rename_i release hdetect
  intro i
  split
  · rename_i hon
    refine ⟨?_, ?_⟩
    · intro host' hconfig hbanner
      exact Outcome.plain_congr (run_congr_dryRun hread hconfig hbanner hset hdetect hon)
    · rw [run_of_dryRun hread hset hdetect hon]
      rfl
  · rename_i hdry
    have hoff := Bool.eq_false_iff.2 hdry
    refine ⟨?_, Invocation.program_build release c.request settings, ?_⟩
    · intro host' hconfig hbanner hanswer
      exact Outcome.plain_congr (run_congr_exec hread hconfig hbanner hset hdetect hoff hanswer)
    · have hexec : i.exec host = (host.launch i.program i.args).mapError (.exec i.program) := rfl
      rw [run_of_exec hread hset hdetect hoff, hexec]
      cases host.launch i.program i.args with
      | ok response => exact ⟨rfl, rfl, rfl⟩
      | error refusal => exact ⟨rfl, rfl⟩

/-- A host without files, where `java` tells an early release and ends with code 3 otherwise. -/
def Host.withJava (other : Except Refusal Response) : Host where
  read _ := .error .noSuchFile
  start program args :=
    if program ≠ "java" then other
    else if args = ["-version"] then .ok ⟨[], Utf8.encode "java version \"1.8.0\"", some 0⟩
    else .ok ⟨[], [], some 3⟩

/-- Without its configuration file a launcher does not get to a missing runtime, and with an early
runtime it does not get to the compiler. -/
theorem stages_of_early_java :
    let configured := ["epwrap", "--config", "c", "java", "javac", "ep.jar"].map Utf8.encode
    let plain := ["epwrap", "java", "javac", "ep.jar"].map Utf8.encode
    let empty : Host := ⟨fun _ => .error .noSuchFile, fun _ _ => .error .noSuchFile⟩
    let java := Host.withJava (.error .noSuchFile)
    let more := Host.withJava (.ok ⟨[], [], none⟩)
    Outcome.plain java configured = Outcome.plain empty configured ∧
      (Outcome.ofRun empty configured).code = some 1 ∧
      Outcome.plain more plain = Outcome.plain java plain ∧
      (Outcome.ofRun java plain).code = some 3 := by
  intro configured plain empty java more
  have hconfigured : Command.ofArgv configured =
      .ok ⟨⟨false, false, .text, some (Utf8.encode "c")⟩, ⟨"java", "javac", "ep.jar", []⟩⟩ := rfl
  have hplain : Command.ofArgv plain =
      .ok ⟨⟨false, false, .text, none⟩, ⟨"java", "javac", "ep.jar", []⟩⟩ := rfl
  have hdetect : Release.detect java "java" = .ok ⟨"8", 8⟩ := by rfl
  have hbad := failing_stage_hides_later empty configured
  simp only [hconfigured] at hbad
  obtain ⟨hsame, _, hcode⟩ := hbad
  have hgood := failing_stage_hides_later java plain
  simp only [hplain, Options.settings, hdetect, Bool.false_eq_true, if_false] at hgood
  obtain ⟨hsame', _, hanswer⟩ := hgood
  exact ⟨hsame java fun _ _ => rfl, hcode, hsame' more nofun rfl rfl, hanswer.2.1⟩

end JavacLaunch
