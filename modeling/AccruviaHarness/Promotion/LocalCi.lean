import AccruviaHarness.Library.Frames
import AccruviaHarness.Promotion.PathSync

/-!
# Local CI in a workspace

`run_local_ci` runs its steps one after the other in the working tree that it
is given, writes the log of each one below that tree, and passes only when all
steps have returned zero.
-/

namespace AccruviaHarness

open Library DirectoryTree

structure CiStep where
  name : String
  stage : String
  command : String
  deriving DecidableEq, Repr

structure CompletedCommand where
  returncode : Int
  output : String
  deriving DecidableEq, Repr

/-- What `run_local_ci` is given. -/
structure CiHost (Content : Type) where
  /-- The directory of the logs, below the working tree. -/
  runDir : String
  /-- `run_dir.mkdir`. -/
  makeRunDir : WorkingTree Content → Except PyError (WorkingTree Content)
  /-- `subprocess.run` of a step, with the working tree that it leaves. -/
  runCommand : CiStep → WorkingTree Content → Except PyError CompletedCommand × WorkingTree Content
  /-- `log_path.write_text` of a step's log. -/
  writeLog : String → String → WorkingTree Content → Except PyError (WorkingTree Content)

structure LocalCiResult where
  passed : Bool
  failedStage : String
  commandSummary : List String
  logs : List (String × String)
  summary : String
  deriving DecidableEq, Repr

structure CiRun (Content : Type) where
  tree : WorkingTree Content
  commands : List String := []
  logs : List (String × String) := []
  failedStage : String := "unknown"
  temporalJobStarted : Bool := false

namespace RepositoryPromotionService

def temporalWait : String :=
  "for i in $(seq 1 30); do if python -c \"import socket\n" ++
    "try:\n    with socket.create_connection(('127.0.0.1', 7233), " ++
    "timeout=1):\n        raise SystemExit(0)\nexcept OSError:\n" ++
    "    raise SystemExit(1)\n\"; then exit 0; fi; sleep 1; done; " ++
    "echo 'Temporal did not become ready in time' >&2; exit 1"

/-- The steps of `run_local_ci`. -/
def ciSteps : List CiStep :=
  [⟨"fast_setup_venv", "setup", "rm -rf .venv && python -m venv .venv"⟩,
    ⟨"fast_setup_upgrade_pip", "setup",
      ". .venv/bin/activate && python -m pip install --upgrade pip"⟩,
    ⟨"fast_install_editable", "setup", ". .venv/bin/activate && pip install -e ."⟩,
    ⟨"fast_verify_import_safety", "fast", ". .venv/bin/activate && make verify-test-import-safety"⟩,
    ⟨"fast_tests", "fast", ". .venv/bin/activate && make test-fast"⟩,
    ⟨"temporal_setup_venv", "setup", "rm -rf .venv && python -m venv .venv"⟩,
    ⟨"temporal_setup_upgrade_pip", "setup",
      ". .venv/bin/activate && python -m pip install --upgrade pip"⟩,
    ⟨"temporal_install", "setup", ". .venv/bin/activate && pip install -e '.[temporal]'"⟩,
    ⟨"temporal_docker_logout", "temporal", "docker logout || true"⟩,
    ⟨"temporal_docker_logout_docker_io", "temporal", "docker logout docker.io || true"⟩,
    ⟨"temporal_up", "temporal", "docker compose -f docker-compose.temporal.yml up -d"⟩,
    ⟨"temporal_wait", "temporal", temporalWait⟩,
    ⟨"temporal_verify_import_safety", "temporal",
      ". .venv/bin/activate && make verify-test-import-safety"⟩,
    ⟨"temporal_tests", "temporal", ". .venv/bin/activate && make test-temporal"⟩]

def temporalDown : CiStep :=
  ⟨"temporal_down", "temporal", "docker compose -f docker-compose.temporal.yml down"⟩

variable {Content : Type} (host : CiHost Content)

def logEntry (step : CiStep) : String × String :=
  (step.name, host.runDir ++ "/" ++ step.name ++ ".log")

def runLogged (step : CiStep) : EStateM PyError (CiRun Content) CompletedCommand :=
  fun run =>
    match host.runCommand step run.tree with
    | (.error error, left) => .error error { run with tree := left }
    | (.ok completed, left) =>
      match host.writeLog step.name completed.output left with
      | .error error => .error error { run with tree := left }
      | .ok logged =>
        .ok completed { run with
          tree := logged
          logs := run.logs ++ [logEntry host step] }

def runStep (step : CiStep) : EStateM PyError (CiRun Content) Unit := do
  modify fun run => { run with
    commands := run.commands ++ [step.command]
    temporalJobStarted := run.temporalJobStarted || step.stage = "temporal" }
  let completed ← runLogged host step
  if completed.returncode ≠ 0 then
    modify fun run => { run with failedStage := step.stage }
    throw (.runtimeError step.command)

def runSteps : List CiStep → EStateM PyError (CiRun Content) Unit
  | [] => pure ()
  | step :: steps => do
      runStep host step
      runSteps steps

/-- The end of `run_local_ci`. -/
def stopTemporal : EStateM PyError (CiRun Content) Unit := do
  if (← get).temporalJobStarted then let _ ← runLogged host temporalDown

def ciResult (passed : Bool) (run : CiRun Content) : LocalCiResult where
  passed
  failedStage := if passed then "unknown" else run.failedStage
  commandSummary := run.commands
  logs := run.logs
  summary :=
    if passed then "Local CI parity passed."
    else "Local CI parity failed during the " ++ run.failedStage ++ " stage."

def finishCi (passed : Bool) (run : CiRun Content) :
    EStateM.Result PyError (WorkingTree Content) LocalCiResult :=
  match stopTemporal host run with
  | .ok _ ended => .ok (ciResult passed ended) ended.tree
  | .error error ended => .error error ended.tree

def runLocalCi : EStateM PyError (WorkingTree Content) LocalCiResult :=
  fun tree =>
    match host.makeRunDir tree with
    | .error error => .error error tree
    | .ok prepared =>
      match runSteps host ciSteps { tree := prepared } with
      | .ok _ run => finishCi host true run
      | .error _ run => finishCi host false run

inductive StepsPass : List CiStep → WorkingTree Content →
    WorkingTree Content → Prop where
  | nil (tree : WorkingTree Content) : StepsPass [] tree tree
  | cons {step : CiStep} {steps : List CiStep} {output : String}
      {tree left logged ended : WorkingTree Content}
      (returned : host.runCommand step tree = (.ok ⟨0, output⟩, left))
      (written : host.writeLog step.name output left = .ok logged)
      (later : StepsPass steps logged ended) :
      StepsPass (step :: steps) tree ended

def CiPasses (before ended : WorkingTree Content) : Prop :=
  ∃ prepared tested completed left, host.makeRunDir before = .ok prepared ∧
      StepsPass host ciSteps prepared tested ∧
        host.runCommand temporalDown tested = (.ok completed, left) ∧
          host.writeLog temporalDown.name completed.output left = .ok ended

section

variable {host} {step : CiStep} {steps : List CiStep}
  {before after : CiRun Content} {ended : WorkingTree Content}

variable {completed : CompletedCommand} {left logged : WorkingTree Content}

theorem runLogged_of (returned : host.runCommand step before.tree = (.ok completed, left))
    (written : host.writeLog step.name completed.output left = .ok logged) :
    runLogged host step before = .ok completed { before with
        tree := logged
        logs := before.logs ++ [logEntry host step] } := by
  unfold runLogged
  rw [returned]
  dsimp only
  rw [written]

theorem runLogged_eq_ok (ran : runLogged host step before = .ok completed after) :
    ∃ left, host.runCommand step before.tree = (.ok completed, left) ∧
      host.writeLog step.name completed.output left = .ok after.tree ∧
        after.temporalJobStarted = before.temporalJobStarted := by
  unfold runLogged at ran
  split at ran
  · cases ran
  next found left returned =>
    split at ran
    · cases ran
    next logged written =>
      cases ran
      exact ⟨left, returned, written, rfl⟩

def startStep (step : CiStep) (run : CiRun Content) : CiRun Content :=
  { run with
    commands := run.commands ++ [step.command]
    temporalJobStarted := run.temporalJobStarted || decide (step.stage = "temporal") }

theorem runStep_eq_ok (ran : runStep host step before = .ok () after) :
    (∃ output left, host.runCommand step before.tree = (.ok ⟨0, output⟩, left) ∧
        host.writeLog step.name output left = .ok after.tree) ∧
      after.temporalJobStarted = (startStep step before).temporalJobStarted := by
  obtain ⟨completed, _, logged, rest⟩ :=
    ok_of_bind (show (runLogged host step >>= _) (startStep step before) = .ok () after from ran)
  obtain ⟨left, returned, written, started⟩ := runLogged_eq_ok logged
  by_cases failed : completed.returncode ≠ 0
  · rw [if_pos failed] at rest
    cases rest
  · rw [if_neg failed] at rest
    cases rest
    obtain ⟨code, output⟩ := completed
    have zero : code = 0 := not_not.mp failed
    subst zero
    exact ⟨⟨output, left, returned, written⟩, started⟩

theorem runStep_of {output : String}
    (returned : host.runCommand step before.tree = (.ok ⟨0, output⟩, left))
    (written : host.writeLog step.name output left = .ok logged) :
    ∃ after, runStep host step before = .ok () after ∧
      after.tree = logged ∧
        after.temporalJobStarted = (startStep step before).temporalJobStarted := by
  have ran : runLogged host step (startStep step before) = .ok _ _ := runLogged_of returned written
  refine ⟨_, bind_of_ok ran, rfl, rfl⟩

theorem runSteps_eq_ok (ran : runSteps host steps before = .ok () after) :
    StepsPass host steps before.tree after.tree ∧
      after.temporalJobStarted = (before.temporalJobStarted ||
          steps.any fun step => step.stage = "temporal") := by
  induction steps generalizing before with
  | nil =>
    cases ran
    exact ⟨.nil _, by simp⟩
  | cons _ _ ih =>
    obtain ⟨_, _, first, rest⟩ := ok_of_bind ran
    obtain ⟨⟨_, _, returned, written⟩, started⟩ := runStep_eq_ok first
    obtain ⟨later, laterStarted⟩ := ih rest
    refine ⟨.cons returned written later, ?_⟩
    rw [laterStarted, started]
    simp [startStep, Bool.or_assoc]

variable (before) in
theorem runSteps_of (passed : StepsPass host steps before.tree ended) :
    ∃ after, runSteps host steps before = .ok () after ∧
      after.tree = ended := by
  induction steps generalizing before with
  | nil =>
    cases passed
    exact ⟨before, rfl, rfl⟩
  | cons _ _ ih =>
    cases passed with
    | cons returned written later =>
      obtain ⟨_, first, here, _⟩ := runStep_of returned written
      rw [← here] at later
      obtain ⟨after, rest, same⟩ := ih _ later
      exact ⟨after, (bind_of_ok first).trans rest, same⟩

end

section

variable {host} {before ended : WorkingTree Content}

theorem runLocalCi_passed_iff :
    (∃ result, runLocalCi host before = .ok result ended ∧
        result.passed = true) ↔
      CiPasses host before ended := by
  have finished {passed : Bool} {run : CiRun Content} {result : LocalCiResult}
      (returned : finishCi host passed run = .ok result ended) :
      result.passed = passed ∧ ∃ last, stopTemporal host run = .ok () last ∧
        last.tree = ended := by
    unfold finishCi at returned
    split at returned
    next last stopped =>
      cases returned
      exact ⟨rfl, last, stopped, rfl⟩
    · cases returned
  constructor
  · rintro ⟨_, returned, passed⟩
    unfold runLocalCi at returned
    split at returned
    · cases returned
    next prepared made =>
      split at returned
      next run ran =>
        obtain ⟨_, last, stopped, rfl⟩ := finished returned
        obtain ⟨steps, started⟩ := runSteps_eq_ok ran
        have temporal : run.temporalJobStarted = true := started
        have down : (runLogged host temporalDown >>= fun _ => pure ()) run = .ok () last := by
          rw [← stopped]
          show _ = (if run.temporalJobStarted then _ else _ :
            EStateM _ _ _) run
          rw [if_pos temporal]
        obtain ⟨completed, _, logged, rest⟩ := ok_of_bind down
        cases rest
        obtain ⟨left, returned, written, _⟩ := runLogged_eq_ok logged
        exact ⟨prepared, run.tree, completed, left, made, steps, returned, written⟩
      · rw [(finished returned).1] at passed
        cases passed
  · rintro ⟨prepared, _, _, _, made, steps, returned, written⟩
    obtain ⟨run, ran, rfl⟩ := runSteps_of { tree := prepared } steps
    have temporal : run.temporalJobStarted = true := (runSteps_eq_ok ran).2
    have logged := runLogged_of returned written
    have stopped : ∃ last, stopTemporal host run = .ok () last ∧
        last.tree = ended := by
      refine ⟨{ run with
        tree := ended
        logs := run.logs ++ [logEntry host temporalDown] }, ?_, rfl⟩
      show (if run.temporalJobStarted then _ else _ : EStateM _ _ _) run = _
      rw [if_pos temporal]
      exact bind_of_ok logged
    obtain ⟨last, stopped, rfl⟩ := stopped
    refine ⟨ciResult true last, ?_, rfl⟩
    unfold runLocalCi finishCi
    rw [made]
    dsimp only
    rw [ran]
    dsimp only
    rw [stopped]

end

end RepositoryPromotionService

end AccruviaHarness
