import GroupSync.Program
import GroupSync.Proofs.Secrecy
import GroupSync.Proofs.WholeTexts

/-!
# Runs with all inputs at hand

A run reaches the network only if its arguments ask to synchronize and everything it needs for that
is there: a log to write to, settings that are valid and give an action URL, and a file that lists
groups from its beginning to its end.  Otherwise no request is made at all, and the exit code says
that the run failed.
-/

namespace GroupSync

namespace Program

open Http Fallible

/-- All that a run needs before it may synchronize the groups of the file at `path`. -/
structure Prepared (surroundings : Surroundings) (path : String) (option : Option String)
    (config : Config) (groups : List Group) : Prop where
  logs : ∃ chosen, logging surroundings.environment = .ok chosen
  loads : (loadConfig surroundings option).outcome = .ok config
  lists : ∃ text, surroundings.files.readText path = .ok text ∧ Group.Lists text groups
  valid : config.check = .ok ()
  addresses : ∃ url, config.actionUrl = .ok url

/-- The ways in which a run may lack something before it synchronizes. -/
inductive Lacks (surroundings : Surroundings) (path : String) (option : Option String) : Prop where
  | log {failure : Failure} (refused : logging surroundings.environment = .error failure)
  | settings {failure : Failure}
      (refused : (loadConfig surroundings option).outcome = .error failure)
  | file {fault : FileFault} (unreadable : surroundings.files.readText path = .error fault)
  | list {text : String} (read : surroundings.files.readText path = .ok text)
      (malformed : ∀ groups, ¬ Group.Lists text groups)
  | validity {config : Config} {failure : Failure}
      (loaded : (loadConfig surroundings option).outcome = .ok config)
      (invalid : config.check = .error failure)
  | address {config : Config} {failure : Failure}
      (loaded : (loadConfig surroundings option).outcome = .ok config)
      (unaddressed : config.actionUrl = .error failure)

variable {surroundings : Surroundings} {path : String} {option : Option String}
  {config : Config} {groups : List Group}

theorem Prepared.not_lacks (prepared : Prepared surroundings path option config groups) :
    ¬ Lacks surroundings path option := by
  obtain ⟨⟨chosen, logs⟩, loads, ⟨text, reads, lists⟩, valid, url, addresses⟩ := prepared
  rintro (refused | refused | unreadable | ⟨read, malformed⟩ | ⟨loaded, invalid⟩ |
    ⟨loaded, unaddressed⟩)
  · simp [logs] at refused
  · simp [loads] at refused
  · simp [reads] at unreadable
  · obtain rfl : text = _ := Except.ok.inj (reads.symm.trans read)
    exact malformed groups lists
  · obtain rfl : config = _ := Except.ok.inj (loads.symm.trans loaded)
    simp [valid] at invalid
  · obtain rfl : config = _ := Except.ok.inj (loads.symm.trans loaded)
    simp [addresses] at unaddressed

theorem exists_prepared_of_not_lacks (complete : ¬ Lacks surroundings path option) :
    ∃ config groups, Prepared surroundings path option config groups := by
  obtain ⟨chosen, logs⟩ := exists_eq_ok fun _ refused => complete (.log refused)
  obtain ⟨config, loads⟩ := exists_eq_ok fun _ refused => complete (.settings refused)
  obtain ⟨text, reads⟩ := exists_eq_ok fun _ unreadable => complete (.file unreadable)
  obtain ⟨groups, lists⟩ : ∃ groups, Group.Lists text groups :=
    by_contra fun malformed => complete (.list reads (not_exists.1 malformed))
  obtain ⟨_, valid⟩ := exists_eq_ok fun _ invalid => complete (.validity loads invalid)
  obtain ⟨url, addresses⟩ := exists_eq_ok fun _ refused => complete (.address loads refused)
  exact ⟨config, groups, ⟨chosen, logs⟩, loads, ⟨text, reads, lists⟩, valid, url, addresses⟩

theorem readGroups_eq_ok_iff :
    readGroups surroundings.files path = .ok groups ↔
      ∃ text, surroundings.files.readText path = .ok text ∧ Group.Lists text groups := by
  rw [readGroups]
  cases surroundings.files.readText path with
  | error fault => simp
  | ok text =>
      simp only [← Group.readList_eq_ok_iff, Except.ok.injEq, exists_eq_left']
      cases Group.readList text <;> simp

/-- The part of a run that comes before its first request.  A failure is given by its wording. -/
def prepare (surroundings : Surroundings) (path : String) (option : Option String) :
    Except String (Config × List Group × Manager) := do
  let config ← (loadConfig surroundings option).outcome.mapError fun failure =>
    "Failed to load configuration: " ++ failure.message
  let groups ← readGroups surroundings.files path
  let manager ← (Manager.ofValid config).mapError fun failure =>
    "Invalid configuration: " ++ failure.message
  return (config, groups, manager)

theorem exists_ofConfig_eq_ok_iff {client : Client} :
    (∃ manager, Manager.ofConfig client config = .ok manager) ↔
      ∃ url, config.actionUrl = .ok url := by
  simp only [Manager.ofConfig, ActionEndpoint.ofConfig, bind_eq_ok_iff]
  constructor
  · rintro ⟨manager, endpoint, ⟨url, built, -⟩, -⟩
    exact ⟨url, built⟩
  · rintro ⟨url, built⟩
    exact ⟨_, _, ⟨url, built, rfl⟩, rfl⟩

theorem prepare_eq_ok_iff {manager : Manager}
    (logs : ∃ chosen, logging surroundings.environment = .ok chosen) :
    prepare surroundings path option = .ok (config, groups, manager) ↔
      Prepared surroundings path option config groups ∧
        Manager.ofConfig (.new .standard) config = .ok manager := by
  simp only [prepare, Manager.ofValid, bind_eq_ok_iff, mapError_eq_ok_iff, readGroups_eq_ok_iff]
  constructor
  · rintro ⟨_, loads, _, lists, _, ⟨_, valid, opened⟩, ⟨⟩⟩
    exact ⟨⟨logs, loads, lists, valid, exists_ofConfig_eq_ok_iff.1 ⟨manager, opened⟩⟩, opened⟩
  · rintro ⟨⟨-, loads, lists, valid, -⟩, opened⟩
    exact ⟨config, loads, groups, lists, manager, ⟨(), valid, opened⟩, rfl⟩

theorem run_openValid (config : Config) (world : World) :
    (Manager.openValid config).run world =
      match Manager.ofValid config with
      | .error failure => (.ok (.error failure), world)
      | .ok manager => (.ok (.ok manager), world.noted [Manager.readyEvent config]) := by
  rw [Manager.openValid, Manager.ofValid]
  cases config.check with
  | error failure => rfl
  | ok _ =>
      simp only [Manager.openWith, bind, Except.bind]
      cases Manager.ofConfig (.new .standard) config <;> rfl

/-- The events of a run before it synchronizes. -/
def openingEvents (surroundings : Surroundings) (option : Option String) (config : Config) :
    List LogEvent :=
  (loadConfig surroundings option).events ++ [Manager.readyEvent config]

theorem run_synchronize [BodyDecoding] (surroundings : Surroundings) (path : String)
    (option : Option String) (world : World) :
    (synchronize surroundings path option).run world =
      match prepare surroundings path option with
      | .error message =>
          (.ok (.error message), world.noted (loadConfig surroundings option).events)
      | .ok (config, groups, manager) =>
          (updateAndShutDown manager groups).run
            (world.noted (openingEvents surroundings option config)) := by
  rw [synchronize, Session.run_bind, Session.run_recordAll]
  simp only [prepare, openingEvents, World.noted_append]
  cases (loadConfig surroundings option).outcome with
  | error failure => rfl
  | ok config =>
      cases readGroups surroundings.files path with
      | error message => rfl
      | ok groups =>
          dsimp only
          rw [Session.run_bind, run_openValid]
          dsimp only [bind, Except.bind, Except.mapError]
          cases Manager.ofValid config <;> rfl

/-- The exit code of a run that synchronized, by how that ended. -/
def exitCodeOf (ending : Except Breakdown (Except RunFailure Summary)) : Nat :=
  match ending with
  | .ok (.ok _) => Report.success
  | .ok (.error (.failed _)) => Report.failure
  | _ => Report.brokenDown

theorem exitCodeOf_eq_success_iff {ending : Except Breakdown (Except RunFailure Summary)} :
    exitCodeOf ending = Report.success ↔ ∃ summary, ending = .ok (.ok summary) := by
  rcases ending with breakdown | (failure | failure) | summary <;>
    simp [exitCodeOf, Report.success, Report.failure, Report.brokenDown]

theorem run_runWith [BodyDecoding] (surroundings : Surroundings) (format : LogFormat)
    (filter : LogFilter) (path : String) (option : Option String) (world : World) :
    (runWith surroundings format filter path option).run world =
      match (synchronizeAndRecord surroundings path option).run world with
      | (.ok exitCode, after) => (.shownBy filter format exitCode "", after)
      | (.error .counterOverflow, after) =>
          (.shownBy filter format Report.brokenDown RunFailure.overflowMessage, after) := by
  cases reached : (synchronizeAndRecord surroundings path option).run world with
  | mk ended after =>
      have same : StateT.run (ExceptT.run (synchronizeAndRecord surroundings path option)) world =
          (ended, after) := reached
      rw [runWith, StateT.run_bind, same]
      rcases ended with ⟨⟨⟩⟩ | exitCode <;> rfl

theorem run_runWith_of_prepare_eq_error [BodyDecoding] {message : String}
    (refused : prepare surroundings path option = .error message) (format : LogFormat)
    (filter : LogFilter) (world : World) :
    ∃ events, (runWith surroundings format filter path option).run world =
      (.shownBy filter format Report.failure "", world.noted events) := by
  refine ⟨(loadConfig surroundings option).events ++ [failedEvent message], ?_⟩
  rw [run_runWith, synchronizeAndRecord, Session.run_bind, run_synchronize, refused,
    World.noted_append]
  rfl

/-- Shutting down and recording how a run ended do not change its exit code any more. -/
theorem exitCode_runWith_of_prepare_eq_ok [BodyDecoding] {manager : Manager}
    (ready : prepare surroundings path option = .ok (config, groups, manager))
    (format : LogFormat) (filter : LogFilter) (world : World) :
    ((runWith surroundings format filter path option).run world).1.exitCode =
      exitCodeOf ((manager.update groups).run
        (world.noted (openingEvents surroundings option config))).1 := by
  rw [run_runWith, synchronizeAndRecord, Session.run_bind, run_synchronize, ready]
  dsimp only
  rw [updateAndShutDown, Session.run_bind]
  cases reached : (manager.update groups).run
      (world.noted (openingEvents surroundings option config)) with
  | mk ended after => rcases ended with ⟨⟨⟩⟩ | (failure | ⟨⟩) | summary <;> rfl

variable {arguments : List String}

theorem run_of_invoked [BodyDecoding] {format : LogFormat} {filter : LogFilter}
    (invoked : CommandLine.read arguments = .ok (.synchronize path option))
    (logs : logging surroundings.environment = .ok (format, filter)) :
    run surroundings arguments = runWith surroundings format filter path option := by
  simp only [run, invoked, logs]

theorem run_of_not_invoked [BodyDecoding]
    (other : ∀ path option, CommandLine.read arguments ≠ .ok (.synchronize path option))
    (world : World) :
    ((run surroundings arguments).run world).2 = world ∧
      (((run surroundings arguments).run world).1.exitCode = Report.success ↔
        (CommandLine.read arguments).isOk = true) := by
  rw [run]
  cases asked : CommandLine.read arguments with
  | error fault =>
      have fails : Report.usage ≠ Report.success := by decide
      exact ⟨rfl, iff_of_false fails nofun⟩
  | ok invocation =>
      cases invocation with
      | help => exact ⟨rfl, iff_of_true rfl rfl⟩
      | version => exact ⟨rfl, iff_of_true rfl rfl⟩
      | synchronize path option => exact absurd asked (other path option)

theorem run_of_lacks [BodyDecoding]
    (invoked : CommandLine.read arguments = .ok (.synchronize path option))
    (lacks : Lacks surroundings path option) (world : World) :
    ((run surroundings arguments).run world).2.exchanges = world.exchanges ∧
      ((run surroundings arguments).run world).1.exitCode = Report.failure := by
  cases logs : logging surroundings.environment with
  | error failure =>
      simp only [run, invoked, logs]
      exact ⟨rfl, rfl⟩
  | ok chosen =>
      obtain ⟨format, filter⟩ := chosen
      rw [run_of_invoked invoked logs]
      -- With a log, whatever else is lacking is noticed while the run prepares.
      cases ready : prepare surroundings path option with
      | error message =>
          obtain ⟨events, ended⟩ := run_runWith_of_prepare_eq_error ready format filter world
          rw [ended]
          exact ⟨world.exchanges_noted events, rfl⟩
      | ok inputs =>
          exact absurd lacks ((prepare_eq_ok_iff ⟨_, logs⟩).1 ready).1.not_lacks

theorem exitCode_run_of_prepared [BodyDecoding]
    (invoked : CommandLine.read arguments = .ok (.synchronize path option))
    (prepared : Prepared surroundings path option config groups) {manager : Manager}
    (opened : Manager.ofConfig (.new .standard) config = .ok manager) (world : World) :
    ((run surroundings arguments).run world).1.exitCode =
      exitCodeOf ((manager.update groups).run
        (world.noted (openingEvents surroundings option config))).1 := by
  obtain ⟨⟨format, filter⟩, logs⟩ := prepared.logs
  have ready := (prepare_eq_ok_iff prepared.logs).2 ⟨prepared, opened⟩
  rw [run_of_invoked invoked logs]
  exact exitCode_runWith_of_prepare_eq_ok ready format filter world

/-- Something is lacking that the arguments ask for.  Help and the version need nothing. -/
def FailsEarly (surroundings : Surroundings) (arguments : List String) : Prop :=
  ∃ path option, CommandLine.read arguments = .ok (.synchronize path option) ∧
    Lacks surroundings path option

/-- A run that lacks something makes no request and does not succeed, and whatever is sent,
everything was at hand before.  A run that is asked to synchronize succeeds exactly if everything
is at hand and the update succeeds. -/
theorem run_reachesNetwork_onlyPrepared [BodyDecoding] (surroundings : Surroundings)
    (arguments : List String) (world : World) :
    let ended := (run surroundings arguments).run world
    (FailsEarly surroundings arguments →
      ended.2.exchanges = world.exchanges ∧ ended.1.exitCode ≠ Report.success) ∧
    (ended.2.exchanges ≠ world.exchanges → ∃ path option config groups,
      CommandLine.read arguments = .ok (.synchronize path option) ∧
        Prepared surroundings path option config groups) ∧
    ((∀ path option, CommandLine.read arguments ≠ .ok (.synchronize path option)) →
      ended.2 = world ∧
        (ended.1.exitCode = Report.success ↔ (CommandLine.read arguments).isOk = true)) ∧
    ∀ path option, CommandLine.read arguments = .ok (.synchronize path option) →
      (ended.1.exitCode = Report.success ↔ ∃ config groups manager summary,
        Prepared surroundings path option config groups ∧
          Manager.ofConfig (.new .standard) config = .ok manager ∧
          ((manager.update groups).run
            (world.noted (openingEvents surroundings option config))).1 = .ok (.ok summary)) := by
  intro ended
  refine ⟨?early, ?sends, fun other => run_of_not_invoked other world, ?succeeds⟩
  case early =>
    rintro ⟨path, option, invoked, lacks⟩
    obtain ⟨quiet, fails⟩ := run_of_lacks invoked lacks world
    exact ⟨quiet, by rw [fails]; decide⟩
  case sends =>
    intro sends
    by_cases other : ∀ path option, CommandLine.read arguments ≠ .ok (.synchronize path option)
    · exact absurd (congrArg World.exchanges (run_of_not_invoked other world).1) sends
    · push Not at other
      obtain ⟨path, option, invoked⟩ := other
      have complete : ¬ Lacks surroundings path option := fun lacks =>
        sends (run_of_lacks invoked lacks world).1
      obtain ⟨config, groups, prepared⟩ := exists_prepared_of_not_lacks complete
      exact ⟨path, option, config, groups, invoked, prepared⟩
  case succeeds =>
    intro path option invoked
    constructor
    · intro succeeds
      have complete : ¬ Lacks surroundings path option := by
        intro lacks
        rw [(run_of_lacks invoked lacks world).2] at succeeds
        cases succeeds
      obtain ⟨config, groups, prepared⟩ := exists_prepared_of_not_lacks complete
      obtain ⟨manager, opened⟩ := exists_ofConfig_eq_ok_iff.2 prepared.addresses
      rw [exitCode_run_of_prepared invoked prepared opened] at succeeds
      obtain ⟨summary, updated⟩ := exitCodeOf_eq_success_iff.1 succeeds
      exact ⟨config, groups, manager, summary, prepared, opened, updated⟩
    · rintro ⟨config, groups, manager, summary, prepared, opened, updated⟩
      rw [exitCode_run_of_prepared invoked prepared opened]
      exact exitCodeOf_eq_success_iff.2 ⟨summary, updated⟩

/-- The last of the listed groups is malformed, and nothing is sent for the first. -/
theorem run_rejects_malformedTail :
    let _ : BodyDecoding := .utf8
    let settings := [("UMSYNC_ORGANIZATION_ID", "ORG@AdobeOrg"), ("UMSYNC_CLIENT_ID", "client"),
      ("UMSYNC_CLIENT_SECRET", "secret")]
    let environment : Environment :=
      ⟨settings.map fun setting => (setting.1, Text.utf8Bytes setting.2.toList)⟩
    let text := "[\x7b\"id\":\"staff\"\x7d,\x7b\"id\":7\x7d]"
    let files : Files := ⟨[(["groups.json"], .file (Text.utf8Bytes text.toList))]⟩
    let surroundings : Surroundings := ⟨environment, files, ⟨some "/work", none⟩⟩
    let world : World := .fresh ⟨["https"], [], .closed⟩ []
    let ended := (run surroundings ["groups.json"]).run world
    (loadConfig surroundings none).outcome = .ok (.new "ORG@AdobeOrg" "client" "secret") ∧
      FailsEarly surroundings ["groups.json"] ∧
      ended.2.exchanges = [] ∧ ended.1.exitCode ≠ Report.success := by
  intro decoding settings environment text files surroundings world ended
  have malformed : ∀ groups, ¬ Group.Lists text groups := by
    intro groups lists
    have listed := Group.readList_eq_ok_iff.2 lists
    have refused : (Group.readList text).isOk = false := by decide +kernel
    rw [listed] at refused
    cases refused
  have fails : FailsEarly surroundings ["groups.json"] :=
    ⟨"groups.json", none, by decide +kernel, .list (by decide +kernel) malformed⟩
  obtain ⟨quiet, code⟩ :=
    (run_reachesNetwork_onlyPrepared surroundings ["groups.json"] world).1 fails
  exact ⟨by decide +kernel, fails, quiet, code⟩

end Program

end GroupSync
