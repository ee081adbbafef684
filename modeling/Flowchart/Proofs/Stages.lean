import Flowchart.Proofs.GivenParameters
import Flowchart.Proofs.Logs
import Flowchart.Workspace.FileOperations

set_option autoImplicit false

/-! # What a run tells of its stages

Whether a stage succeeds is said by the arguments and by what the host has answered: that no
parameter has been given twice, that there is a project in the file, that everything has been
written, that `javac` has ended well. The report of a run agrees with that. It ends with the first
stage that does not succeed, and until there is something to write, nothing is changed. -/

namespace Flowchart

/-! ## Success of stages -/

section

variable (names : List String) (a : Arguments) (log : List HostEvent)

/-- The project in the file has been compiled. -/
def Session.Generated (generated : GeneratedProject) : Prop :=
  ∃ project, Session.Loaded a.path log project ∧ compile project a.options = .ok generated

/-- What the publisher does with its directories and files has been done, and nothing has failed. -/
def Session.Published (generated : GeneratedProject) : Prop :=
  (∀ e ∈ log, e.failed = false)
    ∧ Publisher.creations ⟨a.outputRoot, a.clean⟩ generated.directories ⊆ log
    ∧ Publisher.writings ⟨a.outputRoot, a.clean⟩ generated.files ⊆ log

/-- Whether a stage succeeds, where `names` are the names of the parameters that are given. -/
def Stage.Succeeds : Stage → Prop
  | .parseArguments => names.Nodup
  | .loadProject => ∃ project, Session.Loaded a.path log project
  | .generateCode => ∃ generated,
      Session.Generated a log generated ∧ Session.Published a log generated
  | .compileCode => ∃ generated,
      Session.Generated a log generated ∧ Session.Compiled a generated log

/-- A stage is part of a run if all stages before it succeed; the last one is only on demand. -/
def Stage.Runs (s : Stage) : Prop :=
  (∀ earlier ∈ s.before, earlier.Succeeds names a log) ∧ (s = .compileCode → a.compile = true)

/-- The first two stages have succeeded and there is something to write. -/
def Session.MayChange : Prop :=
  Stage.parseArguments.Succeeds names a log ∧ Stage.loadProject.Succeeds names a log
    ∧ ∃ generated, Session.Generated a log generated

/-- The report of a run is right about the stages. -/
structure Report.Tells (r : Report) : Prop where
  exitCode_eq_zero_iff :
    r.exitCode = 0 ↔ ∀ s : Stage, s.Runs names a log → s.Succeeds names a log
  /-- The run ends with the first stage that fails. -/
  failed : ∀ s : Stage, s.Runs names a log → ¬ s.Succeeds names a log →
    r.exitCode = s.number
      ∧ r.outputLines = s.before.map (StageLine.render ⟨·, true⟩) ++ [StageLine.render ⟨s, false⟩]
  /-- If none fails, there is a line for each, and then the summary. -/
  succeeded : (∀ s : Stage, s.Runs names a log → s.Succeeds names a log) →
    ∃ summary : Summary,
      r.outputLines = ([Stage.parseArguments, .loadProject, .generateCode]
          ++ if a.compile then [Stage.compileCode] else []).map (StageLine.render ⟨·, true⟩)
        ++ ["", "--- Summary ---"] ++ summary.lines
  /-- Nothing is changed before there is something to write. -/
  changes : ∀ e ∈ log, e.changes = true → Session.MayChange names a log

end

/-! ## Reports -/

section

variable {names : List String} {a : Arguments} {log : List HostEvent} {s s' : Stage}

theorem Stage.before_trichotomy (s s' : Stage) : s ∈ s'.before ∨ s = s' ∨ s' ∈ s.before := by
  cases s <;> cases s' <;> decide

/-- There is only one stage of a run that fails. -/
theorem Stage.Runs.unique (hruns : s.Runs names a log) (hfails : ¬ s.Succeeds names a log)
    (hruns' : s'.Runs names a log) (hfails' : ¬ s'.Succeeds names a log) : s = s' := by
  rcases Stage.before_trichotomy s s' with hearlier | heq | hlater
  · exact absurd (hruns'.1 s hearlier) hfails
  · exact heq
  · exact absurd (hruns.1 s' hlater) hfails'

theorem Stage.runs_parseArguments : Stage.parseArguments.Runs names a log :=
  ⟨by simp [before, all], by simp⟩

theorem Stage.runs_loadProject (hnames : names.Nodup) : Stage.loadProject.Runs names a log :=
  ⟨by simpa [before, all, Succeeds] using hnames, by simp⟩

theorem Stage.runs_generateCode (hnames : names.Nodup)
    (hload : Stage.loadProject.Succeeds names a log) : Stage.generateCode.Runs names a log :=
  ⟨by simpa [before, all] using ⟨hnames, hload⟩, by simp⟩

theorem Stage.runs_compileCode (hnames : names.Nodup)
    (hload : Stage.loadProject.Succeeds names a log)
    (hgenerate : Stage.generateCode.Succeeds names a log) (hcompile : a.compile = true) :
    Stage.compileCode.Runs names a log :=
  ⟨by simpa [before, all] using ⟨hnames, hload, hgenerate⟩, fun _ => hcompile⟩

/-- A report is right about a stage that fails if all stages before it have been told. -/
theorem Report.tells_failed {told : List StageLine} (htold : told = s.before.map Stage.complete)
    (hruns : s.Runs names a log) (hfails : ¬ s.Succeeds names a log)
    (hchanges : ∀ e ∈ log, e.changes = true → Session.MayChange names a log) (error : String)
    (skipped : List CompileError) : (Report.failed told s error skipped).Tells names a log where
  exitCode_eq_zero_iff := by
    constructor
    · intro hzero
      cases s <;> cases hzero
    · exact fun hall => absurd (hall s hruns) hfails
  failed := by
    intro s' hruns' hfails'
    obtain rfl := hruns.unique hfails hruns' hfails'
    refine ⟨rfl, ?_⟩
    rw [htold]
    simp [Report.outputLines, Report.failed, Stage.complete]
  succeeded hall := absurd (hall s hruns) hfails
  changes := hchanges

/-- A report is right about a run that comes to its end if every stage of the run has been told. -/
theorem Report.tells_succeeded {told : List StageLine}
    (htold : told = ([Stage.parseArguments, .loadProject, .generateCode]
      ++ if a.compile then [Stage.compileCode] else []).map Stage.complete)
    (hall : ∀ s : Stage, s.Runs names a log → s.Succeeds names a log)
    (hchanges : ∀ e ∈ log, e.changes = true → Session.MayChange names a log)
    (skipped : List CompileError) (summary : Summary) :
    (Report.succeeded told skipped summary).Tells names a log where
  exitCode_eq_zero_iff := ⟨fun _ => hall, fun _ => rfl⟩
  failed s hruns hfails := absurd (hall s hruns) hfails
  succeeded _ := by
    refine ⟨summary, ?_⟩
    rw [htold]
    simp [Report.outputLines, Report.succeeded, Stage.complete, Function.comp_def]
  changes := hchanges

end

/-! ## A run -/

namespace Session

variable {σ : Type} {host : Host (StateM σ)} {a : Arguments}

/-- A file that has been read is the first thing in the log, whatever comes then. -/
theorem loaded_append_iff {path : Path} {first : HostEvent} {more : List HostEvent}
    {project : Item} : Loaded path ([first] ++ more) project ↔ Loaded path [first] project := by
  simp [Loaded]

/-- What a run does after it has written the project. -/
def finish {m : Type → Type} [Monad m] (host : Host m) (a : Arguments)
    (generated : GeneratedProject) (written : List Path) (told : List StageLine) : m Report := do
  match ← compileEntry host a generated with
  | .error e => return .failed told .compileCode e generated.skipped
  | .ok () =>
    let told := if a.compile then told ++ [Stage.compileCode.complete] else told
    return .succeeded told generated.skipped
      { project := generated.name
        filesWritten := written.length
        skipped := generated.skipped.length
        output := a.outputRoot }

/-- What a run does after it has compiled the project. -/
def deliver {m : Type → Type} [Monad m] (host : Host m) (a : Arguments)
    (generated : GeneratedProject) (told : List StageLine) : m Report := do
  match ← (Publisher.publish ⟨a.outputRoot, a.clean⟩ host generated).run with
  | .error f => return .failed told .generateCode f.message generated.skipped
  | .ok written => finish host a generated written (told ++ [Stage.generateCode.complete])

section

variable {generated : GeneratedProject} {names : List String} {before : List HostEvent}

theorem Generated.unique {log : List HostEvent} {generated other : GeneratedProject}
    (h : Generated a log generated) (h' : Generated a log other) : generated = other := by
  obtain ⟨project, hloaded, hcompile⟩ := h
  obtain ⟨project', hloaded', hcompile'⟩ := h'
  obtain rfl := hloaded.unique hloaded'
  exact Except.ok.inj (hcompile.symm.trans hcompile')

theorem logs_finish (hchange : ∀ more, MayChange names a (before ++ more))
    (hgenerated : ∀ more, Generated a (before ++ more) generated)
    (hpublished : ∀ more, (∀ e ∈ more, e.failed = false) →
      Published a (before ++ more) generated)
    (hjavac : ∀ e ∈ before, e.isOfJavac = false) (written : List Path) {told : List StageLine}
    (htold : told = Stage.compileCode.before.map Stage.complete) :
    Records host (finish host.recorded a generated written told)
      (finish host a generated written told)
      fun report more => report.Tells names a (before ++ more) := by
  refine (logs_compileEntry a generated).bind fun result events hevents => ?_
  obtain ⟨hall, hresult⟩ := hevents
  have hcompiled : Compiled a generated (before ++ events)
      ↔ Compiled a generated events := by
    simp only [Compiled, launched_append_iff hjavac]
  have hgenerate : Stage.generateCode.Succeeds names a (before ++ events) :=
    ⟨generated, hgenerated _, hpublished _ fun e he => HostEvent.failed_eq_false (hall e he)⟩
  cases result with
  | error e =>
    have hnot : ¬ (a.compile = true → Compiled a generated events) := hresult.not.1 (by simp)
    obtain ⟨hcompile, hnot⟩ := Classical.not_imp.1 hnot
    refine .pure ?_
    rw [List.append_nil]
    have hruns := Stage.runs_compileCode (hchange events).1 (hchange _).2.1 hgenerate hcompile
    refine Report.tells_failed htold hruns ?_ (fun _ _ _ => hchange _) _ _
    rintro ⟨other, hother, hdone⟩
    rw [← (hgenerated _).unique hother] at hdone
    exact hnot (hcompiled.1 hdone)
  | ok _ =>
    refine .pure ?_
    rw [List.append_nil]
    have hall : (if a.compile then told ++ [Stage.compileCode.complete] else told)
        = ([Stage.parseArguments, .loadProject, .generateCode]
          ++ if a.compile then [Stage.compileCode] else []).map Stage.complete := by
      rw [htold]
      cases a.compile <;> rfl
    refine Report.tells_succeeded hall (fun s hruns => ?_) (fun _ _ _ => hchange _) _ _
    cases s with
    | parseArguments => exact (hchange _).1
    | loadProject => exact (hchange _).2.1
    | generateCode => exact hgenerate
    | compileCode =>
      exact ⟨generated, hgenerated _, hcompiled.2 (hresult.1 rfl (hruns.2 rfl))⟩

theorem logs_deliver {first : HostEvent} (hfirst : first.isOfJavac = false)
    (hgood : first.failed = false) (hchange : ∀ more, MayChange names a ([first] ++ more))
    (hgenerated : ∀ more, Generated a ([first] ++ more) generated) {told : List StageLine}
    (htold : told = Stage.generateCode.before.map Stage.complete) :
    Records host (deliver host.recorded a generated told) (deliver host a generated told)
      fun report more => report.Tells names a ([first] ++ more) := by
  refine (Publisher.logs_publish _ generated).bind fun result published hpublish => ?_
  cases hpublish with
  | error _ bad =>
    obtain ⟨e, he, hbad⟩ := bad
    refine .pure ?_
    have hruns :=
      Stage.runs_generateCode (hchange (published ++ [])).1 (hchange (published ++ [])).2.1
    refine Report.tells_failed htold hruns ?_ (fun _ _ _ => hchange _) _ _
    rintro ⟨_, -, hnone, -⟩
    have hfailed := hnone e (by simp [he])
    rw [hbad] at hfailed
    cases hfailed
  | ok all good has =>
    have hdone := List.append_subset.1 has
    have hpublished : ∀ more, (∀ e ∈ more, e.failed = false) →
        Published a ([first] ++ published ++ more) generated := by
      intro more hmore
      have hinside : published ⊆ [first] ++ published ++ more := by simp
      refine ⟨?_, List.Subset.trans hdone.1 hinside, List.Subset.trans hdone.2 hinside⟩
      simpa [or_imp, forall_and] using ⟨hgood, good, hmore⟩
    have hjavac : ∀ e ∈ [first] ++ published, e.isOfJavac = false :=
      List.forall_mem_append.2
        ⟨by simpa using hfirst, fun e he => HostEvent.isOfJavac_eq_false (all e he)⟩
    have hchange' : ∀ more, MayChange names a ([first] ++ published ++ more) :=
      fun more => by simpa using hchange (published ++ more)
    have hgenerated' : ∀ more, Generated a ([first] ++ published ++ more) generated :=
      fun more => by simpa using hgenerated (published ++ more)
    have htold' : told ++ [Stage.generateCode.complete]
        = Stage.compileCode.before.map Stage.complete := by
      rw [htold]
      rfl
    exact (logs_finish hchange' hgenerated' hpublished hjavac _ htold').mono fun _ _ h => by
      rwa [List.append_assoc] at h

theorem logs_runWith (a : Arguments) :
    Records host (runWith host.recorded a) (runWith host a)
      fun report log => report.Tells (a.parameters.map Prod.fst) a log := by
  unfold runWith
  cases hrepeated : Arguments.firstRepeated [] a.parameters with
  | some name =>
    have hnot : ¬ (a.parameters.map Prod.fst).Nodup := by
      rw [← Arguments.firstRepeated_eq_none_iff, hrepeated]
      simp
    exact .pure
      (Report.tells_failed rfl Stage.runs_parseArguments hnot (List.forall_mem_nil _) _ _)
  | none =>
    have hnames := Arguments.firstRepeated_eq_none_iff.1 hrepeated
    simp only
    refine (logs_loadProject a.path).bind fun result events hevents => ?_
    obtain ⟨⟨answer, rfl⟩, hproject⟩ := hevents
    have hsame : ∀ e ∈ [HostEvent.readText a.path answer], e.changes = true →
        MayChange (a.parameters.map Prod.fst) a [.readText a.path answer] := by
      simp [HostEvent.changes]
    cases result with
    | error e =>
      refine .pure (Report.tells_failed rfl (Stage.runs_loadProject hnames) ?_ hsame _ _)
      rintro ⟨project, hloaded⟩
      cases (hproject project).2 hloaded
    | ok project =>
      have hloaded : ∀ more, Loaded a.path ([.readText a.path answer] ++ more) project :=
        fun more => loaded_append_iff.2 ((hproject project).1 rfl)
      cases hcompile : compile project a.options with
      | error e =>
        simp only [hcompile]
        have hruns := Stage.runs_generateCode hnames ⟨project, hloaded []⟩
        refine .pure (Report.tells_failed rfl hruns ?_ hsame _ _)
        rintro ⟨_, ⟨other, hother, hcompiled⟩, -⟩
        rw [← (hloaded []).unique hother, hcompile] at hcompiled
        cases hcompiled
      | ok generated =>
        simp only [hcompile]
        have hgenerated : ∀ more, Generated a ([.readText a.path answer] ++ more) generated :=
          fun more => ⟨project, hloaded more, hcompile⟩
        exact logs_deliver rfl rfl
          (fun more => ⟨hnames, ⟨project, hloaded more⟩, ⟨generated, hgenerated more⟩⟩) hgenerated
          rfl

end

/-- For every host, in whatever state it is, and all arguments that ask for a run: the report tells
    of the stages what the host has answered, and if looking changes nothing, the host is left as it
    was unless the first two stages have succeeded and the project has been compiled. -/
theorem run_tells (host : Host (StateM σ)) {arguments : List String} {a : Arguments}
    (hread : Arguments.read arguments = .run a) (s : σ) :
    ∃ report log s', (run host arguments).run s = (report, s')
      ∧ ((run host.recorded arguments).run []).run s = ((report, log), s')
      ∧ report.Tells (Arguments.givenNames arguments) a log
      ∧ (host.LooksOnly → ¬ MayChange (Arguments.givenNames arguments) a log → s' = s) := by
  have hrun : run host arguments = runWith host a := by rw [run, hread]
  have hrecorded : run host.recorded arguments = runWith host.recorded a := by rw [run, hread]
  have hrecords : Records host (runWith host.recorded a) (runWith host a) _ := logs_runWith a
  obtain ⟨report, log, s', hplain, hlogged, hquiet, htells⟩ := hrecords s []
  rw [← Arguments.givenNames_eq hread] at htells
  rw [hrun, hrecorded]
  refine ⟨report, log, s', hplain, hlogged, htells, fun hlooks hno => hquiet hlooks ?_⟩
  intro e he
  by_contra hchanges
  exact hno (htells.changes e he (by simpa using hchanges))

/-- A parameter that is given twice, once with blanks around its name. -/
def repetitive : List String :=
  ["--path", "Demo.json", "-fDemo.run", "-a", "x=1", "--parameter= x =2", "--clean"]

/-- What is read of it. -/
def repetitiveArguments : Arguments where
  path := ⟨"Demo.json"⟩
  function := "Demo.run"
  parameters := [("x", "1"), ("x", "2")]
  output := none
  ignoreComments := false
  skipFailed := false
  parallel := false
  clean := true
  compile := false
  verbose := false

/-- A host without files and programs. -/
def emptyHost : Host (StateM FileTree) := FileTree.host (fun _ _ t => (.error .notFound, t)) []

/-- The run ends in its first stage, and no file is touched. -/
theorem repetitive_tells :
    ∃ report, (run emptyHost repetitive).run .empty = (report, .empty) ∧ report.exitCode = 1
      ∧ report.outputLines = ["[STAGE 1: COMMANDLINE PARSING FAILED]"] := by
  have hread : Arguments.read repetitive = .run repetitiveArguments := by decide +kernel
  have hnot : ¬ (Arguments.givenNames repetitive).Nodup := by decide +kernel
  obtain ⟨report, log, s', hplain, -, htells, hquiet⟩ := run_tells emptyHost hread .empty
  obtain ⟨hexit, hlines⟩ := htells.failed .parseArguments Stage.runs_parseArguments hnot
  have hlooks : emptyHost.LooksOnly := ⟨fun _ _ => rfl, fun _ _ => rfl, fun _ _ => rfl⟩
  obtain rfl := hquiet hlooks fun h => hnot h.1
  exact ⟨report, hplain, hexit, hlines⟩

end Session

end Flowchart
