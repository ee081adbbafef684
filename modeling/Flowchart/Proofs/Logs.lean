import Flowchart.CommandLine.Session
import Flowchart.Proofs.Recording

set_option autoImplicit false

/-! # Logs of the parts of a run

What is in the log when a project has been loaded or published, or `javac` has been called, and how
the outcome can be told from it. -/

namespace Flowchart

variable {σ α β : Type} {host : Host (StateM σ)}

/-! ## Publishing -/

namespace HostEvent

/-- What is asked for when a project is written. -/
def isOfPublisher : HostEvent → Bool
  | .pathExists .. | .makeDirectories .. | .writeFile .. | .removeTree .. => true
  | .readText .. | .isFile .. | .launch .. => false

/-- A directory could not be created or removed, or a file not written. -/
def failed : HostEvent → Bool
  | .makeDirectories _ (.error _) | .writeFile _ _ (.error _) | .removeTree _ (.error _) => true
  | _ => false

end HostEvent

namespace Publisher

variable (p : Publisher)

/-- What is logged by a part of the publishing: if it succeeds nothing has failed, and some events
    are among those that are logged. -/
inductive Logs (wanted : List HostEvent) : Except IoFailure α → List HostEvent → Prop
  | ok {a : α} {events : List HostEvent} (all : ∀ e ∈ events, e.isOfPublisher = true)
      (good : ∀ e ∈ events, e.failed = false) (has : wanted ⊆ events) :
      Logs wanted (.ok a) events
  | error {f : IoFailure} {events : List HostEvent} (all : ∀ e ∈ events, e.isOfPublisher = true)
      (bad : ∃ e ∈ events, e.failed = true) : Logs wanted (.error f) events

namespace Logs

variable {wanted later events more : List HostEvent} {result : Except IoFailure α}

theorem isOfPublisher (h : Logs wanted result events) :
    ∀ e ∈ events, e.isOfPublisher = true := by
  cases h with
  | ok all => exact all
  | error all => exact all

/-- After a part that succeeded. -/
theorem append {a : β} (h : Logs wanted (.ok a) events) (hmore : Logs later result more) :
    Logs (wanted ++ later) result (events ++ more) := by
  have hall : ∀ e ∈ events ++ more, e.isOfPublisher = true :=
    List.forall_mem_append.2 ⟨h.isOfPublisher, hmore.isOfPublisher⟩
  cases h with
  | ok _ good has =>
    cases hmore with
    | ok _ good' has' =>
      refine .ok hall (List.forall_mem_append.2 ⟨good, good'⟩) ?_
      exact List.append_subset.2 ⟨List.subset_append_of_subset_left _ has,
        List.subset_append_of_subset_right _ has'⟩
    | error _ bad =>
      obtain ⟨e, he, hbad⟩ := bad
      exact .error hall ⟨e, List.mem_append_right _ he, hbad⟩

theorem mono (h : Logs wanted result events) (hsubset : later ⊆ wanted) :
    Logs later result events := by
  cases h with
  | ok all good has => exact .ok all good (List.Subset.trans hsubset has)
  | error all bad => exact .error all bad

theorem nothing (a : α) : Logs [] (.ok a) [] :=
  .ok (List.forall_mem_nil _) (List.forall_mem_nil _) (List.Subset.refl _)

theorem stop {f : IoFailure} (h : Logs wanted (.error f : Except IoFailure β) events) :
    Logs later (.error f : Except IoFailure α) events := by
  cases h with
  | error all bad => exact .error all bad

end Logs

/-- Parts one after the other. -/
theorem logs_bind {wanted later : List HostEvent} {x : ExceptT IoFailure (Logged σ) α}
    {y : ExceptT IoFailure (StateM σ) α} (h : Records host x.run y.run (Logs wanted))
    {f : α → ExceptT IoFailure (Logged σ) β} {g : α → ExceptT IoFailure (StateM σ) β}
    (hnext : ∀ a, Records host (f a).run (g a).run (Logs later)) :
    Records host (x >>= f).run (y >>= g).run (Logs (wanted ++ later)) :=
  h.bindExcept (fun a _ hfirst => (hnext a).mono fun _ _ hmore => hfirst.append hmore)
    fun _ _ hfirst => hfirst.stop

/-- An operation of the publisher that may fail. -/
theorem logs_onPath (path : Path) {event : Except String Unit → HostEvent}
    {action : StateM σ (Except String Unit)} (hchanges : ∀ r, (event r).changes = true)
    (hall : ∀ r, (event r).isOfPublisher = true) (hok : (event (.ok ())).failed = false)
    (herror : ∀ reason, (event (.error reason)).failed = true) :
    Records host (onPath path (logged event action)).run (onPath path action).run
      (Logs [event (.ok ())]) := by
  have hlogged : Records host (logged event action) action fun r events => events = [event r] :=
    .logged fun _ s hunchanged => by simp [hchanges] at hunchanged
  refine hlogged.bind fun r events hevents => ?_
  subst hevents
  cases r with
  | ok a =>
    refine .pure ?_
    rw [List.append_nil]
    exact .ok (by simp [hall]) (by simpa using hok) (List.Subset.refl _)
  | error reason =>
    refine .pure ?_
    rw [List.append_nil]
    exact .error (by simp [hall]) (by simpa using herror reason)

theorem logs_makeDirectories (path : Path) :
    Records host (onPath path (host.recorded.makeDirectories path)).run
      (onPath path (host.makeDirectories path)).run (Logs [.makeDirectories path (.ok ())]) :=
  logs_onPath path (fun _ => rfl) (fun _ => rfl) rfl fun _ => rfl

theorem logs_writeFile (path : Path) (contents : String) :
    Records host (onPath path (host.recorded.writeFile path contents)).run
      (onPath path (host.writeFile path contents)).run (Logs [.writeFile path contents (.ok ())]) :=
  logs_onPath path (fun _ => rfl) (fun _ => rfl) rfl fun _ => rfl

theorem logs_removeTree (path : Path) :
    Records host (onPath path (host.recorded.removeTree path)).run
      (onPath path (host.removeTree path)).run (Logs [.removeTree path (.ok ())]) :=
  logs_onPath path (fun _ => rfl) (fun _ => rfl) rfl fun _ => rfl

theorem logs_pathExists (path : Path) : Records host
    (liftM (host.recorded.pathExists path) : ExceptT IoFailure (Logged σ) Bool).run
    (liftM (host.pathExists path) : ExceptT IoFailure (StateM σ) Bool).run (Logs []) := by
  refine .lift ((Records.logged fun hhost s _ => hhost.pathExists path s).mono ?_)
  rintro found _ rfl
  exact .ok (by simp [HostEvent.isOfPublisher]) (by simp [HostEvent.failed]) (List.nil_subset _)

theorem logs_removeOld (name : String) :
    Records host (p.removeOld host.recorded name).run (p.removeOld host name).run (Logs []) := by
  unfold removeOld
  by_cases hclean : p.clean = true
  · simp only [hclean, if_true]
    refine logs_bind (logs_pathExists _) fun found => ?_
    cases found with
    | true => exact (logs_removeTree _).mono fun _ _ h => h.mono (List.nil_subset _)
    | false => exact .pure (.nothing ())
  · simp only [hclean]
    exact .pure (.nothing ())

/-- The directories of a project, as they are to be created. -/
def creations (directories : List Path) : List HostEvent :=
  directories.map fun d => .makeDirectories (p.root.join d) (.ok ())

/-- The files of a project, as they are to be written. -/
def writings (files : List GeneratedFile) : List HostEvent :=
  files.map fun file => .writeFile (p.root.join file.path) file.contents (.ok ())

theorem logs_makeAll (directories : List Path) :
    Records host (p.makeAll host.recorded directories).run (p.makeAll host directories).run
      (Logs (p.creations directories)) := by
  induction directories with
  | nil => exact .pure (.nothing ())
  | cons d rest ih => exact logs_bind (logs_makeDirectories _) fun _ => ih

theorem logs_writeOne (file : GeneratedFile) :
    Records host (p.writeOne host.recorded file).run (p.writeOne host file).run
      (Logs (p.writings [file])) := by
  have hwrite : Records host
      (do onPath (p.root.join file.path)
            (host.recorded.writeFile (p.root.join file.path) file.contents)
          return p.root.join file.path : ExceptT IoFailure (Logged σ) Path).run
      (do onPath (p.root.join file.path) (host.writeFile (p.root.join file.path) file.contents)
          return p.root.join file.path : ExceptT IoFailure (StateM σ) Path).run
      (Logs (p.writings [file])) :=
    logs_bind (logs_writeFile _ _) fun _ => .pure (.nothing _)
  dsimp only [writeOne]
  cases (p.root.join file.path).parent? with
  | none => exact hwrite
  | some parent =>
    exact (logs_bind (logs_makeDirectories parent) fun _ => hwrite).mono
      fun _ _ h => h.mono (List.subset_append_right _ _)

theorem logs_writeAll (files : List GeneratedFile) :
    Records host (p.writeAll host.recorded files).run (p.writeAll host files).run
      (Logs (p.writings files)) := by
  induction files with
  | nil => exact .pure (.nothing [])
  | cons file rest ih =>
    have hrest : ∀ path, Records host
        (do return path :: (← p.writeAll host.recorded rest)
          : ExceptT IoFailure (Logged σ) (List Path)).run
        (do return path :: (← p.writeAll host rest)
          : ExceptT IoFailure (StateM σ) (List Path)).run (Logs (p.writings rest ++ [])) :=
      fun path => logs_bind ih fun _ => .pure (.nothing _)
    refine (logs_bind (p.logs_writeOne file) hrest).mono fun _ _ h => h.mono ?_
    rw [List.append_nil]
    exact List.Subset.refl _

/-- If a project is written, nothing has failed, its directories have been created and its files
    have been written; otherwise something has failed. -/
theorem logs_publish (project : GeneratedProject) :
    Records host (p.publish host.recorded project).run (p.publish host project).run
      (Logs (p.creations project.directories ++ p.writings project.files)) :=
  logs_bind (p.logs_removeOld project.name) fun _ =>
    logs_bind (p.logs_makeAll project.directories) fun _ => p.logs_writeAll project.files

end Publisher

/-! ## Loading -/

namespace Session

/-- The first thing in a log is a file that was read, and the project is the one in the file. -/
def Loaded (path : Path) (log : List HostEvent) (project : Item) : Prop :=
  ∃ text record, log.head? = some (.readText path (.ok text))
    ∧ ProjectFile.read? text = some record ∧ record.convert = .ok project

theorem Loaded.unique {path : Path} {log : List HostEvent} {project other : Item}
    (h : Loaded path log project) (h' : Loaded path log other) : project = other := by
  obtain ⟨text, record, hhead, hread, hconvert⟩ := h
  obtain ⟨text', record', hhead', hread', hconvert'⟩ := h'
  cases hhead.symm.trans hhead'
  cases hread.symm.trans hread'
  exact Except.ok.inj (hconvert.symm.trans hconvert')

theorem logs_loadProject (path : Path) :
    Records host (loadProject host.recorded path) (loadProject host path)
      fun result events => (∃ answer, events = [.readText path answer])
        ∧ ∀ project, result = .ok project ↔ Loaded path events project := by
  have hread : Records host (host.recorded.readText path) (host.readText path)
      fun answer events => events = [.readText path answer] :=
    .logged fun hhost s _ => hhost.readText path s
  refine hread.bind fun answer events hevents => ?_
  subst hevents
  cases answer with
  | error reason => exact .pure ⟨⟨_, rfl⟩, fun project => by simp [Loaded]⟩
  | ok text =>
    cases hfile : ProjectFile.read? text with
    | none =>
      simp only [hfile]
      exact .pure ⟨⟨_, rfl⟩, fun project => by simp [Loaded, hfile]⟩
    | some record =>
      cases hrecord : record.convert with
      | error e =>
        simp only [hfile, hrecord]
        exact .pure ⟨⟨_, rfl⟩, fun project => by simp [Loaded, hfile, hrecord]⟩
      | ok found =>
        simp only [hfile, hrecord]
        exact .pure ⟨⟨_, rfl⟩, fun project => by simp [Loaded, hfile, hrecord]⟩

end Session

/-! ## Calling `javac` -/

/-- What is asked for when `javac` is called. -/
def HostEvent.isOfJavac : HostEvent → Bool
  | .isFile .. | .launch .. => true
  | _ => false

namespace HostEvent

variable {e : HostEvent}

theorem isOfJavac_eq_false (h : e.isOfPublisher = true) : e.isOfJavac = false := by
  cases e <;> first | rfl | cases h

theorem failed_eq_false (h : e.isOfJavac = true) : e.failed = false := by
  cases e <;> first | rfl | cases h

end HostEvent

/-- A program has been launched with arguments and ended well. -/
def Launched (arguments : List String) (log : List HostEvent) : Prop :=
  ∃ program result, .launch program arguments (.ok result) ∈ log
    ∧ result.status.isSuccess = true

theorem launched_append_iff {arguments : List String} {before log : List HostEvent}
    (h : ∀ e ∈ before, e.isOfJavac = false) :
    Launched arguments (before ++ log) ↔ Launched arguments log := by
  constructor
  · rintro ⟨program, result, hmem, hsuccess⟩
    refine ⟨program, result, (List.mem_append.1 hmem).resolve_left fun hbefore => ?_, hsuccess⟩
    cases h _ hbefore
  · rintro ⟨program, result, hmem, hsuccess⟩
    exact ⟨program, result, List.mem_append_right _ hmem, hsuccess⟩

namespace Javac

theorem logs_search (directories : List Path) :
    Records host (search host.recorded directories) (search host directories)
      fun _ events => ∀ e ∈ events, ∃ path answer, e = .isFile path answer := by
  induction directories with
  | nil => exact .pure (List.forall_mem_nil _)
  | cons directory rest ih =>
    have hfile : Records host (host.recorded.isFile (directory.child "javac"))
        (host.isFile (directory.child "javac"))
        fun answer events => events = [.isFile (directory.child "javac") answer] :=
      .logged fun hhost s _ => hhost.isFile _ s
    refine hfile.bind fun found events hevents => ?_
    subst hevents
    cases found with
    | true => exact .pure (by simp)
    | false => exact ih.mono fun _ _ h => List.forall_mem_cons.2 ⟨⟨_, _, rfl⟩, h⟩

theorem logs_compile (j : Javac) (classPath source : Path) :
    Records host (compile host.recorded j classPath source) (compile host j classPath source)
      fun result events => ∃ answer,
        events = [.launch j.path (arguments classPath source) answer]
          ∧ result = j.outcome answer := by
  have hlaunch : Records host (host.recorded.launch j.path (arguments classPath source))
      (host.launch j.path (arguments classPath source))
      fun answer events => events = [.launch j.path (arguments classPath source) answer] :=
    .logged fun _ s hunchanged => by simp [HostEvent.changes] at hunchanged
  exact hlaunch.bind fun answer events hevents => .pure ⟨answer, by simp [hevents], rfl⟩

theorem outcome_eq_ok_iff {j : Javac} {answer : Except String ProgramResult} :
    j.outcome answer = .ok () ↔ ∃ result, answer = .ok result ∧ result.status.isSuccess = true := by
  cases answer with
  | error reason => simp [outcome]
  | ok result => simp [outcome]

theorem logs_locateAndCompile (classPath source : Path) :
    Records host (locateAndCompile host.recorded classPath source)
      (locateAndCompile host classPath source)
      fun result events => (∀ e ∈ events, e.isOfJavac = true)
        ∧ (result = .ok () ↔ Launched (arguments classPath source) events) := by
  refine (logs_search host.searchPath).bind fun found events hevents => ?_
  have hall : ∀ e ∈ events, e.isOfJavac = true := by
    intro e he
    obtain ⟨path, answer, rfl⟩ := hevents e he
    rfl
  have hnone : ∀ program given answer, .launch program given answer ∉ events := by
    intro program given answer he
    obtain ⟨_, _, heq⟩ := hevents _ he
    cases heq
  cases found with
  | none =>
    refine .pure ⟨by simpa using hall, ?_⟩
    simp [Launched, hnone]
  | some j =>
    refine (logs_compile j classPath source).mono ?_
    rintro result _ ⟨answer, rfl, rfl⟩
    refine ⟨List.forall_mem_append.2 ⟨hall, by simp [HostEvent.isOfJavac]⟩, ?_⟩
    rw [outcome_eq_ok_iff]
    constructor
    · rintro ⟨r, rfl, hsuccess⟩
      exact ⟨j.path, r, by simp, hsuccess⟩
    · rintro ⟨program, r, hmem, hsuccess⟩
      have hlaunch := (List.mem_append.1 hmem).resolve_left (hnone _ _ _)
      cases List.mem_singleton.1 hlaunch
      exact ⟨r, rfl, hsuccess⟩

end Javac

/-! ## Compiling the entry function -/

namespace Session

/-- `javac` has compiled the source file of the entry function. -/
def Compiled (a : Arguments) (generated : GeneratedProject) (log : List HostEvent) : Prop :=
  ∃ file, generated.declaration? a.function = some file
    ∧ Launched (Javac.arguments a.outputRoot (a.outputRoot.join file.path)) log

theorem logs_compileEntry (a : Arguments) (generated : GeneratedProject) :
    Records host (compileEntry host.recorded a generated) (compileEntry host a generated)
      fun result events => (∀ e ∈ events, e.isOfJavac = true)
        ∧ (result = .ok () ↔ a.compile = true → Compiled a generated events) := by
  unfold compileEntry
  cases hcompile : a.compile with
  | false => exact .pure ⟨List.forall_mem_nil _, by simp⟩
  | true =>
    simp only [if_true]
    cases hfile : generated.declaration? a.function with
    | none => exact .pure ⟨List.forall_mem_nil _, by simp [Compiled, hfile]⟩
    | some file =>
      have hiff : ∀ events, Compiled a generated events
          ↔ Launched (Javac.arguments a.outputRoot (a.outputRoot.join file.path)) events := by
        simp [Compiled, hfile]
      refine (Javac.logs_locateAndCompile _ _).bind fun result events hevents => ?_
      obtain ⟨hall, hresult⟩ := hevents
      cases result with
      | ok _ => exact .pure (by simpa [hiff] using ⟨hall, hresult.1 rfl⟩)
      | error e =>
        have hnot : ¬ Compiled a generated events := fun h => by cases hresult.2 ((hiff _).1 h)
        exact .pure (by simpa using ⟨hall, hnot⟩)

end Session

end Flowchart
