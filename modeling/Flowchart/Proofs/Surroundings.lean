import Flowchart.CommandLine.Session
import Mathlib.Order.Defs.Unbundled

set_option autoImplicit false

/-! # Runs and their surroundings

A run does nothing to its surroundings but what it asks its host for. A relation that every
operation of the host respects, and that is reflexive and transitive, is therefore respected by a
whole run, whatever its arguments are and however it ends. -/

namespace Flowchart

variable {σ α β ε : Type} {R : σ → σ → Prop}

/-! ## Relations between states -/

/-- From every state of the surroundings, an action leads to a related one. -/
def Surroundings.Respects (R : σ → σ → Prop) (action : StateM σ α) : Prop :=
  ∀ s, R s (action.run s).2

open Surroundings (Respects)

/-- Every operation of a host leads from every state to a related one. -/
structure Host.Respects (R : σ → σ → Prop) (host : Host (StateM σ)) : Prop where
  readText : ∀ p, Surroundings.Respects R (host.readText p)
  isFile : ∀ p, Surroundings.Respects R (host.isFile p)
  pathExists : ∀ p, Surroundings.Respects R (host.pathExists p)
  makeDirectories : ∀ p, Surroundings.Respects R (host.makeDirectories p)
  writeFile : ∀ p contents, Surroundings.Respects R (host.writeFile p contents)
  removeTree : ∀ p, Surroundings.Respects R (host.removeTree p)
  launch : ∀ p arguments, Surroundings.Respects R (host.launch p arguments)

namespace Surroundings.Respects

theorem bind [IsTrans σ R] {action : StateM σ α} {next : α → StateM σ β} (h : Respects R action)
    (hnext : ∀ a, Respects R (next a)) : Respects R (action >>= next) :=
  fun s => IsTrans.trans _ _ _ (h s) (hnext _ _)

variable [Std.Refl R]

theorem pure (a : α) : Respects R (Pure.pure a : StateM σ α) := fun s => Std.Refl.refl s

/-- What comes next is left out after a failure. -/
theorem bindExcept [IsTrans σ R] {action : ExceptT ε (StateM σ) α}
    {next : α → ExceptT ε (StateM σ) β} (h : Respects R action.run)
    (hnext : ∀ a, Respects R (next a).run) : Respects R (action >>= next).run := by
  rw [ExceptT.run_bind]
  refine h.bind fun result => ?_
  cases result with
  | ok a => exact hnext a
  | error e => exact .pure _

end Surroundings.Respects

variable [Std.Refl R] [IsTrans σ R] {host : Host (StateM σ)} (h : host.Respects R)

include h

/-! ## Publishing -/

namespace Publisher

omit h in
theorem respects_onPath (path : Path) {action : StateM σ (Except String α)}
    (haction : Respects R action) : Respects R (onPath path action).run := by
  refine haction.bind fun result => ?_
  cases result with
  | ok a => exact .pure _
  | error reason => exact .pure _

variable (publisher : Publisher)

theorem respects_removeOld (name : String) : Respects R (publisher.removeOld host name).run := by
  have hnothing : Respects R (pure () : ExceptT IoFailure (StateM σ) Unit).run := .pure _
  have hexists : ∀ p, Respects R
      (liftM (host.pathExists p) : ExceptT IoFailure (StateM σ) Bool).run :=
    fun p => (h.pathExists p).bind fun _ => .pure _
  unfold removeOld
  dsimp only
  split
  · refine (hexists _).bindExcept fun isThere => ?_
    cases isThere with
    | true => exact respects_onPath _ (h.removeTree _)
    | false => exact hnothing
  · exact hnothing

theorem respects_makeAll (directories : List Path) :
    Respects R (publisher.makeAll host directories).run := by
  induction directories with
  | nil => exact .pure _
  | cons directory rest ih => exact (respects_onPath _ (h.makeDirectories _)).bindExcept fun _ => ih

theorem respects_writeOne (file : GeneratedFile) :
    Respects R (publisher.writeOne host file).run := by
  have hwrite : Respects R (do
      onPath (publisher.root.join file.path)
        (host.writeFile (publisher.root.join file.path) file.contents)
      return publisher.root.join file.path : ExceptT IoFailure (StateM σ) Path).run :=
    (respects_onPath _ (h.writeFile _ _)).bindExcept fun _ => .pure _
  unfold writeOne
  dsimp only
  split
  · exact (respects_onPath _ (h.makeDirectories _)).bindExcept fun _ => hwrite
  · exact hwrite

theorem respects_writeAll (files : List GeneratedFile) :
    Respects R (publisher.writeAll host files).run := by
  induction files with
  | nil => exact .pure _
  | cons file rest ih =>
    exact (respects_writeOne h publisher file).bindExcept fun _ => ih.bindExcept fun _ => .pure _

theorem respects_publish (project : GeneratedProject) :
    Respects R (publisher.publish host project).run :=
  (respects_removeOld h publisher _).bindExcept fun _ =>
    (respects_makeAll h publisher _).bindExcept fun _ => respects_writeAll h publisher _

end Publisher

/-! ## Compiling -/

namespace Javac

theorem respects_search (directories : List Path) : Respects R (search host directories) := by
  induction directories with
  | nil => exact .pure _
  | cons directory rest ih =>
    refine (h.isFile _).bind fun found => ?_
    cases found with
    | true => exact .pure _
    | false => exact ih

theorem respects_locateAndCompile (classPath source : Path) :
    Respects R (locateAndCompile host classPath source) := by
  refine (respects_search h _).bind fun found => ?_
  cases found with
  | some j => exact (h.launch _ _).bind fun _ => .pure _
  | none => exact .pure _

end Javac

/-! ## Runs -/

namespace Session

theorem respects_loadProject (path : Path) : Respects R (loadProject host path) := by
  refine (h.readText path).bind fun result => ?_
  split
  · exact .pure _
  · split
    · exact .pure _
    · split
      · exact .pure _
      · exact .pure _

theorem respects_compileEntry (a : Arguments) (generated : GeneratedProject) :
    Respects R (compileEntry host a generated) := by
  unfold compileEntry
  split
  · split
    · exact .pure _
    · refine (Javac.respects_locateAndCompile h _ _).bind fun result => ?_
      split
      · exact .pure _
      · exact .pure _
  · exact .pure _

theorem respects_runWith (a : Arguments) : Respects R (runWith host a) := by
  unfold runWith
  split
  · exact .pure _
  · refine (respects_loadProject h _).bind fun loaded => ?_
    split
    · exact .pure _
    · split
      · exact .pure _
      · refine (Publisher.respects_publish h _ _).bind fun published => ?_
        split
        · exact .pure _
        · refine (respects_compileEntry h _ _).bind fun compiled => ?_
          split
          · exact .pure _
          · exact .pure _

/-- A run leads to a state of the surroundings that is related to the one it started from, if every
    operation of the host does. -/
theorem respects_run (arguments : List String) : Respects R (run host arguments) := by
  unfold run
  split
  · exact respects_runWith h _
  · exact .pure _
  · exact .pure _
  · exact .pure _

end Session

end Flowchart
