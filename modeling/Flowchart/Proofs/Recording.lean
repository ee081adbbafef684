import Flowchart.Workspace.Host

set_option autoImplicit false

/-! # Recorded runs

What a run does to its surroundings is what it asks its host for. A host that writes a log of every
question and its answer shows that log beside the outcome. The run on it is compared with the run on
the host itself, one step after the other: both have the same outcome and leave the same
surroundings, and the log says what happened in between. -/

namespace Flowchart

/-! ## Events -/

/-- An operation of a host with its answer. -/
inductive HostEvent where
  | readText (path : Path) (answer : Except String String)
  | isFile (path : Path) (answer : Bool)
  | pathExists (path : Path) (answer : Bool)
  | makeDirectories (path : Path) (answer : Except String Unit)
  | writeFile (path : Path) (contents : String) (answer : Except String Unit)
  | removeTree (path : Path) (answer : Except String Unit)
  | launch (program : Path) (arguments : List String) (answer : Except String ProgramResult)

/-- Whether files or directories may be created, changed or deleted. -/
def HostEvent.changes : HostEvent → Bool
  | .readText .. | .isFile .. | .pathExists .. => false
  | .makeDirectories .. | .writeFile .. | .removeTree .. | .launch .. => true

variable {σ α β ε : Type}

/-- What is done while a log is written. -/
abbrev Logged (σ : Type) := StateT (List HostEvent) (StateM σ)

/-- Does something and logs it with its answer. -/
def logged (event : α → HostEvent) (action : StateM σ α) : Logged σ α := do
  let answer ← action
  modify (· ++ [event answer])
  return answer

namespace Host

/-- The host that logs everything it is asked for. -/
def recorded (host : Host (StateM σ)) : Host (Logged σ) where
  readText p := logged (.readText p) (host.readText p)
  isFile p := logged (.isFile p) (host.isFile p)
  pathExists p := logged (.pathExists p) (host.pathExists p)
  makeDirectories p := logged (.makeDirectories p) (host.makeDirectories p)
  writeFile p contents := logged (.writeFile p contents) (host.writeFile p contents)
  removeTree p := logged (.removeTree p) (host.removeTree p)
  launch p arguments := logged (.launch p arguments) (host.launch p arguments)
  searchPath := host.searchPath

/-- Looking at files and directories does not change them. -/
structure LooksOnly (host : Host (StateM σ)) : Prop where
  readText : ∀ path s, ((host.readText path).run s).2 = s
  isFile : ∀ path s, ((host.isFile path).run s).2 = s
  pathExists : ∀ path s, ((host.pathExists path).run s).2 = s

end Host

/-! ## Comparing runs -/

/-- A recorded run does the same as the run itself and logs some more events; nothing changes if
    none of these events changes anything. `P` is what is known of the outcome and these events. -/
def Records (host : Host (StateM σ)) (recorded : Logged σ α) (plain : StateM σ α)
    (P : α → List HostEvent → Prop) : Prop :=
  ∀ s log, ∃ a events s', plain.run s = (a, s') ∧ (recorded.run log).run s = ((a, log ++ events), s')
    ∧ (host.LooksOnly → (∀ e ∈ events, e.changes = false) → s' = s) ∧ P a events

namespace Records

variable {host : Host (StateM σ)} {x : Logged σ α} {y : StateM σ α} {P Q : α → List HostEvent → Prop}
  {R : β → List HostEvent → Prop}

theorem mono (h : Records host x y P) (hPQ : ∀ a events, P a events → Q a events) :
    Records host x y Q := by
  intro s log
  obtain ⟨a, events, s', hy, hx, hquiet, hP⟩ := h s log
  exact ⟨a, events, s', hy, hx, hquiet, hPQ a events hP⟩

theorem pure {a : α} (h : P a []) :
    Records host (Pure.pure a : Logged σ α) (Pure.pure a : StateM σ α) P :=
  fun s log => ⟨a, [], s, rfl, by rw [List.append_nil]; rfl, fun _ _ => rfl, h⟩

theorem bind (h : Records host x y P) {f : α → Logged σ β} {g : α → StateM σ β}
    (hnext : ∀ a events, P a events →
      Records host (f a) (g a) fun b more => R b (events ++ more)) :
    Records host (x >>= f) (y >>= g) R := by
  intro s log
  obtain ⟨a, events, s', hy, hx, hquiet, hP⟩ := h s log
  obtain ⟨b, more, s'', hg, hf, hquiet', hR⟩ := hnext a events hP s' (log ++ events)
  refine ⟨b, events ++ more, s'', ?_, ?_, ?_, hR⟩
  · rw [StateT.run_bind, hy]
    exact hg
  · rw [StateT.run_bind, StateT.run_bind, hx, ← List.append_assoc]
    exact hf
  · intro hlooks hall
    have hfirst := hquiet hlooks fun e he => hall e (List.mem_append_left _ he)
    have hsecond := hquiet' hlooks fun e he => hall e (List.mem_append_right _ he)
    rw [hsecond, hfirst]

/-- A step that cannot fail, where others can. -/
theorem lift {P : Except ε α → List HostEvent → Prop}
    (h : Records host x y fun a events => P (.ok a) events) :
    Records host (liftM x : ExceptT ε (Logged σ) α).run (liftM y : ExceptT ε (StateM σ) α).run
      P := by
  intro s log
  obtain ⟨a, events, s', hy, hx, hquiet, hP⟩ := h s log
  refine ⟨.ok a, events, s', ?_, ?_, hquiet, hP⟩
  · show (Except.ok <$> y).run s = _
    rw [StateT.run_map, hy]
    rfl
  · show ((Except.ok <$> x).run log).run s = _
    rw [StateT.run_map, StateT.run_map, hx]
    rfl

/-- After a first step that may fail. -/
theorem bindExcept {x : ExceptT ε (Logged σ) α} {y : ExceptT ε (StateM σ) α}
    {P : Except ε α → List HostEvent → Prop} {R : Except ε β → List HostEvent → Prop}
    (h : Records host x.run y.run P) {f : α → ExceptT ε (Logged σ) β} {g : α → ExceptT ε (StateM σ) β}
    (hok : ∀ a events, P (.ok a) events →
      Records host (f a).run (g a).run fun b more => R b (events ++ more))
    (herror : ∀ e events, P (.error e) events → R (.error e) events) :
    Records host (x >>= f).run (y >>= g).run R := by
  rw [ExceptT.run_bind, ExceptT.run_bind]
  refine h.bind fun result events hresult => ?_
  cases result with
  | ok a => exact hok a events hresult
  | error e => exact .pure (by simpa using herror e events hresult)

/-- An operation that is logged. -/
theorem logged {event : α → HostEvent} {action : StateM σ α}
    (hlooks : host.LooksOnly → ∀ s, (event (action.run s).1).changes = false → (action.run s).2 = s) :
    Records host (Flowchart.logged event action) action fun a events => events = [event a] := by
  intro s log
  refine ⟨(action.run s).1, [event (action.run s).1], (action.run s).2, rfl, rfl, ?_, rfl⟩
  exact fun hhost hall => hlooks hhost s (hall _ (List.mem_singleton_self _))

end Records

end Flowchart
