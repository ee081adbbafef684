import Flowchart.Proofs.Builtins
import Flowchart.Script.Process

set_option autoImplicit false

/-! # Processes of scripts

What runs in a process of its own, a subshell or a command whose output is wanted, cannot touch the
script around it: not its variables, functions, options, descriptors and traps, and not the place
where its paths start. It cannot end the script's loops and functions either, only signals get out.
What remains of it are files, streams and a status. -/

namespace Flowchart

open Flowchart.Action (IsSafe Respects RespectsFrom isSafe_setStatus isSafe_fail isSafe_write)
open Shell (Becomes)

variable {α : Type} {again : Runner} {tested : Bool} {action : Action Unit}

/-- Running commands is safe. -/
def Runner.IsSafe (again : Runner) : Prop := ∀ tested c, Action.IsSafe (again tested c)

/-! ## Isolation -/

/-- A script without what other processes can change: files, streams, signals and statuses. -/
def Shell.script (s : Shell) : Shell :=
  { s with
    files := { FileTree.empty with current := s.files.current }
    streams := []
    nextStream := 0
    nextDocument := 0
    arrived := []
    sent := []
    status := 0
    jobs := [] }

/-- Only what other processes can change has changed. -/
def Shell.IsSameScript (s s' : Shell) : Prop := s'.script = s.script

namespace Shell.IsSameScript

instance : Std.Refl IsSameScript := ⟨fun _ => rfl⟩

instance : IsTrans Shell IsSameScript := ⟨fun _ _ _ h h' => Eq.trans h' h⟩

theorem writeStream (s : Shell) (number : Nat) (bytes : List Char) :
    s.IsSameScript (s.writeStream number bytes) := by
  have hcurrent : ∀ (t : FileTree) (place : Place) (contents : String),
      (t.setContents place contents).current = t.current := by
    intro t place contents
    unfold FileTree.setContents
    split <;> rfl
  unfold Shell.writeStream
  split
  · rfl
  · dsimp only
    split
    · simp [IsSameScript, script, setStream, hcurrent]
    · rfl
  · rfl

theorem descriptors_eq {s s' : Shell} (h : s.IsSameScript s') : s'.descriptors = s.descriptors := by
  have hscript : s'.script.descriptors = s.script.descriptors := congrArg Shell.descriptors h
  exact hscript

end Shell.IsSameScript

open Shell (IsSameScript)

theorem Shell.ignoresReports_isSameScript : IgnoresReports IsSameScript where
  writeStream := IsSameScript.writeStream
  changes _ _ _ _ _ := rfl

namespace Process

/-- What comes after a process of its own are only reports of it. -/
theorem respectsFrom_inChild_of {R : Shell → Shell → Prop} [Std.Refl R] [IsTrans Shell R]
    (hR : Shell.IgnoresReports R) {s : Shell} (h : RespectsFrom R s (Action.apart action)) :
    RespectsFrom R s (inChild action) := by
  have hafter := (Builtin.respects_learnEnd hR).then (Builtin.respects_receiveSent hR)
  have hstatus := fun n => (Action.respects_setStatus hR n).then hafter
  refine h.bind fun result => ?_
  split
  · exact .ite ((Action.respects_report hR _).then (hstatus _)) (hstatus _)
  · exact (Respects.pure ()).then hafter

/-- Whatever a process of its own does, the script around it is the same afterwards. -/
theorem respects_inChild (action : Action Unit) : Respects IsSameScript (inChild action) :=
  fun _ => respectsFrom_inChild_of Shell.ignoresReports_isSameScript rfl

theorem respectsFrom_inChild {s : Shell} (h : RespectsFrom Becomes s action) :
    RespectsFrom Becomes s (inChild action) :=
  respectsFrom_inChild_of Shell.ignoresReports_becomes (Action.respectsFrom_apart h)

end Process

/-! ## Interruptions -/

/-- An action is only interrupted by signals. -/
def Action.OnlyKilled (action : Action α) : Prop :=
  ∀ s e, (action.run s).1 = .error e → ∃ signal, e = .killed signal

namespace Action.OnlyKilled

variable {β : Type} {action : Action α} {next : α → Action β}

theorem of_ok (h : ∀ s, ∃ a, (action.run s).1 = .ok a) : OnlyKilled action := by
  intro s e he
  obtain ⟨a, ha⟩ := h s
  rw [ha] at he
  cases he

theorem pure (a : α) : OnlyKilled (Pure.pure a : Action α) := .of_ok fun _ => ⟨a, rfl⟩

theorem killed (signal : Nat) : OnlyKilled (throw (.killed signal) : Action α) := by
  intro s e he
  cases he
  exact ⟨signal, rfl⟩

theorem bind (h : OnlyKilled action) (hnext : ∀ a, OnlyKilled (next a)) :
    OnlyKilled (action >>= next) := by
  intro s e he
  rw [run_bind] at he
  rcases hresult : action.run s with ⟨⟨e'⟩ | ⟨a⟩, s'⟩
  · rw [hresult] at he
    cases he
    exact h s e (by rw [hresult])
  · rw [hresult] at he
    exact hnext a s' e he

theorem ite {c : Prop} [Decidable c] {other : Action α} (h : OnlyKilled action)
    (hother : OnlyKilled other) : OnlyKilled (if c then action else other) := by
  split
  · exact h
  · exact hother

theorem forM {l : List α} {f : α → Action Unit} (h : ∀ a, OnlyKilled (f a)) :
    OnlyKilled (l.forM f) := by
  induction l with
  | nil => exact .pure ()
  | cons a rest ih => exact (h a).bind fun _ => ih

theorem setStatus (status : Nat) : OnlyKilled (setStatus status) := .of_ok fun _ => ⟨(), rfl⟩

theorem report (line : String) : OnlyKilled (report line) := by
  refine .bind (.bind (.of_ok fun s => ⟨s, rfl⟩) fun s => ?_) fun _ => .pure ()
  split
  · exact .bind (.of_ok fun _ => ⟨(), rfl⟩) fun _ => .pure _
  · exact .pure _

end Action.OnlyKilled

open Flowchart.Action (OnlyKilled)

namespace Builtin

theorem onlyKilled_receive (signal : Nat) : OnlyKilled (receive signal) := by
  refine .bind (.of_ok fun s => ⟨s, rfl⟩) fun s => ?_
  dsimp only
  split
  · exact .ite (.killed _) (.ite (.pure ()) (.of_ok fun _ => ⟨(), rfl⟩))
  · exact .ite (.killed _) (.pure ())

theorem onlyKilled_learnEnd : OnlyKilled learnEnd :=
  .bind (.of_ok fun _ => ⟨(), rfl⟩) fun _ => .bind (.of_ok fun s => ⟨s, rfl⟩) fun _ =>
    .ite (.of_ok fun _ => ⟨(), rfl⟩) (.pure ())

theorem onlyKilled_receiveSent : OnlyKilled receiveSent :=
  .bind (.of_ok fun s => ⟨s, rfl⟩) fun _ => .bind (.of_ok fun _ => ⟨(), rfl⟩) fun _ =>
    .forM fun _ => onlyKilled_receive _

end Builtin

/-- However a process of its own ends, the script goes on, unless a signal ends that too. -/
theorem Process.onlyKilled_inChild (action : Action Unit) : OnlyKilled (inChild action) := by
  have hafter := Builtin.onlyKilled_learnEnd.bind fun _ => Builtin.onlyKilled_receiveSent
  have hstatus : ∀ n, OnlyKilled (do
      Action.setStatus n
      Builtin.learnEnd
      Builtin.receiveSent) := fun n => (OnlyKilled.setStatus n).bind fun _ => hafter
  refine .bind (.of_ok fun s => ⟨_, rfl⟩) fun result => ?_
  split
  · exact .ite ((OnlyKilled.report _).bind fun _ => hstatus _) (hstatus _)
  · exact (OnlyKilled.pure ()).bind fun _ => hafter

/-! ## Safety -/

namespace Process

section

variable (hagain : again.IsSafe)

include hagain

theorem isSafe_lines (tested : Bool) (fuel : Nat) (reader : ScriptReader) :
    IsSafe (lines again tested fuel reader) := by
  induction fuel generalizing reader with
  | zero => exact .pure _
  | succ fuel ih =>
    unfold lines
    refine .get fun s => ?_
    dsimp only
    split
    · exact Respects.then (.modify fun _ => .of_eq rfl rfl rfl rfl) (isSafe_fail _) s
    · have hrepeat : ∀ before after, IsSafe (repeatLines before after) := fun _ _ =>
        .get fun s => Respects.ite ((isSafe_write 2 _).bind fun _ => .pure _) (.pure _) s
      refine ((hrepeat _ _).then ?_) s
      split
      · exact .pure _
      · refine .then (.modify fun _ => .of_eq rfl rfl rfl rfl) ((hagain _ _).then ?_)
        exact (ih _).bind fun _ => .pure _

theorem isSafe_text (tested : Bool) (cs : List Char) : IsSafe (text again tested cs) :=
  (isSafe_lines hagain _ _ _).bind fun _ => .ite (isSafe_setStatus 0) (.pure _)

theorem isSafe_answerSignals (events : List String) : IsSafe (answerSignals again events) := by
  induction events with
  | nil => exact .pure _
  | cons event rest ih =>
    refine .get fun s => ?_
    dsimp only
    split
    · exact ((isSafe_text hagain _ _).then ((isSafe_setStatus _).then ih)) s
    · exact ((Respects.pure ()).then ih) s

theorem isSafe_answerArrived : IsSafe (answerArrived again) := by
  refine .get fun s => ?_
  split
  · refine .setThen (.of_eq rfl rfl rfl rfl) (((isSafe_answerSignals hagain _).then ?_) _)
    exact .modify fun _ => .of_eq rfl rfl rfl rfl
  · exact Respects.pure _ s

theorem isSafe_finish : IsSafe (finish again) := by
  refine .get fun s => ?_
  split
  · refine .setThen (.of_eq rfl rfl rfl rfl) ?_
    refine ((Respects.attempt (isSafe_text hagain _ _)).bind fun result => ?_) _
    split
    · exact .throw _
    · exact .pure _
    · exact .pure _
    · exact isSafe_setStatus _
  · exact Respects.pure _ s

theorem respectsFrom_toEnd {s : Shell} (h : RespectsFrom Becomes s action) :
    RespectsFrom Becomes s (toEnd again action) := by
  refine RespectsFrom.bind (RespectsFrom.attempt h) fun result => ?_
  split
  · exact .throw _
  · exact isSafe_finish hagain

theorem respectsFrom_inCopy {s : Shell} (h : RespectsFrom Becomes (copied s) action) :
    RespectsFrom Becomes s (inCopy again action) :=
  respectsFrom_inChild (.modifyThen (.of_eq rfl rfl rfl rfl) (respectsFrom_toEnd hagain h))

theorem isSafe_inCopy (h : IsSafe action) : IsSafe (inCopy again action) :=
  fun _ => respectsFrom_inCopy hagain (h _)

/-- The stream that takes the output of a command goes again. No descriptor of the script stands for
    it, since it came after all of them and a process of its own leaves them alone. -/
theorem isSafe_capture (c : ScriptCommand) : IsSafe (capture again c) := by
  intro s
  have hadded := s.becomes_addStream (.pipe [])
  -- what the child does between the coming and the going of the stream
  let child : Action Unit := inCopy again do
    modify fun s' => s'.setDescriptor 1 (some s.nextStream)
    again false c
  have hchild : RespectsFrom Becomes (s.addStream (.pipe [])).1 child := by
    refine respectsFrom_inCopy hagain (.modifyThen ?_ (hagain _ _ _))
    refine Shell.becomes_setDescriptor 1 fun _ n hn => ?_
    cases hn
    exact Shell.hasStream_addStream.2 (Or.inl rfl)
  have hsame : (child.run (s.addStream (.pipe [])).1).2.descriptors = s.descriptors :=
    IsSameScript.descriptors_eq (respects_inChild _ (s.addStream (.pipe [])).1)
  unfold RespectsFrom at hchild ⊢
  change s.Becomes ((child >>= _).run (s.addStream (.pipe [])).1).2
  rw [Action.run_bind]
  rcases hresult : child.run (s.addStream (.pipe [])).1 with ⟨⟨e⟩ | ⟨⟩, after⟩
  · rw [hresult] at hchild
    exact hadded.trans hchild
  · rw [hresult] at hchild hsame
    exact ((hadded.trans hchild).discard (Nat.le_refl _) hsame).trans (.of_eq rfl rfl rfl rfl)

end

end Process

end Flowchart
