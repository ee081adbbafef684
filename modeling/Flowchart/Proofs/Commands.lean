import Flowchart.Proofs.Processes
import Flowchart.Script.Running

set_option autoImplicit false

/-! # Commands are safe

One lemma for each way of running a command, under the assumption that running the commands in it is
safe; by induction on the fuel, all commands are. What runs in a process of its own, and what is
written in a function, a loop or with other descriptors, is no exception. -/

namespace Flowchart

open Flowchart.Action (IsSafe Respects RespectsFrom isSafe_setStatus isSafe_fail isSafe_complain)
open Shell (Becomes)

variable {again : Runner} {capture : Expansion.Capture} {action : Action Unit}

/-! ## Redirections -/

namespace Redirecting

theorem isSafe_openStream (d : Nat) (stream : Stream) : IsSafe (openStream d stream) := by
  refine .modify fun s => (s.becomes_addStream stream).trans ?_
  refine Shell.becomes_setDescriptor d fun _ n hn => ?_
  cases hn
  exact Shell.hasStream_addStream.2 (Or.inl rfl)

theorem isSafe_openInput (d : Nat) (name : String) : IsSafe (openInput d name) := by
  refine .get fun s => ?_
  split
  · exact isSafe_openStream _ _ s
  · exact isSafe_openStream _ _ s
  · exact isSafe_fail _ s

/-- A file that is opened for writing is created in the directory that its path leads to. -/
theorem isSafe_openOutput (d : Nat) (mode : OpenMode) (name : String) :
    IsSafe (openOutput d mode name) := by
  refine .get fun s => ?_
  dsimp only
  split
  · exact isSafe_fail _ s
  · next place htarget =>
    have hcreated : RespectsFrom Becomes s (do
        modify fun s => { s with files := s.files.setContents place "" }
        openStream d (.file place 0 (mode = .append))) :=
      RespectsFrom.modifyThen (.withFiles (FileTree.evolves_setContents_of_target htarget ""))
        (isSafe_openStream _ _ _)
    refine .ite (isSafe_openStream _ _ s) (.ite (isSafe_fail _ s) ?_)
    exact .ite hcreated (isSafe_openStream _ _ s)

theorem isSafe_copyDescriptor (stay : Bool) (d source : Nat) (shown : String) :
    IsSafe (copyDescriptor stay d source shown) := by
  refine .get fun s => ?_
  split
  · next number hlookup =>
    refine .modify (Shell.becomes_setDescriptor d fun hs n hn => ?_)
    cases hn
    obtain ⟨stream, hstream⟩ := hs.exists_stream hlookup
    obtain ⟨front, rest, heq, -⟩ := List.lookup_eq_some_iff.1 hlookup
    exact hs.descriptors source number (by simp [heq])
  · refine Respects.ite (.then ?_ (isSafe_fail _)) (isSafe_fail _) s
    exact .modify fun s => Shell.becomes_setDescriptor d fun _ n hn => by cases hn

theorem Resolved.isSafe_carryOut (stay : Bool) (r : Resolved) : IsSafe (r.carryOut stay) := by
  unfold carryOut
  split
  · split
    · refine .get fun s => ?_
      refine Respects.ite (isSafe_copyDescriptor _ _ _ _) ?_ s
      exact .ite (isSafe_openInput _ _) (isSafe_openOutput _ _ _)
    · exact .ite (isSafe_openInput _ _) (isSafe_openOutput _ _ _)
  · split
    · exact .modify fun s => Shell.becomes_setDescriptor _ fun _ n hn => by cases hn
    · exact .ite (isSafe_copyDescriptor _ _ _ _) (isSafe_fail _)
    · exact isSafe_fail _
  · exact isSafe_openStream _ _

theorem isSafe_resolve (hcapture : ∀ c, IsSafe (capture c)) (r : Redirection) :
    IsSafe (resolve capture r) := by
  unfold resolve
  split
  · exact (Expansion.isSafe_text hcapture _).bind fun _ => .pure _
  · exact (Expansion.isSafe_text hcapture _).bind fun _ => .pure _
  · exact .get fun s => ((Expansion.isSafe_document hcapture _).bind fun _ => .pure _) s

/-- The streams that descriptors stood for are still there when the descriptors are given back their
    old meaning. -/
theorem becomes_restore {before s : Shell} (changed : List Nat) (h : before.Becomes s) :
    before.Becomes (restore before changed s) := by
  unfold restore
  induction changed generalizing s with
  | nil => exact h
  | cons d rest ih =>
    refine ih { h with isConsistent := fun hbefore => ?_ }
    have hs := h.isConsistent hbefore
    refine (Shell.becomes_setDescriptor d fun _ n hn => ?_).isConsistent hs
    obtain ⟨front, rest, heq, -⟩ := List.lookup_eq_some_iff.1 hn
    have hin := hbefore.descriptors d n (by simp [heq])
    exact h.hasStream n (hbefore.streams n hin) hin

theorem isSafe_during (hcapture : ∀ c, IsSafe (capture c)) (redirections : List Redirection)
    (stay : Bool) {failed : Action Unit} (hfailed : IsSafe failed) (haction : IsSafe action) :
    IsSafe (during capture redirections stay failed action) := by
  refine (Respects.mapM fun _ => isSafe_resolve hcapture _).bind fun resolved => .get fun s => ?_
  dsimp only
  have hback : ∀ {s'} {rest : Action Unit}, IsSafe rest → s.Becomes s' →
      s.Becomes ((modify (restore s (resolved.map (·.descriptor))) >>= fun _ => rest).run s').2 :=
    fun hrest hs' => (becomes_restore _ hs').trans (hrest _)
  refine RespectsFrom.bindWithin (Respects.attempt (.forM fun _ => Resolved.isSafe_carryOut _ _) s)
    fun result s' hs' => ?_
  split
  · exact hback ((isSafe_setStatus 2).then hfailed) hs'
  · exact hs'
  · refine Action.holds_run_bind (hs'.trans (haction s')) fun result s'' hs'' => ?_
    split
    · exact hback (.resume result) hs''
    · exact hs''

end Redirecting

/-! ## Programs -/

namespace Launching

theorem isSafe_readShellOptions (fuel : Nat) (source : ScriptSource) (words : List String) :
    IsSafe (readShellOptions fuel source words) := by
  induction fuel generalizing source words with
  | zero => exact .pure _
  | succ fuel ih =>
    unfold readShellOptions
    split
    · exact .pure _
    · split
      · exact .pure _
      · exact .pure _
      · refine .ite ?_ (.pure _)
        exact (Builtin.isSafe_switchAll _ _ _).bind fun _ => ih _ _
      · exact .pure _

theorem isSafe_setVariables (words : List String) : IsSafe (setVariables words) := by
  induction words with
  | nil => exact .pure _
  | cons word rest ih =>
    unfold setVariables
    split
    · exact .then (.modify fun s => s.becomes_setBinding _ _) ih
    · exact .pure _

theorem isSafe_complainOf (word : String) (e : FileError) : IsSafe (complainOf word e) :=
  (Program.isSafe_complain _).then
    (.ite ((Program.isSafe_complain _).then (isSafe_setStatus _)) (isSafe_setStatus _))

section

variable (hagain : again.IsSafe)

include hagain

/-- A shell starts anew, but with the files, streams and descriptors of the process it starts in. -/
theorem isSafe_shell (called : String) (words : List String) :
    IsSafe (shell again called words) := by
  have hbegin : ∀ (name : String) (arguments : List String) {rest : Action Unit}, IsSafe rest →
      IsSafe ((modify fun s => { s with name, arguments }) >>= fun _ => rest) :=
    fun _ _ _ => .then (.modify fun _ => .of_eq rfl rfl rfl rfl)
  refine .then (.modify fun _ => .of_eq rfl rfl rfl rfl) fun s => ?_
  refine Process.respectsFrom_toEnd hagain ?_
  refine (isSafe_readShellOptions _ _ _).bind (fun ⟨source, rest⟩ => ?_) s
  dsimp only
  split
  · exact hbegin _ _ (Process.isSafe_text hagain _ _)
  · exact isSafe_fail _
  · exact hbegin _ _ (Program.isSafe_takeInput.bind fun _ => Process.isSafe_text hagain _ _)
  · exact Program.isSafe_takeInput.bind fun _ => Process.isSafe_text hagain _ _
  · refine .get fun s => ?_
    split
    · exact hbegin _ _ (Process.isSafe_text hagain _ _) s
    · exact isSafe_fail _ s

omit hagain in
theorem isSafe_startWords {start : Executable → Action Unit} (hstart : ∀ e, IsSafe (start e))
    (words : List String) : IsSafe (startWords start words) := by
  refine (isSafe_setVariables _).bind fun words => ?_
  split
  · exact isSafe_setStatus 0
  · refine .get fun s => ?_
    split
    · exact hstart _ s
    · exact isSafe_complainOf _ _ s

/-- Whichever program runs in place of a process, and whichever programs it hands on to. -/
theorem isSafe_become (fuel : Nat) (e : Executable) : IsSafe (become again fuel e) := by
  induction fuel generalizing e with
  | zero => exact .throw _
  | succ fuel ih =>
    have hwords := isSafe_startWords ih (splitWords e.arguments)
    unfold become
    refine .ite (isSafe_shell hagain _ _) (.then (.modify fun _ => .of_eq rfl rfl rfl rfl) ?_)
    refine .ite ?_ ?_
    · split
      · split
        · exact .ite (Program.isSafe_misuse _ _) ((Respects.pure ()).then hwords)
        · exact (Respects.pure ()).then hwords
      · exact (Respects.pure ()).then hwords
    · split
      · next hsimple =>
        exact fun _ => Process.respectsFrom_toEnd hagain (Program.isSafe_of_simple? hsimple _)
      · exact isSafe_setStatus _

theorem isSafe_runApart (e : Executable) : IsSafe (runApart again e) := fun _ =>
  Process.respectsFrom_inChild
    (.modifyThen (.of_eq rfl rfl rfl rfl) (isSafe_become hagain _ e _))

theorem isSafe_call (name : String) (arguments : List String) :
    IsSafe (call again name arguments) := by
  refine .get fun s => ?_
  split
  · exact ((isSafe_complain _).then (isSafe_setStatus _)) s
  · split
    · exact isSafe_runApart hagain _ s
    · exact ((isSafe_complain _).then (isSafe_setStatus _)) s

theorem isSafe_replace (name : String) (arguments : List String) :
    IsSafe (replace again name arguments) := by
  refine .get fun s => ?_
  split
  · refine ((isSafe_become hagain _ _).then (.then ?_ (.throw _))) s
    exact .modify fun _ => .of_eq rfl rfl rfl rfl
  · exact ((isSafe_complain _).then ((isSafe_setStatus _).then (.throw _))) s

end

end Launching

/-! ## Calls -/

namespace Running

theorem isSafe_sourcePath (word : String) : IsSafe (sourcePath word) := by
  refine .ite (.pure _) (.get fun s => ?_)
  dsimp only
  split
  · exact Respects.pure _ s
  · exact isSafe_fail _ s

theorem isSafe_describe (verbose : Bool) (name : String) : IsSafe (describe verbose name) := by
  refine .get fun s => ?_
  have htell : ∀ text, IsSafe (Builtin.emit "command" text) := Builtin.isSafe_emit _
  dsimp only
  refine .ite (htell _ s) ?_
  split
  · exact htell _ s
  · refine .ite (htell _ s) (.ite (htell _ s) (.ite (htell _ s) ?_))
    split
    · exact htell _ s
    · exact Respects.ite ((htell _).then (isSafe_setStatus _)) (isSafe_setStatus _) s

theorem isSafe_expandWords (hcapture : ∀ c, IsSafe (capture c)) (before : List String)
    (words : List ScriptWord) : IsSafe (expandWords capture before words) := by
  induction words generalizing before with
  | nil => exact .pure _
  | cons w rest ih =>
    unfold expandWords
    dsimp only
    split
    · refine (Expansion.isSafe_assigned hcapture _).bind fun _ => ?_
      exact (Respects.pure _).bind fun _ => ih _
    · exact (Expansion.isSafe_fields hcapture _).bind fun _ => ih _

theorem isSafe_assignAll (hcapture : ∀ c, IsSafe (capture c)) (exports : Bool)
    (assignments : List (String × ScriptWord)) :
    IsSafe (assignAll capture exports assignments) := by
  induction assignments with
  | nil => exact .pure _
  | cons a rest ih =>
    have hrest : ∀ f : List String → List String, IsSafe (do
        return f (← assignAll capture exports rest)) := fun _ => ih.bind fun _ => .pure _
    refine (Expansion.isSafe_assigned hcapture _).bind fun _ => (Action.isSafe_assign _ _).then ?_
    exact .ite (.then (.modify fun s => s.becomes_setBinding _ _) (hrest _)) (hrest _)

theorem isSafe_trace (before : Shell) (words : List String) : IsSafe (trace before words) := by
  refine .get fun s => .ite ?_ (Respects.pure _ s)
  dsimp only
  split
  · exact .modify (s.becomes_writeStream _ _)
  · exact Respects.pure _ s

theorem isSafe_contain (isSpecial : Bool) (h : IsSafe action) :
    IsSafe (contain isSpecial action) := by
  refine (Respects.attempt h).bind fun result => ?_
  split
  · exact .ite (.throw _) (.pure _)
  · exact .resume _

theorem isSafe_checkFailure (tested : Bool) : IsSafe (checkFailure tested) :=
  .get fun s => Respects.ite (.throw _) (.pure _) s

theorem isSafe_round (h : IsSafe action) : IsSafe (round action) := by
  refine .get fun s => ?_
  refine (Respects.then (.modify fun _ => .of_eq rfl rfl rfl rfl) ?_) s
  refine (Respects.attempt h).bind fun result => .then (.modify fun _ => .of_eq rfl rfl rfl rfl) ?_
  split
  · exact .pure _
  · exact .ite (.pure _) (.throw _)
  · exact .ite (.pure _) (.throw _)
  · exact .throw _

theorem isSafe_findCase (hcapture : ∀ c, IsSafe (capture c)) (subject : String)
    (cases : List (List ScriptWord × ScriptCommand)) : IsSafe (findCase capture subject cases) := by
  induction cases with
  | nil => exact .pure _
  | cons first rest ih =>
    have hany : ∀ patterns : List ScriptWord, IsSafe (patterns.anyM fun w => do
        return Glob.isMatch (← Expansion.pattern capture w) subject.toList) := by
      intro patterns
      induction patterns with
      | nil => exact .pure _
      | cons w patterns ihp =>
        refine .bind ((Expansion.isSafe_pattern hcapture w).bind fun _ => .pure _) fun found => ?_
        cases found with
        | true => exact .pure _
        | false => exact ihp
    exact (hany _).bind fun _ => .ite (.pure _) ih

section

variable (hagain : again.IsSafe)

include hagain

omit hagain in
/-- What the variables of a function were before is no matter of files and streams. -/
theorem isSafe_untilReturn (before : Shell) (h : IsSafe action) :
    IsSafe (untilReturn before action) := by
  refine (Respects.attempt h).bind fun result => .then (.modify fun s => ?_) ?_
  · exact (Shell.becomes_setBindings Prod.fst Prod.snd s.saved s).trans (.of_eq rfl rfl rfl rfl)
  · split
    · exact .pure _
    · exact .resume _

theorem isSafe_callFunction (tested : Bool) (body : ScriptCommand) (arguments : List String) :
    IsSafe (callFunction again tested body arguments) := by
  refine .get fun s => ?_
  split
  · rw [Action.fail_bind]
    exact isSafe_fail _ s
  · exact .setThen (.of_eq rfl rfl rfl rfl) (isSafe_untilReturn _ (hagain _ _) _)

theorem isSafe_source (words : List String) : IsSafe (source again words) := by
  refine (Builtin.isSafe_letters _ _).bind fun ⟨_, rest⟩ => ?_
  dsimp only
  split
  · exact isSafe_setStatus 0
  · refine (isSafe_sourcePath _).bind fun path => .get fun s => ?_
    split
    · exact isSafe_fail _ s
    · refine (Respects.then (.modify fun _ => .of_eq rfl rfl rfl rfl) (.get fun s => ?_)) s
      refine ((Process.isSafe_text hagain _ _).attempt.bind fun result => ?_) s
      split
      · exact .pure _
      · exact .resume _

omit hagain in
theorem isSafe_asSource (name : String) (h : IsSafe action) : IsSafe (asSource name action) := by
  refine .get fun s => .setThen (.of_eq rfl rfl rfl rfl) ?_
  refine (h.attempt.bind fun result => .then ?_ (.resume result)) _
  exact .modify fun _ => .of_eq rfl rfl rfl rfl

theorem isSafe_of_builtin? {tested : Bool} {name : String} {words : List String}
    (h : builtin? again tested name words = some action) : IsSafe action := by
  unfold builtin? at h
  split at h
  · cases h
    exact Process.isSafe_text hagain _ _
  · cases h
    exact isSafe_source hagain _
  · cases h
    split
    · exact isSafe_setStatus 0
    · exact Launching.isSafe_replace hagain _ _
  · cases h
    exact (isSafe_setStatus 0).then (.forM fun _ => isSafe_describe _ _)
  · exact Builtin.isSafe_of_simple? h

theorem isSafe_callNamed (tested functions : Bool) (name : String) (words : List String) :
    IsSafe (callNamed again tested functions name words) := by
  refine .get fun s => ?_
  dsimp only
  split
  · exact isSafe_callFunction hagain _ _ _ s
  · split
    · next hbuiltin => exact isSafe_asSource _ (isSafe_of_builtin? hagain hbuiltin) s
    · exact Launching.isSafe_call hagain _ _ s

theorem isSafe_callWords (tested : Bool) (words : List String) :
    IsSafe (callWords again tested words) := by
  unfold callWords
  split
  · exact isSafe_setStatus 0
  · refine isSafe_asSource _ ?_
    refine (Builtin.isSafe_letters _ _).bind fun _ => (isSafe_setStatus 0).then ?_
    exact .forM fun _ => isSafe_describe _ _
  · exact isSafe_setStatus 0
  · exact isSafe_callNamed hagain _ _ _ _

theorem isSafe_runWords (tested : Bool) (assignments : List (String × ScriptWord))
    (words : List String) (earlier : List (String × Binding)) :
    IsSafe (runWords again tested assignments words earlier) := by
  have hcall := isSafe_callWords hagain tested words
  refine .ite (.get fun s => isSafe_setStatus _ s) ?_
  refine (Respects.attempt (.ite (isSafe_contain _ hcall) hcall)).bind fun _ => ?_
  refine .ite (.then (.modify fun s => ?_) (.resume _)) (.resume _)
  exact s.becomes_setBindings Prod.fst (fun a => earlier.lookup a.1) assignments

theorem isSafe_simple (tested : Bool) (line : Nat) (assignments : List (String × ScriptWord))
    (words : List ScriptWord) (redirections : List Redirection) :
    IsSafe (simple again tested line assignments words redirections) := by
  have hcapture := Process.isSafe_capture hagain
  refine .then (.modify fun _ => .of_eq rfl rfl rfl rfl) ?_
  refine (isSafe_expandWords hcapture _ _).bind fun words => .get fun before => ?_
  refine Redirecting.isSafe_during hcapture _ _ (.ite (.throw _) (.pure _)) (.get fun s => ?_) _
  have hlast := isSafe_runWords hagain tested assignments words s.bindings
  refine ((isSafe_assignAll hcapture _ _).bind fun told => ?_) s
  exact .ite ((isSafe_trace _ _).then hlast) hlast

theorem isSafe_repeatWhile (tested outcome : Bool) (condition body : ScriptCommand)
    (fuel last : Nat) :
    IsSafe (repeatWhile again tested outcome condition body fuel last) := by
  induction fuel generalizing last with
  | zero => exact .throw _
  | succ fuel ih =>
    refine (isSafe_round (hagain _ _)).bind fun result => ?_
    cases result with
    | left => exact isSafe_setStatus _
    | skipped => exact ih _
    | finished =>
      refine .get fun s => Respects.ite (isSafe_setStatus _) ?_ s
      refine (isSafe_round (hagain _ _)).bind fun result => ?_
      split
      · exact .pure _
      · exact .get fun s => ih _ s

theorem isSafe_forEach (tested : Bool) (name : String) (body : ScriptCommand)
    (values : List String) : IsSafe (forEach again tested name body values) := by
  induction values with
  | nil => exact .pure _
  | cons value rest ih =>
    refine (Action.isSafe_assign _ _).then ((isSafe_round (hagain _ _)).bind fun result => ?_)
    split
    · exact .pure _
    · exact ih

omit hagain in
theorem respectsFrom_withInput {input : Option Nat} {s : Shell}
    (hinput : ∀ n ∈ input, s.HasStream n)
    (h : ∀ s', s.Becomes s' → RespectsFrom Becomes s' action) :
    RespectsFrom Becomes s (withInput input action) := by
  unfold withInput
  split
  · next number =>
    have hset := Shell.becomes_setDescriptor (s := s) 0 fun _ => hinput
    exact .modifyThen hset (h _ hset)
  · exact h _ .refl

/-- The next command of a pipe finds the stream that it reads from, since nothing takes away streams
    that were there before. -/
theorem respectsFrom_pipeline (tested : Bool) (input : Option Nat) (stages : List ScriptCommand)
    {s : Shell} (hinput : ∀ n ∈ input, s.HasStream n ∧ n < s.nextStream) :
    RespectsFrom Becomes s (pipeline again tested input stages) := by
  induction stages generalizing s input with
  | nil => exact Respects.pure _ s
  | cons c rest ih =>
    cases rest with
    | nil =>
      unfold pipeline
      refine Process.respectsFrom_inCopy hagain ?_
      exact respectsFrom_withInput (fun n hn => (hinput n hn).1) fun _ _ => hagain _ _ _
    | cons c' rest =>
      unfold pipeline
      refine .get (.get ?_)
      have hadded := s.becomes_addStream (.pipe [])
      have hnew : (s.addStream (.pipe [])).1.HasStream s.nextStream :=
        Shell.hasStream_addStream.2 (Or.inl rfl)
      have hlt : s.nextStream < (s.addStream (.pipe [])).1.nextStream := Nat.lt_succ_self _
      refine .setThen hadded (RespectsFrom.bindWithin ?_ fun _ s' hs' => ?_)
      -- The new stream is there before the first command writes to it, and stays until the next
      -- one reads from it.
      · refine Process.respectsFrom_inCopy hagain (respectsFrom_withInput ?_ fun s'' hs'' => ?_)
        · exact fun n hn => hadded.hasStream n (hinput n hn).2 (hinput n hn).1
        · refine .modifyThen (Shell.becomes_setDescriptor 1 fun _ n hn => ?_) (hagain _ _ _)
          cases hn
          exact hs''.hasStream _ hlt hnew
      · refine hs'.trans ((RespectsFrom.modifyThen (.of_eq rfl rfl rfl rfl) (ih _ fun n hn => ?_)))
        cases hn
        exact ⟨hs'.hasStream _ hlt hnew, Nat.lt_of_lt_of_le hlt hs'.nextStream_le⟩

theorem isSafe_background (c : ScriptCommand) : IsSafe (background again c) := by
  intro s
  refine (Action.respectsFrom_apart (.modifyThen (.of_eq rfl rfl rfl rfl) ?_)).bind fun result => ?_
  · refine Process.respectsFrom_toEnd hagain ?_
    exact ((Redirecting.isSafe_openStream _ _).then (hagain _ _)) _
  · refine .get fun s => ?_
    dsimp only
    exact .setThen (.of_le rfl rfl (Nat.le_succ _) rfl)
      (Builtin.respects_receiveSent Shell.ignoresReports_becomes _)

/-! ## Commands -/

/-- What a command does is safe if what the commands in it do is. -/
theorem isSafe_step (limit : Nat) (tested : Bool) (c : ScriptCommand) :
    IsSafe (step again limit tested c) := by
  have hcapture := Process.isSafe_capture hagain
  -- Whatever command it was, signals that have arrived are answered at its end.
  have hend := Process.isSafe_answerArrived hagain
  have hchecked : IsSafe (do
      checkFailure tested
      Process.answerArrived again) := (isSafe_checkFailure tested).then hend
  have hagainEnd : ∀ tested c, IsSafe (do
      again tested c
      Process.answerArrived again) := fun tested c => (hagain tested c).then hend
  have hstatusEnd : ∀ status, IsSafe (do
      Action.setStatus status
      Process.answerArrived again) := fun status => (isSafe_setStatus status).then hend
  have hline : ∀ (line : Nat) {next : Action Unit}, IsSafe next → IsSafe (do
      modify fun s => { s with line }
      next) := fun _ _ => .then (.modify fun _ => .of_eq rfl rfl rfl rfl)
  unfold step
  dsimp only
  cases c with
  | nothing => exact .pure _
  | sequence a b => exact (hagain _ _).then (hagainEnd _ _)
  | both a b => exact (hagain _ _).then (.get fun s => Respects.ite (hagainEnd _ _) hend s)
  | either a b => exact (hagain _ _).then (.get fun s => Respects.ite (hagainEnd _ _) hend s)
  | negate c => exact (hagain _ _).then (.get fun s => hstatusEnd _ s)
  | choose condition yes no =>
    refine (hagain _ _).then (.get fun s => Respects.ite (hagainEnd _ _) ?_ s)
    split
    · exact hstatusEnd 0
    · exact hagainEnd _ _
  | repeatWhile outcome condition body => exact (isSafe_repeatWhile hagain _ _ _ _ _ _).then hend
  | forEach line name values body =>
    refine hline _ ((Expansion.isSafe_allFields hcapture _).bind fun values => ?_)
    exact .ite (hstatusEnd 0) ((isSafe_forEach hagain _ _ _ _).then hend)
  | select line subject cases =>
    refine hline _ ((Expansion.isSafe_text hcapture _).bind fun subject => ?_)
    refine (isSafe_findCase hcapture _ _).bind fun found => ?_
    split
    · exact hstatusEnd 0
    · exact hstatusEnd 0
    · exact hagainEnd _ _
  | define name body => exact .then (.modify fun _ => .of_eq rfl rfl rfl rfl) hend
  | redirected line c redirections =>
    refine hline _ (Respects.then ?_ hend)
    exact Redirecting.isSafe_during hcapture _ _ (.pure _) (hagain _ _)
  | simple line assignments words redirections =>
    exact (isSafe_simple hagain _ _ _ _ _).then hchecked
  | pipeline stages =>
    refine Respects.then (fun s => respectsFrom_pipeline hagain _ none _ ?_) hchecked
    intro n hn
    cases hn
  | subshell line c redirections =>
    refine hline _ ((Process.isSafe_inCopy hagain ?_).then hchecked)
    exact Redirecting.isSafe_during hcapture _ _ (.throw _) (hagain _ _)
  | background c => exact (isSafe_background hagain _).then hchecked

end

/-- Whatever a command does, and however it ends. -/
theorem isSafe_run (limit fuel : Nat) : (run limit fuel).IsSafe := by
  induction fuel with
  | zero => exact fun _ _ => .throw _
  | succ fuel ih =>
    intro tested c
    exact .get fun s => Respects.ite (.pure _) (isSafe_step ih limit tested c) s

theorem isSafe_command : command.IsSafe := isSafe_run maxRounds maxDepth

end Running

end Flowchart
