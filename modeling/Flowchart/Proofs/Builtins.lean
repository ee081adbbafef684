import Flowchart.Proofs.Evaluations
import Flowchart.Script.Program

set_option autoImplicit false

/-! # Commands and programs that are safe

The commands a shell knows and the standard programs, as far as they run no other command. They
change variables, options and traps, read and write streams, and the programs change files. -/

namespace Flowchart

open Flowchart.Action (IsSafe Respects RespectsFrom isSafe_setStatus isSafe_report isSafe_complain
  isSafe_fail isSafe_assign isSafe_store isSafe_unset isSafe_write)
open Shell (Becomes)

namespace Builtin

/-! ## Arguments -/

theorem isSafe_number (word : String) : IsSafe (number word) :=
  .ite (isSafe_fail _) (.pure _)

theorem isSafe_withOption (option : Char × String)
    {others : Action (List (Char × String) × List String)} (h : IsSafe others) :
    IsSafe (withOption option others) :=
  h.bind fun _ => .pure _

theorem isSafe_options (allowed : List Char) (fuel : Nat) (words : List String) :
    IsSafe (options allowed fuel words) := by
  induction fuel generalizing words with
  | zero => exact .pure _
  | succ fuel ih =>
    unfold options
    split
    · exact .pure _
    · split
      · exact .pure _
      · refine .ite (isSafe_fail _) (.ite ?_ (isSafe_withOption _ (ih _)))
        split
        · exact isSafe_fail _
        · exact isSafe_withOption _ (ih _)
        · exact isSafe_withOption _ (ih _)
      · exact .pure _

theorem isSafe_letters (allowed : String) (words : List String) : IsSafe (letters allowed words) :=
  (isSafe_options _ _ _).bind fun _ => .pure _

theorem isSafe_emit (name : String) (bytes : List Char) : IsSafe (emit name bytes) :=
  .ite (.pure _) ((isSafe_write 1 _).bind fun _ =>
    .ite ((isSafe_complain _).then (isSafe_setStatus 1)) (.pure _))

theorem isSafe_checkName (name shown : String) : IsSafe (checkName name shown) :=
  .ite (.pure _) (isSafe_fail _)

/-! ## Variables -/

theorem isSafe_declare (mark : Binding → Binding) (words : List String) :
    IsSafe (declare mark words) := by
  induction words with
  | nil => exact .pure _
  | cons word rest ih =>
    unfold declare
    rcases splitEquals word with ⟨name, value⟩
    have hmark : IsSafe (do
        modify fun s => s.setBinding name (some (mark ((s.binding? name).getD {})))
        declare mark rest) := (Respects.modify fun s => s.becomes_setBinding name _).then ih
    refine (isSafe_checkName _ _).then ?_
    cases value with
    | some value => exact (isSafe_assign _ _).then hmark
    | none => exact (Respects.pure ()).then hmark

theorem isSafe_declareOrList (word : String) (which : Binding → Bool) (mark : Binding → Binding)
    (words : List String) : IsSafe (declareOrList word which mark words) :=
  (isSafe_letters _ _).bind fun _ => (isSafe_setStatus 0).then
    (.ite (.get fun s => isSafe_emit _ _ s) (isSafe_declare _ _))

theorem isSafe_localize (words : List String) : IsSafe (localize words) := by
  induction words with
  | nil => exact .pure _
  | cons word rest ih =>
    unfold localize
    rcases splitEquals word with ⟨name, value⟩
    refine (isSafe_checkName _ _).then (.then (.modify fun _ => .of_eq rfl rfl rfl rfl) ?_)
    cases value with
    | some value => exact (isSafe_assign _ _).then ih
    | none => exact (Respects.pure ()).then ih

theorem isSafe_unset (isFunction : Bool) (words : List String) :
    IsSafe (unset isFunction words) := by
  induction words with
  | nil => exact .pure _
  | cons name rest ih =>
    refine .ite (.then (.modify fun _ => .of_eq rfl rfl rfl rfl) ih) ?_
    exact (isSafe_checkName _ _).then ((Action.isSafe_unset _).then ih)

/-! ## Options -/

theorem isSafe_switch (on : Bool) (c : Char) : IsSafe (switch on c) :=
  .modify fun _ => .of_eq rfl rfl rfl rfl

theorem isSafe_switchAll (on : Bool) (letters : List Char) (words : List String) :
    IsSafe (switchAll on letters words) := by
  induction letters generalizing words with
  | nil => exact .pure _
  | cons c cs ih =>
    unfold switchAll
    split
    · next heq => cases heq
    · next heq =>
      cases heq
      split
      · exact .get fun s => ((isSafe_emit _ _).then (ih _)) s
      · split
        · exact (isSafe_switch _ _).then (ih _)
        · exact isSafe_fail _
    · next heq =>
      cases heq
      exact .ite ((isSafe_switch _ _).then (ih _)) (isSafe_fail _)

theorem isSafe_readSettings (fuel : Nat) (words : List String) :
    IsSafe (readSettings fuel words) := by
  induction fuel generalizing words with
  | zero => exact .pure _
  | succ fuel ih =>
    unfold readSettings
    split
    · exact .pure _
    · split
      · exact .pure _
      · exact (isSafe_switch _ _).then ((isSafe_switch _ _).then (.pure _))
      · exact (isSafe_switchAll _ _ _).bind fun _ => ih _
      · exact (isSafe_switchAll _ _ _).bind fun _ => ih _
      · exact .pure _

theorem isSafe_settings (words : List String) : IsSafe (settings words) := by
  refine (isSafe_setStatus 0).then ((isSafe_readSettings _ _).bind fun result => ?_)
  split
  · exact .modify fun _ => .of_eq rfl rfl rfl rfl
  · exact .pure _

theorem isSafe_takeOption (allowed : List Char) (arguments : List String) :
    IsSafe (takeOption allowed arguments) := by
  refine .get fun s => ?_
  dsimp only
  split
  · exact Respects.pure _ s
  · exact Respects.pure _ s
  · next c more index _ =>
    have hmistake : ∀ (message : String) (found : Char) (offset : Option Nat), IsSafe
        (if (allowed.head? == some ':') = true then do
          Action.assign "OPTARG" (String.singleton c)
          return ({ found, index, offset } : TakenOption)
        else do
          Action.report message
          Action.unset "OPTARG"
          return { found := '?', index, offset }) := fun message found offset =>
      .ite ((isSafe_assign _ _).then (.pure _))
        ((isSafe_report _).then ((Action.isSafe_unset _).then (.pure _)))
    split
    · exact hmistake _ _ _ s
    · exact ((isSafe_assign _ _).then (.pure _)) s
    · split
      · exact ((isSafe_assign _ _).then (.pure _)) s
      · exact hmistake _ _ _ s
    · exact ((isSafe_assign _ _).then (.pure _)) s

theorem isSafe_getOption (words : List String) : IsSafe (getOption words) := by
  refine (isSafe_letters _ _).bind fun result => ?_
  dsimp only
  split
  · refine .get fun s => ?_
    refine ((isSafe_takeOption _ _).bind fun taken => ?_) s
    refine (isSafe_store _ _).then ((isSafe_checkName _ _).then ((isSafe_assign _ _).then ?_))
    exact .modify fun _ => .of_eq rfl rfl rfl rfl
  · exact isSafe_fail _

/-! ## Aliases and permissions -/

theorem isSafe_defineAliases (words : List String) : IsSafe (defineAliases words) := by
  induction words with
  | nil => exact .pure _
  | cons word rest ih =>
    have hmissing : ∀ message, IsSafe (do
        Action.report message
        Action.setStatus 1
        defineAliases rest) :=
      fun _ => (isSafe_report _).then ((isSafe_setStatus 1).then ih)
    unfold defineAliases
    refine .get fun s => ?_
    dsimp only
    rcases splitEquals word with ⟨name, _ | text⟩
    · dsimp only
      split
      · exact ((isSafe_emit _ _).then ih) s
      · exact hmissing _ s
    · dsimp only
      split
      · exact hmissing _ s
      · exact .setThen (.of_eq rfl rfl rfl rfl) (ih _)

theorem isSafe_aliasWords (words : List String) : IsSafe (aliasWords words) :=
  (isSafe_setStatus 0).then (.ite (.get fun s => isSafe_emit _ _ s) (isSafe_defineAliases _))

theorem isSafe_removeAliases (words : List String) : IsSafe (removeAliases words) := by
  induction words with
  | nil => exact .pure _
  | cons name rest ih =>
    refine .get fun s => ?_
    dsimp only
    split
    · exact .setThen (.of_eq rfl rfl rfl rfl) (ih _)
    · exact ((isSafe_report _).then ((isSafe_setStatus 1).then ih)) s

theorem isSafe_unalias (words : List String) : IsSafe (unalias words) :=
  (isSafe_letters _ _).bind fun _ => (isSafe_setStatus 0).then
    (.ite (.modify fun _ => .of_eq rfl rfl rfl rfl) (isSafe_removeAliases _))

theorem isSafe_umask (words : List String) : IsSafe (umask words) := by
  refine (isSafe_letters _ _).bind fun found => (isSafe_setStatus 0).then (.get fun s => ?_)
  have hset : ∀ mask, RespectsFrom Becomes s (set { s with mask } : Action Unit) :=
    fun _ => .set (.of_eq rfl rfl rfl rfl)
  split
  · exact isSafe_emit _ _ s
  · split
    · split
      · exact hset _
      · exact isSafe_fail _ s
    · split
      · split
        · exact hset _
        · exact isSafe_fail _ s
      · exact Respects.pure _ s

/-! ## Reading and directories -/

theorem isSafe_assignFields (separators : List Char) (names : List String)
    (cs : List MarkedChar) : IsSafe (assignFields separators names cs) := by
  induction names generalizing cs with
  | nil => exact .pure _
  | cons name rest ih =>
    unfold assignFields
    split
    · next heq => cases heq
    · exact (isSafe_checkName _ _).then (isSafe_assign _ _)
    · next heq =>
      cases heq
      exact (isSafe_checkName _ _).then ((isSafe_assign _ _).then (ih _))

theorem isSafe_read (words : List String) : IsSafe (read words) := by
  refine (isSafe_options _ _ _).bind fun found => ?_
  dsimp only
  refine .ite (isSafe_fail _) (.get fun s => ?_)
  split
  · exact isSafe_setStatus 1 s
  · refine .setThen (s.becomes_consume _ _) ?_
    exact ((isSafe_setStatus _).then (isSafe_assignFields _ _ _)) _

theorem isSafe_enterDirectory (place : Place) (previous : String) (shown : Bool) :
    IsSafe (enterDirectory place previous shown) := by
  refine .then (.modify fun s => .withFiles (FileTree.Evolves.refl.withCurrent place)) ?_
  exact (isSafe_assign _ _).then ((isSafe_assign _ _).then (.ite (isSafe_emit _ _) (.pure _)))

theorem isSafe_changeDirectory (words : List String) : IsSafe (changeDirectory words) := by
  refine (isSafe_letters _ _).bind fun found => .get fun s => ?_
  refine ((isSafe_setStatus 0).then (.ite (.bind (.pure _) fun _ => ?_) ?_)) s
  · exact isSafe_enterDirectory _ _ _
  · split
    · exact (Respects.pure _).bind fun _ => isSafe_enterDirectory _ _ _
    · exact (isSafe_fail _).then (.bind (.pure _) fun _ => isSafe_enterDirectory _ _ _)

/-! ## Signals -/

section

variable {R : Shell → Shell → Prop} [Std.Refl R] (hR : Shell.IgnoresReports R)

include hR

theorem respects_receive (signal : Nat) : Respects R (receive signal) := by
  refine .get fun s => ?_
  dsimp only
  split
  · split
    · exact Respects.throw _ s
    · split
      · exact Respects.pure _ s
      · exact .set (hR.changes s _ s.sent s.jobs s.status)
  · exact Respects.ite (.throw _) (.pure _) s

variable [IsTrans Shell R]

theorem respects_learnEnd : Respects R learnEnd := by
  refine .then (.modify fun s => hR.changes s s.arrived s.sent _ s.status) (.get fun s => ?_)
  split
  · exact .set (hR.changes s _ s.sent s.jobs s.status)
  · exact Respects.pure _ s

theorem respects_receiveSent : Respects R receiveSent := .get fun s =>
  .setThen (hR.changes s s.arrived _ s.jobs s.status)
    (Respects.forM (fun _ => respects_receive hR _) _)

end

theorem isSafe_target? (word : String) : IsSafe (target? word) := by
  unfold target?
  split
  · exact isSafe_fail _
  · exact (isSafe_number _).then (.pure _)
  · exact (isSafe_number _).bind fun _ => .pure _

theorem isSafe_send (signal : Nat) (word : String) : IsSafe (send signal word) := by
  refine (isSafe_target? word).bind fun process => .get fun s => ?_
  split
  · exact Respects.ite (respects_receive Shell.ignoresReports_becomes _) (.pure _) s
  · split
    · split
      · exact .set (.of_eq rfl rfl rfl rfl)
      · exact Respects.pure _ s
    · split
      · split
        · exact .set (.of_eq rfl rfl rfl rfl)
        · exact Respects.pure _ s
      · exact ((isSafe_complain _).then (isSafe_setStatus 1)) s

theorem isSafe_wait (words : List String) : IsSafe (wait words) := by
  have hseen : IsSafe (modify Shell.withSeenJobs : Action Unit) :=
    .modify fun _ => .of_eq rfl rfl rfl rfl
  induction words with
  | nil => exact hseen
  | cons word rest ih =>
    refine (isSafe_target? word).bind fun process => .get fun s => ?_
    have hrest := hseen.then ih
    split
    · exact ((isSafe_setStatus _).then hrest) s
    · split
      · exact ((isSafe_setStatus _).then hrest) s
      · exact Respects.ite ((isSafe_report _).then ((isSafe_setStatus _).then hrest))
          ((isSafe_setStatus _).then hrest) s

theorem isSafe_kill (words : List String) : IsSafe (kill words) := by
  have hall : ∀ (usage : String) (signal : Nat) (targets : List String), IsSafe
      (if targets.isEmpty = true then Action.fail usage else targets.forM (send signal)) :=
    fun _ _ _ => .ite (isSafe_fail _) (.forM fun _ => isSafe_send _ _)
  refine (isSafe_setStatus 0).then ?_
  dsimp only
  split
  · exact isSafe_fail _
  · split
    · exact hall _ _ _
    · split
      · exact isSafe_emit _ _
      · exact (isSafe_number _).bind fun _ => .ite (isSafe_fail _) (isSafe_emit _ _)
    · split
      · split
        · exact hall _ _ _
        · exact isSafe_fail _
      · exact isSafe_fail _
    · split
      · exact hall _ _ _
      · refine .ite ?_ (isSafe_fail _)
        split
        · exact hall _ _ _
        · exact isSafe_fail _
    · exact hall _ _ _

theorem isSafe_setTraps (action : Option String) (words : List String) :
    IsSafe (setTraps action words) := by
  induction words with
  | nil => exact .pure _
  | cons word rest ih =>
    unfold setTraps
    split
    · exact (isSafe_report _).then (isSafe_setStatus 1)
    · exact .then (.modify fun _ => .of_eq rfl rfl rfl rfl) ih

theorem isSafe_trap (words : List String) : IsSafe (trap words) := by
  refine (isSafe_letters _ _).bind fun found => (isSafe_setStatus 0).then ?_
  split
  · exact .get fun s => isSafe_emit _ _ s
  · exact isSafe_setTraps _ _
  · exact isSafe_setTraps _ _
  · exact .ite (isSafe_setTraps _ _) (isSafe_setTraps _ _)

/-! ## Calling -/

theorem isSafe_leaveLoops (interruption : Nat → Interruption) (words : List String) :
    IsSafe (leaveLoops interruption words) := by
  have hleave : ∀ count : Nat, IsSafe (do
      Action.setStatus 0
      let count := min count (← get).loops
      if count = 0 then return () else throw (interruption count)) := fun _ =>
    (isSafe_setStatus 0).then (.get fun s => Respects.ite (.pure _) (.throw _) s)
  unfold leaveLoops
  split
  · exact (Respects.pure _).bind hleave
  · exact (isSafe_number _).bind fun _ =>
      .ite ((isSafe_fail _).bind hleave) ((Respects.pure _).bind hleave)

theorem isSafe_leave (interruption : Interruption) (words : List String) :
    IsSafe (leave interruption words) := by
  unfold leave
  split
  · refine .get fun s => ?_
    exact Respects.ite ((isSafe_setStatus _).then (.throw _)) (.throw _) s
  · exact (isSafe_number _).bind fun _ => (isSafe_setStatus _).then (.throw _)

theorem isSafe_shift (words : List String) : IsSafe (shift words) := by
  have hshift : ∀ count : Nat, IsSafe (do
      let s ← get
      if s.arguments.length < count then Action.fail "can't shift that many"
      else set { s.withArguments (s.arguments.drop count) with status := 0 }) := by
    refine fun count => .get fun s => ?_
    split
    · exact isSafe_fail _ s
    · exact .set (.of_eq rfl rfl rfl rfl)
  unfold shift
  split
  · exact (Respects.pure _).bind hshift
  · exact (isSafe_number _).bind hshift

theorem isSafe_test (words : List String) : IsSafe (test words) :=
  (Condition.isSafe_evaluate _ _).bind fun _ => isSafe_setStatus _

theorem isSafe_print (words : List String) : IsSafe (print words) := by
  refine (isSafe_letters _ _).bind fun found => ?_
  dsimp only
  split
  · exact isSafe_fail _
  · refine (isSafe_setStatus 0).then ?_
    exact (Printing.isSafe_again _ _ _).bind fun _ => isSafe_emit _ _

/-- The commands that run no other command. -/
theorem isSafe_of_simple? {name : String} {words : List String} {action : Action Unit}
    (h : simple? name words = some action) : IsSafe action := by
  have hlocal : IsSafe (do
      if (← get).functionDepth = 0 then Action.fail "not in a function"
      Action.setStatus 0
      localize words) := .get fun s => Respects.ite
    ((isSafe_fail _).then ((isSafe_setStatus 0).then (isSafe_localize _)))
    ((isSafe_setStatus 0).then (isSafe_localize _)) s
  unfold simple? at h
  split at h <;> cases h
  iterate 3 exact isSafe_setStatus _
  · exact (isSafe_setStatus 0).then (isSafe_emit _ _)
  · exact isSafe_print _
  · exact isSafe_test _
  · exact .ite (isSafe_test _) (isSafe_fail _)
  iterate 2 exact isSafe_leaveLoops _ _
  iterate 2 exact isSafe_leave _ _
  · exact isSafe_shift _
  · exact isSafe_settings _
  iterate 2 exact isSafe_declareOrList _ _ _ _
  · exact hlocal
  · exact (isSafe_letters _ _).bind fun _ => (isSafe_setStatus 0).then (isSafe_unset _ _)
  · exact isSafe_read _
  iterate 2 exact isSafe_changeDirectory _
  · exact (isSafe_letters _ _).then ((isSafe_setStatus 0).then (.get fun s => isSafe_emit _ _ s))
  · exact isSafe_kill _
  · exact isSafe_trap _
  · exact isSafe_umask _
  · exact isSafe_getOption _
  · exact isSafe_aliasWords _
  · exact isSafe_unalias _
  iterate 2 exact isSafe_fail _
  · exact (isSafe_letters _ _).bind fun _ => (isSafe_setStatus 0).then (isSafe_wait _)
  iterate 4 exact isSafe_setStatus _

end Builtin

/-! ## Programs -/

namespace Program

theorem isSafe_complain (message : String) : IsSafe (complain message) :=
  .get fun s => ((isSafe_report _).then (isSafe_setStatus 1)) s

theorem isSafe_misuse (message : String) (status : Nat) : IsSafe (misuse message status) :=
  (isSafe_complain _).then
    (.get fun s => ((isSafe_report _).then (isSafe_setStatus status)) s)

theorem isSafe_takeInput : IsSafe takeInput := by
  refine .get fun s => ?_
  split
  · exact .setThen (s.becomes_consume _ _) (Respects.pure _ _)
  · exact Respects.pure _ s

theorem isSafe_concatenate (words : List String) : IsSafe (concatenate words) := by
  induction words with
  | nil => exact .pure _
  | cons word rest ih =>
    refine .ite (isSafe_takeInput.bind fun _ => (Builtin.isSafe_emit _ _).then ih) ?_
    refine .get fun s => ?_
    split
    · exact ((Builtin.isSafe_emit _ _).then ih) s
    · exact ((isSafe_complain _).then ih) s

theorem isOrderly_touch : FileTree.IsOrderly touch := by
  intro t p t' h
  unfold touch at h
  split at h
  · cases h
    exact .refl
  · exact FileTree.isOrderly_write "" h

theorem isOrderly_makePath : FileTree.IsOrderly makePath := by
  intro t p t' h
  have hmade := t.evolves_makeDirectories p
  unfold makePath at h
  split at h
  · next heq =>
    cases h
    rwa [heq] at hmade
  · cases h

theorem isOrderly_remove (recursive force : Bool) :
    FileTree.IsOrderly (remove recursive force) := by
  intro t p t' h
  have hremoved := t.evolves_removeTree p
  unfold remove at h
  split at h
  · split at h
    · cases h
    · split at h
      · next heq =>
        cases h
        rwa [heq] at hremoved
      · cases h
  · exact FileTree.isOrderly_removeFile h
  · split at h
    · cases h
      exact .refl
    · cases h

/-- Changing files is safe if each change keeps everything in directories. -/
theorem isSafe_change (failure : String → String)
    {operation : FileTree → Path → Except FileError FileTree} (h : FileTree.IsOrderly operation)
    (words : List String) : IsSafe (change failure operation words) := by
  induction words with
  | nil => exact .pure _
  | cons word rest ih =>
    refine .get fun s => ?_
    split
    · next hchanged => exact .setThen (.withFiles (h hchanged)) (ih _)
    · exact ((isSafe_complain _).then ih) s

theorem isSafe_list (all : Bool) (word : String) : IsSafe (list all word) := by
  unfold list
  refine .get fun s => ?_
  dsimp only
  rcases s.files.find (path word) with e | ⟨place, node⟩
  · exact ((isSafe_complain _).then (isSafe_setStatus 2)) s
  · cases node <;> exact Builtin.isSafe_emit _ _ s

theorem isSafe_test (words : List String) : IsSafe (test words) := by
  refine ((Condition.AllSafe.all _).anyOf words).bind fun result => ?_
  rcases result with ⟨holds, _ | ⟨word, rest⟩⟩
  · exact isSafe_setStatus _
  · exact (isSafe_complain _).then (isSafe_setStatus 2)

theorem isSafe_print (words : List String) : IsSafe (print words) := by
  unfold print
  split
  · exact isSafe_misuse _ _
  · refine (Printing.isSafe_again _ _ _).bind fun result => (Builtin.isSafe_emit _ _).then ?_
    split
    · exact .pure _
    · exact (isSafe_complain _).then (isSafe_setStatus 0)

theorem isSafe_of_plain? {name : String} {words : List String} {action : Action Unit}
    (h : plain? name words = some action) : IsSafe action := by
  unfold plain? at h
  split at h
  · cases h
    exact .pure _
  · cases h
    exact isSafe_setStatus _
  · cases h
    exact Builtin.isSafe_emit _ _
  · cases h
    exact isSafe_print _
  · cases h
    exact isSafe_test _
  · cases h
    exact .ite (isSafe_test _) ((isSafe_complain _).then (isSafe_setStatus 2))
  · exact Builtin.isSafe_of_simple? h
  · cases h

theorem isSafe_of_optioned? {name : String} {letters : List Char} {words : List String}
    {action : Action Unit} (h : optioned? name letters words = some action) : IsSafe action := by
  have hmake :
      FileTree.IsOrderly (if letters.contains 'p' then makePath else FileTree.makeDirectory) := by
    split
    · exact isOrderly_makePath
    · exact FileTree.isOrderly_makeDirectory
  unfold optioned? at h
  split at h
  · cases h
    exact .ite (isSafe_misuse _ _) (.pure _)
  · exact Builtin.isSafe_of_simple? h
  · cases h
    exact isSafe_concatenate _
  · cases h
    exact .forM fun _ => isSafe_list _ _
  · cases h
    exact isSafe_change _ isOrderly_touch _
  · cases h
    exact isSafe_change _ hmake _
  · cases h
    exact isSafe_change _ FileTree.isOrderly_removeDirectory _
  · cases h
    exact isSafe_change _ (isOrderly_remove _ _) _
  · cases h
    split
    · exact Builtin.isSafe_emit _ _
    · exact Builtin.isSafe_emit _ _
    · exact isSafe_misuse _ _
    · exact isSafe_misuse _ _
  · cases h
    split
    · exact isSafe_misuse _ _
    · exact Builtin.isSafe_emit _ _
  · cases h

theorem isSafe_of_action? {name : String} {words : List String} {action : Action Unit}
    (h : action? name words = some action) : IsSafe action := by
  unfold action? at h
  split at h
  · next hplain =>
    cases h
    exact isSafe_of_plain? hplain
  · split at h
    · cases h
      exact isSafe_misuse _ _
    · exact isSafe_of_optioned? h
  · cases h

/-- The programs that call no other program. -/
theorem isSafe_of_simple? {name : String} {words : List String} {action : Action Unit}
    (h : simple? name words = some action) : IsSafe action := by
  obtain ⟨inner, hinner, rfl⟩ := Option.map_eq_some_iff.1 h
  exact (isSafe_setStatus 0).then (isSafe_of_action? hinner)

end Program

end Flowchart
