import Flowchart.Proofs.Rooted
import Flowchart.Script.Shell

set_option autoImplicit false

/-! # What a running script can become

Whatever a script does, and however it ends, some things hold afterwards that held before:
everything in its files stands in a directory, a new stream takes the place of no other one, and
every descriptor stands for a stream that is there. Streams can come and go on the way, but those
that there were at the start are still there, so that descriptors can be given back their old
meaning.

An action respects a relation between states if it leads from every state to a related one, whatever
its result. If the relation is reflexive and transitive, actions that are put together from ones
that respect it respect it too. -/

namespace Flowchart

namespace Shell

variable {s s' s'' : Shell} {number : Nat} {stream : Stream}

/-- There is a stream with a number. -/
def HasStream (s : Shell) (number : Nat) : Prop := number ∈ s.streams.map Prod.fst

/-- The numbers of streams are below that of the next one, and descriptors stand for streams. -/
structure IsConsistent (s : Shell) : Prop where
  streams : ∀ number, s.HasStream number → number < s.nextStream
  descriptors : ∀ d number, (d, number) ∈ s.descriptors → s.HasStream number

/-- What a script can become. -/
structure Becomes (s s' : Shell) : Prop where
  files : s.files.Evolves s'.files
  nextStream_le : s.nextStream ≤ s'.nextStream
  hasStream : ∀ number < s.nextStream, s.HasStream number → s'.HasStream number
  isConsistent : s.IsConsistent → s'.IsConsistent

theorem hasStream_of_lookup (h : s.streams.lookup number = some stream) : s.HasStream number := by
  obtain ⟨front, rest, heq, -⟩ := List.lookup_eq_some_iff.1 h
  simp [HasStream, heq]

theorem hasStream_iff : s.HasStream number ↔ ∃ stream, s.streams.lookup number = some stream := by
  constructor
  · intro h
    obtain ⟨⟨n, stream⟩, hmem, rfl⟩ := List.mem_map.1 h
    refine Option.ne_none_iff_exists'.1 fun hnone => ?_
    have hne := List.lookup_eq_none_iff.1 hnone _ hmem
    simp at hne
  · rintro ⟨stream, h⟩
    exact hasStream_of_lookup h

/-- In a consistent state a descriptor always leads to a stream. -/
theorem IsConsistent.exists_stream (h : s.IsConsistent) {d : Nat}
    (hd : s.descriptors.lookup d = some number) :
    ∃ stream, s.stream? d = some (number, stream) := by
  obtain ⟨front, rest, heq, -⟩ := List.lookup_eq_some_iff.1 hd
  have hmem : (d, number) ∈ s.descriptors := by simp [heq]
  obtain ⟨stream, hstream⟩ := hasStream_iff.1 (h.descriptors d number hmem)
  exact ⟨stream, by simp [stream?, hd, hstream]⟩

namespace Becomes

theorem refl : s.Becomes s := ⟨.refl, Nat.le_refl _, fun _ _ => id, id⟩

theorem trans (h : s.Becomes s') (h' : s'.Becomes s'') : s.Becomes s'' where
  files := h.files.trans h'.files
  nextStream_le := Nat.le_trans h.nextStream_le h'.nextStream_le
  hasStream number hlt hin :=
    h'.hasStream number (Nat.lt_of_lt_of_le hlt h.nextStream_le) (h.hasStream number hlt hin)
  isConsistent hs := h'.isConsistent (h.isConsistent hs)

/-- Anything but files, streams and descriptors can change freely, and numbers can be left out. -/
theorem of_le (hfiles : s'.files = s.files) (hstreams : s'.streams = s.streams)
    (hnext : s.nextStream ≤ s'.nextStream) (hdescriptors : s'.descriptors = s.descriptors) :
    s.Becomes s' where
  files := hfiles ▸ .refl
  nextStream_le := hnext
  hasStream number _ hin := by rwa [HasStream, hstreams]
  isConsistent hs := by
    refine ⟨fun number hin => ?_, fun d number hd => ?_⟩
    · rw [HasStream, hstreams] at hin
      exact Nat.lt_of_lt_of_le (hs.streams number hin) hnext
    · rw [HasStream, hstreams]
      rw [hdescriptors] at hd
      exact hs.descriptors d number hd

theorem of_eq (hfiles : s'.files = s.files) (hstreams : s'.streams = s.streams)
    (hnext : s'.nextStream = s.nextStream) (hdescriptors : s'.descriptors = s.descriptors) :
    s.Becomes s' := .of_le hfiles hstreams (Nat.le_of_eq hnext.symm) hdescriptors

theorem withFiles {t : FileTree} (h : s.files.Evolves t) : s.Becomes { s with files := t } where
  files := h
  nextStream_le := Nat.le_refl _
  hasStream _ _ := id
  isConsistent hs := ⟨hs.streams, hs.descriptors⟩

end Becomes

instance : Std.Refl Becomes := ⟨fun _ => .refl⟩

instance : IsTrans Shell Becomes := ⟨fun _ _ _ => .trans⟩

/-! ## Streams and descriptors -/

theorem hasStream_setStream {n : Nat} :
    (s.setStream number stream).HasStream n ↔ n = number ∨ s.HasStream n := by
  simp only [HasStream, setStream, List.map_cons, List.mem_cons, List.mem_map, List.mem_filter]
  by_cases h : n = number
  · simp [h]
  · simp only [h, false_or]
    constructor
    · rintro ⟨p, ⟨hmem, -⟩, rfl⟩
      exact ⟨p, hmem, rfl⟩
    · rintro ⟨p, hmem, rfl⟩
      exact ⟨p, ⟨hmem, by simpa using h⟩, rfl⟩

theorem becomes_setStream (h : s.HasStream number) (stream : Stream) :
    s.Becomes (s.setStream number stream) where
  files := .refl
  nextStream_le := Nat.le_refl _
  hasStream n _ hn := hasStream_setStream.2 (Or.inr hn)
  isConsistent hs := by
    refine ⟨fun n hn => ?_, fun d n hd => hasStream_setStream.2 (Or.inr (hs.descriptors d n hd))⟩
    rcases hasStream_setStream.1 hn with rfl | hn
    · exact hs.streams n h
    · exact hs.streams n hn

theorem hasStream_addStream {n : Nat} :
    (s.addStream stream).1.HasStream n ↔ n = s.nextStream ∨ s.HasStream n := hasStream_setStream

theorem becomes_addStream (s : Shell) (stream : Stream) : s.Becomes (s.addStream stream).1 where
  files := .refl
  nextStream_le := Nat.le_succ _
  hasStream n _ hn := hasStream_addStream.2 (Or.inr hn)
  isConsistent hs := by
    refine ⟨fun n hn => ?_, fun d n hd => hasStream_addStream.2 (Or.inr (hs.descriptors d n hd))⟩
    rcases hasStream_addStream.1 hn with rfl | hn
    · exact Nat.lt_succ_self _
    · exact Nat.lt_succ_of_lt (hs.streams n hn)

/-- A descriptor can be given a stream that is there, or none. -/
theorem becomes_setDescriptor {number : Option Nat} (d : Nat)
    (h : s.IsConsistent → ∀ n ∈ number, s.HasStream n) : s.Becomes (s.setDescriptor d number) where
  files := .refl
  nextStream_le := Nat.le_refl _
  hasStream _ _ := id
  isConsistent hs := by
    refine ⟨hs.streams, fun d' n hd => ?_⟩
    cases number with
    | none => exact hs.descriptors d' n (List.mem_of_mem_filter hd)
    | some number =>
      rcases List.mem_cons.1 hd with heq | hmem
      · cases heq
        exact h hs n rfl
      · exact hs.descriptors d' n (List.mem_of_mem_filter hmem)

/-- A stream that is newer than those that descriptors stand for can be thrown away. -/
theorem Becomes.discard (h : s.Becomes s') (hnumber : s.nextStream ≤ number)
    (hdescriptors : s'.descriptors = s.descriptors) :
    s.Becomes { s' with streams := s'.streams.filter (·.1 ≠ number) } := by
  have hkept : ∀ n, Shell.HasStream { s' with streams := s'.streams.filter (·.1 ≠ number) } n
      ↔ n ≠ number ∧ s'.HasStream n := by
    intro n
    simp only [HasStream, List.mem_map, List.mem_filter, decide_eq_true_eq]
    constructor
    · rintro ⟨p, ⟨hmem, hne⟩, rfl⟩
      exact ⟨hne, p, hmem, rfl⟩
    · rintro ⟨hne, p, hmem, rfl⟩
      exact ⟨p, ⟨hmem, hne⟩, rfl⟩
  have hold : ∀ n < s.nextStream, s.HasStream n →
      Shell.HasStream { s' with streams := s'.streams.filter (·.1 ≠ number) } n :=
    fun n hlt hn => (hkept n).2 ⟨by omega, h.hasStream n hlt hn⟩
  refine ⟨h.files, h.nextStream_le, hold, fun hs => ?_⟩
  -- The descriptors are the old ones, so none of them stands for the stream that goes.
  refine ⟨fun n hn => (h.isConsistent hs).streams n ((hkept n).1 hn).2, fun d n hd => ?_⟩
  have hin := hs.descriptors d n (hdescriptors ▸ hd)
  exact hold n (hs.streams n hin) hin

theorem becomes_consume (s : Shell) (number count : Nat) : s.Becomes (s.consume number count) := by
  unfold consume
  split
  · next h => exact becomes_setStream (hasStream_of_lookup h) _
  · next h => exact becomes_setStream (hasStream_of_lookup h) _
  · exact .refl

theorem becomes_writeStream (s : Shell) (number : Nat) (bytes : List Char) :
    s.Becomes (s.writeStream number bytes) := by
  unfold writeStream
  split
  · next h => exact becomes_setStream (hasStream_of_lookup h) _
  · next place offset append h =>
    have hstream := becomes_setStream (hasStream_of_lookup h)
    dsimp only
    split
    · next before hfile =>
      exact (hstream _).trans (.withFiles (FileTree.evolves_setContents_of_file hfile))
    · exact hstream _
  · exact .refl

theorem becomes_setBinding (s : Shell) (name : String) (b : Option Binding) :
    s.Becomes (s.setBinding name b) := .of_eq rfl rfl rfl rfl

/-- Changing many variables, as when a function has returned. -/
theorem becomes_setBindings {α : Type} (name : α → String) (value : α → Option Binding)
    (changes : List α) (s : Shell) :
    s.Becomes (changes.foldl (fun s a => s.setBinding (name a) (value a)) s) := by
  induction changes generalizing s with
  | nil => exact .refl
  | cons a rest ih => exact (s.becomes_setBinding _ _).trans (ih _)

/-- What processes tell each other makes no difference to a relation: texts on streams, signals, and
    how they ended. -/
structure IgnoresReports (R : Shell → Shell → Prop) : Prop where
  writeStream : ∀ s number bytes, R s (s.writeStream number bytes)
  changes : ∀ s arrived sent jobs status, R s { s with arrived, sent, jobs, status }

theorem ignoresReports_becomes : IgnoresReports Becomes where
  writeStream := becomes_writeStream
  changes _ _ _ _ _ := .of_eq rfl rfl rfl rfl

end Shell

/-! ## What actions respect -/

namespace Action

variable {α β : Type} {s s' : Shell} {R : Shell → Shell → Prop} {action : Action α}
  {next : α → Action β} {rest : Action β}

/-- From a state, an action leads to a related one, also if it is interrupted. -/
def RespectsFrom (R : Shell → Shell → Prop) (s : Shell) (action : Action α) : Prop :=
  R s (action.run s).2

/-- From every state, an action leads to a related one. -/
def Respects (R : Shell → Shell → Prop) (action : Action α) : Prop := ∀ s, RespectsFrom R s action

theorem run_bind (action : Action α) (next : α → Action β) (s : Shell) :
    (action >>= next).run s = match action.run s with
      | (.ok a, s') => (next a).run s'
      | (.error e, s') => (.error e, s') := by
  simp only [ExceptT.run, bind, ExceptT.bind, ExceptT.mk, StateT.bind, ExceptT.bindCont]
  rcases action s with ⟨⟨e⟩ | ⟨a⟩, s'⟩
  · rfl
  · rfl

/-- What holds after the first part of an action and is kept by the second holds after both. -/
theorem holds_run_bind {P : Shell → Prop} (h : P (action.run s).2)
    (hnext : ∀ a s', P s' → P ((next a).run s').2) : P ((action >>= next).run s).2 := by
  rw [run_bind]
  rcases hresult : action.run s with ⟨⟨e⟩ | ⟨a⟩, s'⟩
  · rwa [hresult] at h
  · rw [hresult] at h
    exact hnext a s' h

namespace RespectsFrom

theorem get {next : Shell → Action β} (h : RespectsFrom R s (next s)) :
    RespectsFrom R s (MonadState.get >>= next) := h

theorem set (h : R s s') : RespectsFrom R s (set s' : Action Unit) := h

theorem modify {f : Shell → Shell} (h : R s (f s)) :
    RespectsFrom R s (modify f : Action Unit) := h

theorem attempt (h : RespectsFrom R s action) : RespectsFrom R s (attempt action) := h

/-- What comes next may need to know that the state it starts from is related to the first one. -/
theorem bindWithin (h : RespectsFrom R s action)
    (hnext : ∀ a s', R s s' → R s ((next a).run s').2) : RespectsFrom R s (action >>= next) :=
  holds_run_bind h hnext

theorem ite {c : Prop} [Decidable c] {other : Action α} (h : RespectsFrom R s action)
    (hother : RespectsFrom R s other) : RespectsFrom R s (if c then action else other) := by
  split
  · exact h
  · exact hother

variable [IsTrans Shell R]

theorem bind (h : RespectsFrom R s action) (hnext : ∀ a, Respects R (next a)) :
    RespectsFrom R s (action >>= next) :=
  h.bindWithin fun a s' hs' => IsTrans.trans _ _ _ hs' (hnext a s')

theorem setThen (h : R s s') (hrest : RespectsFrom R s' rest) :
    RespectsFrom R s (MonadState.set s' >>= fun _ => rest) := IsTrans.trans _ _ _ h hrest

theorem modifyThen {f : Shell → Shell} (h : R s (f s)) (hrest : RespectsFrom R (f s) rest) :
    RespectsFrom R s ((MonadState.modifyGet fun s => ((), f s)) >>= fun _ => rest) :=
  IsTrans.trans _ _ _ h hrest

end RespectsFrom

namespace Respects

theorem pure [Std.Refl R] (a : α) : Respects R (Pure.pure a : Action α) := fun s => Std.Refl.refl s

theorem throw [Std.Refl R] (e : Interruption) : Respects R (throw e : Action α) :=
  fun s => Std.Refl.refl s

theorem resume [Std.Refl R] (result : Except Interruption α) : Respects R (resume result) :=
  fun s => Std.Refl.refl s

theorem ite {c : Prop} [Decidable c] {other : Action α} (h : Respects R action)
    (hother : Respects R other) : Respects R (if c then action else other) :=
  fun s => .ite (h s) (hother s)

theorem get {next : Shell → Action β} (h : ∀ s, RespectsFrom R s (next s)) :
    Respects R (MonadState.get >>= next) := h

theorem modify {f : Shell → Shell} (h : ∀ s : Shell, R s (f s)) :
    Respects R (modify f : Action Unit) := h

theorem attempt (h : Respects R action) : Respects R (attempt action) := h

variable [IsTrans Shell R]

theorem bind (h : Respects R action) (hnext : ∀ a, Respects R (next a)) :
    Respects R (action >>= next) := fun s => (h s).bind hnext

/-- What comes next need not make use of a result. -/
theorem «then» (h : Respects R action) (hrest : Respects R rest) :
    Respects R (action >>= fun _ => rest) := h.bind fun _ => hrest

theorem forM [Std.Refl R] {l : List α} {f : α → Action Unit} (h : ∀ a, Respects R (f a)) :
    Respects R (l.forM f) := by
  induction l with
  | nil => exact .pure _
  | cons a rest ih => exact (h a).then ih

theorem mapM [Std.Refl R] {l : List β} {f : β → Action α} (h : ∀ b, Respects R (f b)) :
    Respects R (l.mapM f) := by
  rw [← List.mapM'_eq_mapM]
  induction l with
  | nil => exact .pure _
  | cons b rest ih => exact (h b).bind fun _ => ih.bind fun _ => .pure _

end Respects

/-- An action that also passes a state of its own along respects a relation if it does so from every
    such state. -/
def RespectsWith {σ : Type} (R : Shell → Shell → Prop) (action : StateT σ Action α) : Prop :=
  ∀ x, Respects R (action.run x)

namespace RespectsWith

variable {σ : Type} {action : StateT σ Action α} {next : α → StateT σ Action β}

theorem ite {c : Prop} [Decidable c] {other : StateT σ Action α} (h : RespectsWith R action)
    (hother : RespectsWith R other) : RespectsWith R (if c then action else other) := by
  split
  · exact h
  · exact hother

section

variable [Std.Refl R]

theorem pure (a : α) : RespectsWith R (Pure.pure a : StateT σ Action α) := fun _ => .pure _

theorem get : RespectsWith R (get : StateT σ Action σ) := fun _ => .pure _

theorem set (x : σ) : RespectsWith R (set x : StateT σ Action Unit) := fun _ => .pure _

theorem modify (f : σ → σ) : RespectsWith R (modify f : StateT σ Action Unit) := fun _ => .pure _

end

variable [IsTrans Shell R]

theorem lift [Std.Refl R] {action : Action α} (h : Respects R action) :
    RespectsWith R (liftM action : StateT σ Action α) := fun _ => h.bind fun _ => .pure _

theorem bind (h : RespectsWith R action) (hnext : ∀ a, RespectsWith R (next a)) :
    RespectsWith R (action >>= next) := fun x => (h x).bind fun r => hnext r.1 r.2

theorem «then» {rest : StateT σ Action β} (h : RespectsWith R action)
    (hrest : RespectsWith R rest) : RespectsWith R (action >>= fun _ => rest) :=
  h.bind fun _ => hrest

end RespectsWith

/-- An action is safe if, from every state, it leads to what the state can become. -/
abbrev IsSafe (action : Action α) : Prop := Respects Shell.Becomes action

/-! ## Reporting -/

section

variable (hR : Shell.IgnoresReports R)

include hR

theorem respects_setStatus (status : Nat) : Respects R (setStatus status) :=
  .modify fun s => hR.changes s s.arrived s.sent s.jobs status

variable [Std.Refl R] [IsTrans Shell R]

theorem respects_write (d : Nat) (bytes : List Char) : Respects R (write d bytes) := by
  refine .get fun s => ?_
  split
  · exact RespectsFrom.bind (.modify (hR.writeStream s _ bytes)) fun _ => .pure _
  · exact Respects.pure _ s

theorem respects_report (line : String) : Respects R (report line) :=
  (respects_write hR 2 _).bind fun _ => .pure _

end

theorem isSafe_write (d : Nat) (bytes : List Char) : IsSafe (write d bytes) :=
  respects_write Shell.ignoresReports_becomes d bytes

theorem isSafe_setStatus (status : Nat) : IsSafe (setStatus status) :=
  respects_setStatus Shell.ignoresReports_becomes status

theorem isSafe_report (line : String) : IsSafe (report line) :=
  respects_report Shell.ignoresReports_becomes line

theorem isSafe_complain (message : String) : IsSafe (complain message) :=
  .get fun s => isSafe_report _ s

theorem isSafe_fail (message : String) : IsSafe (fail message : Action α) :=
  (isSafe_complain message).then ((isSafe_setStatus 2).then (.throw _))

/-- Nothing comes after a failure. -/
theorem fail_bind (message : String) (next : α → Action β) :
    (fail message >>= next) = fail message := by
  simp only [fail, bind_assoc]
  rfl

/-! ## Variables -/

theorem isSafe_store (name value : String) : IsSafe (store name value) := by
  refine .get fun s => ?_
  dsimp only
  split
  · exact isSafe_fail _ s
  · exact .set (s.becomes_setBinding name _)

theorem isSafe_assign (name value : String) : IsSafe (assign name value) := by
  refine (isSafe_store name value).then ?_
  split
  · exact .modify fun _ => .of_eq rfl rfl rfl rfl
  · exact .pure _

theorem isSafe_unset (name : String) : IsSafe (unset name) := by
  refine .get fun s => ?_
  split
  · split
    · exact isSafe_fail _ s
    · exact .set (s.becomes_setBinding name none)
  · exact Respects.pure _ s

/-! ## Processes of their own -/

/-- What a process leaves to the one around it are files and streams. The descriptors of that one
    still stand for the streams they stood for. -/
theorem respectsFrom_apart (h : RespectsFrom Shell.Becomes s action) :
    RespectsFrom Shell.Becomes s (apart action) where
  files := h.files.withCurrent _
  nextStream_le := h.nextStream_le
  hasStream := h.hasStream
  isConsistent hs := {
    streams := (h.isConsistent hs).streams
    descriptors := fun d number hd =>
      have hin := hs.descriptors d number hd
      h.hasStream number (hs.streams number hin) hin }

end Action

end Flowchart
