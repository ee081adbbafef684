import Flowchart.Proofs.Contents
import Flowchart.Proofs.Growth
import Flowchart.Workspace.Publishing

set_option autoImplicit false

/-! # Writing a project into a file tree

A project is written in three stages: what was there is removed, the directories are created, the
files are written. Each stage says what it changes and why it fails, and a stage that fails is the
last one. -/

namespace Flowchart

variable {t t' t'' : FileTree} {p : GeneratedProject} {out path : Path} {names : List String}
  {name : String} {v x : Place} {clean : Bool} {α β : Type}

namespace FileTree

/-! ## Actions in a tree -/

/-- What an action comes to in a tree. -/
def attempt (t : FileTree) (action : ExceptT IoFailure (StateM FileTree) α) :
    Except IoFailure α × FileTree := action.run t

theorem attempt_bind_ok {action : ExceptT IoFailure (StateM FileTree) α} {a : α}
    (h : t.attempt action = (.ok a, t'))
    (next : α → ExceptT IoFailure (StateM FileTree) β) :
    t.attempt (action >>= next) = t'.attempt (next a) := by
  simp only [attempt] at h ⊢
  rw [ExceptT.run_bind]
  show (StateT.bind _ _) t = _
  simp only [StateT.bind, h]
  rfl

theorem attempt_bind_error {action : ExceptT IoFailure (StateM FileTree) α} {e : IoFailure}
    (h : t.attempt action = (.error e, t'))
    (next : α → ExceptT IoFailure (StateM FileTree) β) :
    t.attempt (action >>= next) = (.error e, t') := by
  simp only [attempt] at h ⊢
  rw [ExceptT.run_bind]
  show (StateT.bind _ _) t = _
  simp only [StateT.bind, h]
  rfl

theorem attempt_onPath {action : StateM FileTree (Except String α)} {result : Except String α}
    (h : action t = (result, t')) :
    t.attempt (Publisher.onPath path action)
      = (result.mapError fun reason => ⟨path, reason⟩, t') := by
  simp only [attempt, Publisher.onPath, ExceptT.run_mk]
  show (StateT.bind _ _) t = _
  simp only [StateT.bind, h]
  cases result <;> rfl

/-! ## Places below a path -/

section

variable (hne : names ≠ []) (hnames : ∀ n ∈ names, Path.IsName n)

include hne hnames

theorem origin_join : t.origin (out.join (.ofNames names)) = t.origin out := by
  rw [origin, origin, Path.isAbsolute_join out hne fun n hn => (hnames n hn).toIsStep]

theorem goal_join : t.goal (out.join (.ofNames names)) = t.goal out ++ names := by
  have hsteps : ∀ n ∈ names, Path.IsStep n := fun n hn => (hnames n hn).toIsStep
  rw [goal, origin_join hne hnames, Path.steps_join out hne hsteps, Place.goal_append,
    Place.goal_names fun n hn => (hsteps n hn).ne_parent]
  rfl

theorem mem_way_join : v ∈ t.way (out.join (.ofNames names))
    ↔ v ∈ t.way out ∨ ∃ inner, inner <+: names ∧ v = t.goal out ++ inner := by
  have hsteps : ∀ n ∈ names, Path.IsStep n := fun n hn => (hnames n hn).toIsStep
  rw [way, origin_join hne hnames, Path.steps_join out hne hsteps, Place.mem_way_append,
    Place.mem_way_names fun n hn => (hsteps n hn).ne_parent]
  rfl

omit t in
theorem isProper_join : (out.join (.ofNames names)).IsProper ↔ out.IsProper :=
  Path.isProper_join out hne (fun n hn => (hnames n hn).toIsStep) (Path.isProper_ofNames hnames)

end

end FileTree

/-! ## Creating the directories -/

namespace GeneratedProject

/-- The places that are directories when a project has been written below a path. -/
def Opens (p : GeneratedProject) (t : FileTree) (out : Path) (v : Place) : Prop :=
  v ∈ t.way out ∨ ∃ names, p.Has names .directory ∧ v = t.goal out ++ names

theorem opens_congr (h : t'.current = t.current) : p.Opens t' out = p.Opens t out := by
  funext v
  rw [Opens, Opens, FileTree.way_congr h, FileTree.goal_congr h]

/-- The way to a directory of a project leads through other directories of the project. -/
theorem IsTree.opens_of_mem_way (h : p.IsTree) (hnames : p.Has names .directory)
    (hv : v ∈ t.way (out.join (.ofNames names))) : p.Opens t out v := by
  obtain ⟨rest, hrest⟩ := h.exists_rest hnames
  have hne : names ≠ [] := by simp [hrest]
  rcases (FileTree.mem_way_join hne (h.isName hnames)).1 hv with hv | ⟨inner, hinner, rfl⟩
  · exact Or.inl hv
  · by_cases hnil : inner = []
    · rw [hnil, List.append_nil]
      exact Or.inl Place.goal_mem_way
    · exact Or.inr ⟨inner, h.outer hnames hinner hnil, rfl⟩

end GeneratedProject

namespace FileTree

variable {launcher : Launcher} {searchPath : List Path}

/-- What creating directories of a project comes to. -/
inductive Opened (t : FileTree) (p : GeneratedProject) (out : Path) (directories : List Path) :
    Except IoFailure Unit × FileTree → Prop
  | done {t' : FileTree} (grows : t.Grows (p.Opens t out) t')
      (proper : directories ≠ [] → out.IsProper)
      (leads : ∀ directory ∈ directories, t'.Leads (t.origin out) (out.join directory).steps) :
      Opened t p out directories (.ok (), t')
  | failed {e : IoFailure} {t' : FileTree} (grows : t.Grows (p.Opens t out) t')
      (blocked : t.lookup (t.origin out) = some .directory → out.IsProper →
        ∃ v, p.Opens t out v ∧ t.Blocked v) : Opened t p out directories (.error e, t')

theorem attempt_makeDirectories_done (h : t.makeDirectories path = (.ok (), t')) :
    t.attempt (Publisher.onPath path ((host launcher searchPath).makeDirectories path))
      = (.ok (), t') := by
  have haction : (host launcher searchPath).makeDirectories path t = (.ok (), t') :=
    congrArg (Prod.map told id) h
  exact attempt_onPath haction

theorem attempt_makeDirectories_failed {e : FileError}
    (h : t.makeDirectories path = (.error e, t')) :
    t.attempt (Publisher.onPath path ((host launcher searchPath).makeDirectories path))
      = (.error ⟨path, e.message⟩, t') := by
  have haction : (host launcher searchPath).makeDirectories path t = (.error e.message, t') :=
    congrArg (Prod.map told id) h
  exact attempt_onPath haction

namespace Opened

variable {directory : Path} {directories : List Path} {result : Except IoFailure Unit × FileTree}

theorem cons (h : t.Opened p out [directory] (.ok (), t'))
    (hrest : t'.Opened p out directories result) :
    t.Opened p out (directory :: directories) result := by
  cases h with
  | done grows proper leads =>
    have horigin := origin_congr grows.current_eq out
    have hopens : p.Opens t' out = p.Opens t out := GeneratedProject.opens_congr grows.current_eq
    cases hrest with
    | done grows' proper' leads' =>
      rw [hopens] at grows'
      rw [horigin] at leads'
      refine .done (grows.trans grows') (fun _ => proper (by simp)) ?_
      exact List.forall_mem_cons.2 ⟨grows'.leads (leads directory (by simp)), leads'⟩
    | failed grows' blocked =>
      rw [hopens] at grows' blocked
      rw [horigin] at blocked
      refine .failed (grows.trans grows') fun hdirectory hproper => ?_
      obtain ⟨v, hv, hblocked⟩ := blocked (grows.directory hdirectory) hproper
      exact ⟨v, hv, grows.blocked_iff.1 hblocked⟩

theorem cons_of_error {e : IoFailure} (h : t.Opened p out [directory] (.error e, t')) :
    t.Opened p out (directory :: directories) (.error e, t') := by
  cases h with
  | failed grows blocked => exact .failed grows blocked

theorem isPlain (h : t.Opened p out directories result) (ht : t.IsPlain) : result.2.IsPlain := by
  cases h with
  | done grows | failed grows => exact grows.isPlain ht

end Opened

/-- A directory of a project is created with what is missing above it. -/
theorem opened_makeDirectories (launcher : Launcher) (searchPath : List Path) (out : Path)
    (hp : p.IsTree) (hhas : p.Has names .directory) (ht : t.IsPlain) :
    t.Opened p out [.ofNames names] (t.attempt (Publisher.onPath (out.join (.ofNames names))
      ((host launcher searchPath).makeDirectories (out.join (.ofNames names))))) := by
  have hnames := hp.isName hhas
  have hne : names ≠ [] := by
    obtain ⟨rest, hrest⟩ := hp.exists_rest hhas
    simp [hrest]
  obtain ⟨init, last, hlast⟩ := (List.eq_nil_or_concat names).resolve_left hne
  rw [List.concat_eq_append] at hlast
  obtain ⟨outer, hends⟩ := @Path.exists_endsWith_join init last out
    fun n hn => (hnames n (hlast ▸ hn)).toIsStep
  rw [← hlast] at hends
  have hmade := ensured ht (.ends hends) hends.text_ne_empty
  have hopens : ∀ v ∈ t.way (out.join (.ofNames names)), p.Opens t out v :=
    fun v hv => hp.opens_of_mem_way hhas hv
  generalize hresult : t.makeDirectories (out.join (.ofNames names)) = result at hmade
  cases hmade with
  | failed grows blocked =>
    rw [attempt_makeDirectories_failed hresult]
    refine .failed (grows.mono hopens) fun horigin hproper => ?_
    rw [origin_join hne hnames, isProper_join hne hnames] at blocked
    obtain ⟨v, hv, hblocked⟩ := blocked horigin hproper
    exact ⟨v, hopens v hv, hblocked⟩
  | done grows proper leads =>
    rw [attempt_makeDirectories_done hresult]
    rw [isProper_join hne hnames] at proper
    rw [origin_join hne hnames] at leads
    exact .done (grows.mono hopens) (fun _ => proper) (List.forall_mem_singleton.2 leads)

/-- Directories of a project are created one after the other, until something is in the way. -/
theorem opened_makeAll (launcher : Launcher) (searchPath : List Path) (clean : Bool)
    (out : Path) (hp : p.IsTree) {directories : List Path}
    (hsub : ∀ directory ∈ directories, directory ∈ p.directories) (ht : t.IsPlain) :
    t.Opened p out directories
      (t.attempt (Publisher.makeAll ⟨out, clean⟩ (host launcher searchPath) directories)) := by
  induction directories generalizing t with
  | nil => exact .done .refl (absurd rfl) (by simp)
  | cons directory rest ih =>
    obtain ⟨hmem, hothers⟩ := List.forall_mem_cons.1 hsub
    obtain ⟨names, rfl, hhas⟩ := hp.directory_cases hmem
    have hfirst := opened_makeDirectories launcher searchPath out hp hhas ht
    rw [Publisher.makeAll]
    generalize hresult : t.attempt (Publisher.onPath (out.join (.ofNames names)) _) = result
      at hfirst
    obtain ⟨⟨e⟩ | ⟨⟨⟩⟩, t'⟩ := result
    · rw [attempt_bind_error hresult]
      exact hfirst.cons_of_error
    · rw [attempt_bind_ok hresult]
      exact hfirst.cons (ih hothers (hfirst.isPlain ht))

/-! ## Writing the files -/

/-- A plain tree that is another one but for some places. -/
structure Keeps (t : FileTree) (S : Place → Prop) (t' : FileTree) : Prop where
  current_eq : t'.current = t.current
  isPlain : t'.IsPlain
  lookup_eq : ∀ x, ¬ S x → t'.lookup x = t.lookup x

variable {S S' : Place → Prop} {file : GeneratedFile}

theorem Keeps.trans (h : t.Keeps S t') (h' : t'.Keeps S t'') : t.Keeps S t'' where
  current_eq := h'.current_eq.trans h.current_eq
  isPlain := h'.isPlain
  lookup_eq x hx := (h'.lookup_eq x hx).trans (h.lookup_eq x hx)

theorem Keeps.mono (h : t.Keeps S t') (hS : ∀ x, S x → S' x) : t.Keeps S' t' where
  current_eq := h.current_eq
  isPlain := h.isPlain
  lookup_eq x hx := h.lookup_eq x (mt (hS x) hx)

/-- What writing a file comes to. -/
inductive Wrote (t : FileTree) (out : Path) (file : GeneratedFile) :
    Except IoFailure Path × FileTree → Prop
  | done {t' : FileTree} (keeps : t.Keeps (· = t.goal (out.join file.path)) t')
      (free : t.lookup (t.goal (out.join file.path)) ≠ some .directory)
      (contents : t'.lookup (t.goal (out.join file.path)) = some (.file file.contents)) :
      Wrote t out file (.ok (out.join file.path), t')
  | failed {e : IoFailure} {t' : FileTree} (keeps : t.Keeps (fun _ => False) t')
      (taken : t.lookup (t.goal (out.join file.path)) = some .directory) :
      Wrote t out file (.error e, t')

/-- A file is in a directory that can be created again without changing anything. -/
theorem exists_attempt_parent (launcher : Launcher) (searchPath : List Path) (hne : names ≠ [])
    (hnames : ∀ n ∈ names ++ [name], Path.IsName n)
    (ht : t.IsPlain) (hproper : out.IsProper)
    (hleads : t.Leads (t.origin out) (out.steps ++ names)) :
    ∃ q t', (out.join (.ofNames (names ++ [name]))).parent? = some q
      ∧ t.attempt (Publisher.onPath q ((host launcher searchPath).makeDirectories q)) = (.ok (), t')
      ∧ t.Grows (fun _ => False) t' := by
  have hsteps : ∀ n ∈ names ++ [name], Path.IsStep n := fun n hn => (hnames n hn).toIsStep
  obtain ⟨outer, hends⟩ := Path.exists_endsWith_join out hsteps
  obtain ⟨q, hparent, habove⟩ := Path.exists_parent hends
  have hqsteps : q.steps = out.steps ++ names := by
    rw [habove.steps_eq, ← hends.dropLast_steps, Path.steps_join out (by simp) hsteps,
      ← List.append_assoc, List.dropLast_concat]
  have hqorigin : t.origin q = t.origin out := by
    rw [origin, habove.isAbsolute_eq, ← origin, origin_join (by simp) hnames]
  have hqne : q.text ≠ "" := by
    intro hempty
    rw [Path.steps, Path.segments, hempty] at hqsteps
    exact hne (List.append_eq_nil_iff.1 hqsteps.symm).2
  have hqproper : q.IsProper :=
    fun hmem => (isProper_join (by simp) hnames).2 hproper (habove.starts.subset hmem)
  rw [← hqorigin, ← hqsteps] at hleads
  obtain ⟨t', hmade, hgrows⟩ := exists_makeDirectories_eq ht habove.trim hqne hqproper hleads
  exact ⟨q, t', hparent, attempt_makeDirectories_done hmade, hgrows⟩

theorem writeOne_eq {m : Type → Type} [Monad m] {host : Host m} {q : Path}
    (hparent : (out.join file.path).parent? = some q) :
    Publisher.writeOne ⟨out, clean⟩ host file
      = (do
        Publisher.onPath q (host.makeDirectories q)
        Publisher.onPath (out.join file.path) (host.writeFile (out.join file.path) file.contents)
        return out.join file.path) := by
  delta Publisher.writeOne
  simp only [hparent]

/-- Where the directory of a file is, the file is written unless there is a directory in its
    place. -/
theorem wrote_writeOne (launcher : Launcher) (searchPath : List Path) (clean : Bool)
    (hne : names ≠ []) (hnames : ∀ n ∈ names ++ [name], Path.IsName n)
    (hpath : file.path = .ofNames (names ++ [name])) (ht : t.IsPlain) (hproper : out.IsProper)
    (hleads : t.Leads (t.origin out) (out.steps ++ names)) :
    t.Wrote out file
      (t.attempt (Publisher.writeOne ⟨out, clean⟩ (host launcher searchPath) file)) := by
  have hsteps : ∀ n ∈ names ++ [name], Path.IsStep n := fun n hn => (hnames n hn).toIsStep
  obtain ⟨q, t', hparent, hmade, hgrows⟩ := exists_attempt_parent launcher searchPath hne
    hnames ht hproper hleads
  obtain ⟨outer, hends⟩ := Path.exists_endsWith_join out hsteps
  rw [← hpath] at hparent hends
  rw [writeOne_eq hparent, attempt_bind_ok hmade]
  -- the file is written into the tree in which the directory has been created again
  have ht' := hgrows.isPlain ht
  have hsame := hgrows.lookup_eq fun _ => False.elim
  have hgoal : t'.goal (out.join file.path) = t.goal (out.join file.path) :=
    goal_congr hgrows.current_eq _
  have hleads' :
      t'.Leads (t'.origin (out.join file.path)) (out.join file.path).steps.dropLast := by
    rw [origin_congr hgrows.current_eq, hpath, origin_join (by simp) hnames,
      Path.steps_join out (by simp) hsteps, ← List.append_assoc, List.dropLast_concat]
    exact hgrows.leads hleads
  have hwrite := write_eq ht' hends (hsteps name (by simp)).ne_parent
    (by rwa [hpath, isProper_join (by simp) hnames]) hleads' file.contents
  rw [hgoal, hsame] at hwrite
  have hchanging : (host launcher searchPath).writeFile (out.join file.path) file.contents t'
      = t'.changing (t'.write (out.join file.path) file.contents) := rfl
  split at hwrite
  · next htaken =>
    rw [hwrite] at hchanging
    rw [attempt_bind_error (attempt_onPath hchanging)]
    exact .failed ⟨hgrows.current_eq, ht', fun x _ => hsame x⟩ htaken
  · next hfree =>
    have hconcat := goal_eq_concat (t := t') hends (hsteps name (by simp)).ne_parent
    rw [hwrite] at hchanging
    rw [attempt_bind_ok (attempt_onPath hchanging)]
    rw [hgoal] at hconcat
    have hplace : t.goal (out.join file.path) ≠ [] := by simp [hconcat]
    have hlookup := lookup_set t' hplace (.file file.contents)
    refine .done ⟨hgrows.current_eq, ?_, fun x hx => ?_⟩ hfree ?_
    · rw [hconcat]
      refine ht'.set (hleads' _ Place.goal_mem_way) (Or.inr ⟨⟨_, rfl⟩, ?_⟩)
      rwa [← hconcat, hsame]
    · rw [hlookup, if_neg hx, hsame]
    · rw [hlookup, if_pos rfl]

/-- No two files of a project are written in the same place. -/
theorem eq_of_goal_eq (hp : p.IsTree) {other : GeneratedFile} (hfile : file ∈ p.files)
    (hother : other ∈ p.files)
    (h : t.goal (out.join file.path) = t.goal (out.join other.path)) : file = other := by
  obtain ⟨names, name, hpath, hname, hnames, hhas⟩ := hp.has_file hfile
  obtain ⟨names', name', hpath', hname', hnames', hhas'⟩ := hp.has_file hother
  rw [hpath, hpath', goal_join (by simp) (Path.forall_isName_append (hp.isName hnames) hname),
    goal_join (by simp) (Path.forall_isName_append (hp.isName hnames') hname')] at h
  rw [List.append_cancel_left h] at hpath
  have heq : file.path.components = other.path.components := by rw [hpath, hpath']
  exact List.inj_on_of_nodup_map hp.nodup_files hfile hother heq

/-- What writing files comes to. -/
inductive WroteAll (t : FileTree) (out : Path) (files : List GeneratedFile) :
    Except IoFailure (List Path) × FileTree → Prop
  | done {t' : FileTree}
      (keeps : t.Keeps (fun x => ∃ file ∈ files, x = t.goal (out.join file.path)) t')
      (free : ∀ file ∈ files, t.lookup (t.goal (out.join file.path)) ≠ some .directory)
      (contents : ∀ file ∈ files,
        t'.lookup (t.goal (out.join file.path)) = some (.file file.contents)) :
      WroteAll t out files (.ok (files.map fun file => out.join file.path), t')
  | failed {e : IoFailure} {t' : FileTree}
      (keeps : t.Keeps (fun x => ∃ file ∈ files, x = t.goal (out.join file.path)) t')
      (taken : ∃ file ∈ files, t.lookup (t.goal (out.join file.path)) = some .directory) :
      WroteAll t out files (.error e, t')

section

variable {files : List GeneratedFile}
  (hother : ∀ f ∈ files, t.goal (out.join f.path) ≠ t.goal (out.join file.path))

include hother

/-- What is written later keeps the file that is written first. -/
theorem WroteAll.cons {first : Path} {paths : List Path} (h : t.Wrote out file (.ok first, t'))
    (hrest : t'.WroteAll out files (.ok paths, t'')) :
    t.WroteAll out (file :: files) (.ok (first :: paths), t'') := by
  cases h with
  | done keeps free contents =>
    cases hrest with
    | done keeps' free' contents' =>
      simp only [goal_congr keeps.current_eq] at keeps' free' contents'
      refine .done ((keeps.mono ?_).trans (keeps'.mono ?_)) ?_ ?_
      · exact fun x hx => ⟨file, List.mem_cons_self, hx⟩
      · exact fun x hx => hx.imp fun f hf => ⟨List.mem_cons_of_mem _ hf.1, hf.2⟩
      · refine List.forall_mem_cons.2 ⟨free, fun f hf => ?_⟩
        rw [← keeps.lookup_eq _ (hother f hf)]
        exact free' f hf
      · refine List.forall_mem_cons.2 ⟨?_, contents'⟩
        rw [keeps'.lookup_eq, contents]
        rintro ⟨f, hf, heq⟩
        exact hother f hf heq.symm

theorem WroteAll.cons_of_error {first : Path} {e : IoFailure}
    (h : t.Wrote out file (.ok first, t')) (hrest : t'.WroteAll out files (.error e, t'')) :
    t.WroteAll out (file :: files) (.error e, t'') := by
  cases h with
  | done keeps free contents =>
    cases hrest with
    | failed keeps' taken =>
      simp only [goal_congr keeps.current_eq] at keeps' taken
      obtain ⟨f, hf, htaken⟩ := taken
      refine .failed ((keeps.mono ?_).trans (keeps'.mono ?_))
        ⟨f, List.mem_cons_of_mem _ hf, ?_⟩
      · exact fun x hx => ⟨file, List.mem_cons_self, hx⟩
      · exact fun x hx => hx.imp fun f hf => ⟨List.mem_cons_of_mem _ hf.1, hf.2⟩
      · rw [← htaken, keeps.lookup_eq _ (hother f hf)]

end

/-- Writing a file takes no directory away. -/
theorem Wrote.leads {first : Path} {place : Place} {steps : List String}
    (h : t.Wrote out file (.ok first, t')) (hleads : t.Leads place steps) :
    t'.Leads place steps := by
  cases h with
  | done keeps free contents =>
    intro v hv
    rw [keeps.lookup_eq v fun heq => free (heq ▸ hleads v hv)]
    exact hleads v hv

theorem Wrote.current_eq {first : Path} (h : t.Wrote out file (.ok first, t')) :
    t'.current = t.current := by
  cases h with
  | done keeps => exact keeps.current_eq

theorem Wrote.isPlain {first : Path} (h : t.Wrote out file (.ok first, t')) : t'.IsPlain := by
  cases h with
  | done keeps => exact keeps.isPlain

/-- Files of a project are written one after the other, until a directory is in the place of one. -/
theorem wroteAll_writeAll (launcher : Launcher) (searchPath : List Path) (clean : Bool)
    (hp : p.IsTree) {files : List GeneratedFile}
    (hsub : ∀ file ∈ files, file ∈ p.files) (hnodup : files.Nodup) (ht : t.IsPlain)
    (hproper : out.IsProper)
    (hleads : ∀ names, p.Has names .directory → t.Leads (t.origin out) (out.steps ++ names)) :
    t.WroteAll out files
      (t.attempt (Publisher.writeAll ⟨out, clean⟩ (host launcher searchPath) files)) := by
  induction files generalizing t with
  | nil => exact .done ⟨rfl, ht, fun _ _ => rfl⟩ (by simp) (by simp)
  | cons file rest ih =>
    obtain ⟨hmem, hothers⟩ := List.forall_mem_cons.1 hsub
    obtain ⟨hnot, hnodup⟩ := List.nodup_cons.1 hnodup
    obtain ⟨names, name, hpath, hname, hnames, -⟩ := hp.has_file hmem
    obtain ⟨more, hmore⟩ := hp.exists_rest hnames
    have hfirst := wrote_writeOne launcher searchPath clean (by simp [hmore])
      (Path.forall_isName_append (hp.isName hnames) hname) hpath ht hproper (hleads names hnames)
    have hother : ∀ f ∈ rest, t.goal (out.join f.path) ≠ t.goal (out.join file.path) := by
      intro f hf heq
      exact hnot (eq_of_goal_eq hp (hothers f hf) hmem heq ▸ hf)
    rw [Publisher.writeAll]
    generalize hresult : t.attempt (Publisher.writeOne _ _ file) = result at hfirst
    obtain ⟨⟨e⟩ | ⟨first⟩, t'⟩ := result
    · rw [attempt_bind_error hresult]
      cases hfirst with
      | failed keeps taken =>
        exact .failed (keeps.mono fun _ => False.elim) ⟨file, List.mem_cons_self, taken⟩
    · rw [attempt_bind_ok hresult]
      have hrest := ih hothers hnodup hfirst.isPlain fun names hnames => by
        rw [origin_congr hfirst.current_eq]
        exact hfirst.leads (hleads names hnames)
      generalize hresult' : t'.attempt (Publisher.writeAll _ _ rest) = result' at hrest
      obtain ⟨⟨e⟩ | ⟨paths⟩, t''⟩ := result'
      · rw [attempt_bind_error hresult']
        exact .cons_of_error hother hfirst hrest
      · rw [attempt_bind_ok hresult']
        exact .cons hother hfirst hrest

/-! ## Removing what was there -/

/-- Where a project is written below a path. -/
def top (t : FileTree) (out : Path) (p : GeneratedProject) : Place := t.goal out ++ [p.name]

/-- A tree after what was written before has been removed, if that is wanted and it is found. -/
inductive Cleaned (t : FileTree) (p : GeneratedProject) (out : Path) (clean : Bool) :
    FileTree → Prop
  | kept (missing : clean = true → t.node? (out.child p.name) = none) : Cleaned t p out clean t
  | removed {t' : FileTree} (clean_eq : clean = true)
      (found : t.node? (out.child p.name) = some .directory)
      (empties : t.Empties (t.top out p) t') : Cleaned t p out clean t'

/-- What removing an old project comes to. -/
inductive Removed (t : FileTree) (p : GeneratedProject) (out : Path) (clean : Bool) :
    Except IoFailure Unit × FileTree → Prop
  | done {t' : FileTree} (cleaned : t.Cleaned p out clean t') : Removed t p out clean (.ok (), t')
  | refused {e : IoFailure} {node : FileNode} (clean_eq : clean = true)
      (found : t.node? (out.child p.name) = some node) (file : node ≠ .directory) :
      Removed t p out clean (.error e, t)

theorem child_eq (out : Path) (name : String) :
    out.child name = out.join (.ofNames [name]) := by
  rw [Path.child, Path.ofNames, String.intercalate_singleton]

theorem goal_child (hp : p.IsTree) : t.goal (out.child p.name) = t.top out p := by
  rw [child_eq, goal_join (by simp) (hp.isName hp.top)]
  rfl

theorem exists_endsWith_child (hp : p.IsTree) (out : Path) :
    ∃ outer, (out.child p.name).EndsWith outer p.name := by
  rw [child_eq]
  exact @Path.exists_endsWith_join [] p.name out fun n hn => (hp.isName hp.top n hn).toIsStep

theorem removed_removeOld (launcher : Launcher) (searchPath : List Path) (clean : Bool)
    (out : Path) (hp : p.IsTree) (ht : t.IsPlain) :
    t.Removed p out clean
      (t.attempt (Publisher.removeOld ⟨out, clean⟩ (host launcher searchPath) p.name)) := by
  cases clean with
  | false => exact .done (.kept nofun)
  | true =>
    obtain ⟨outer, hends⟩ := exists_endsWith_child hp out
    have hname := (hp.isName hp.top p.name (by simp)).ne_parent
    have hexists : t.attempt (liftM ((host launcher searchPath).pathExists (out.child p.name)))
        = (.ok (t.node? (out.child p.name)).isSome, t) := rfl
    have hremove : ∀ {result : Except FileError Unit} {t'},
        t.removeTree (out.child p.name) = (result, t') →
          (host launcher searchPath).removeTree (out.child p.name) t = (told result, t') :=
      fun h => congrArg (Prod.map told id) h
    show t.Removed p out true (t.attempt (liftM _ >>= _))
    rw [attempt_bind_ok hexists]
    cases hnode : t.node? (out.child p.name) with
    | none => exact .done (.kept fun _ => hnode)
    | some node =>
      by_cases hfile : node = .directory
      · rw [hfile] at hnode
        obtain ⟨t', hremoved, hempties⟩ := exists_empties ht hends hname hnode
        rw [goal_child hp] at hempties
        show t.Removed p out true (t.attempt (Publisher.onPath _ _))
        rw [attempt_onPath (hremove hremoved)]
        exact .done (.removed rfl hnode hempties)
      · have hrefused := removeTree_eq_of_file ht hends hnode hfile
        show t.Removed p out true (t.attempt (Publisher.onPath _ _))
        rw [attempt_onPath (hremove hrefused)]
        exact .refused rfl hnode hfile

theorem Cleaned.current_eq (h : t.Cleaned p out clean t') : t'.current = t.current := by
  cases h with
  | kept => rfl
  | removed _ _ empties => exact empties.current_eq

theorem Cleaned.isPlain (ht : t.IsPlain) (h : t.Cleaned p out clean t') : t'.IsPlain := by
  cases h with
  | kept => exact ht
  | removed _ _ empties => exact empties.isPlain

/-! ## All stages -/

end FileTree

namespace GeneratedProject

/-- The places of the files when a project has been written below a path. -/
def Fills (p : GeneratedProject) (t : FileTree) (out : Path) (x : Place) : Prop :=
  ∃ names contents, p.Has names (.file contents) ∧ x = t.goal out ++ names

theorem fills_congr (h : t'.current = t.current) : p.Fills t' out = p.Fills t out := by
  funext x
  rw [Fills, Fills, FileTree.goal_congr h]

/-- The file of a project whose place is where names lead. -/
theorem IsTree.exists_goal_eq (hp : p.IsTree) (t : FileTree) (out : Path) {contents : String}
    (h : p.Has names (.file contents)) : ∃ file ∈ p.files, file.contents = contents
      ∧ t.goal (out.join file.path) = t.goal out ++ names := by
  obtain ⟨file, hfile, hpath, hcontents, hnames, ⟨rest, hrest⟩, -⟩ := hp.exists_file h
  refine ⟨file, hfile, hcontents, ?_⟩
  rw [hpath, FileTree.goal_join (by simp [hrest]) hnames]

theorem IsTree.fills_iff (hp : p.IsTree) :
    p.Fills t out x ↔ ∃ file ∈ p.files, x = t.goal (out.join file.path) := by
  constructor
  · rintro ⟨names, contents, hhas, rfl⟩
    obtain ⟨file, hfile, -, hgoal⟩ := hp.exists_goal_eq t out hhas
    exact ⟨file, hfile, hgoal.symm⟩
  · rintro ⟨file, hfile, rfl⟩
    obtain ⟨names, name, hpath, hname, hnames, hhas⟩ := hp.has_file hfile
    refine ⟨_, _, hhas, ?_⟩
    rw [hpath, FileTree.goal_join (by simp) (Path.forall_isName_append (hp.isName hnames) hname)]

end GeneratedProject

namespace FileTree

/-- What writing a project below a path comes to: it ends in the first stage that fails. -/
inductive Published (t : FileTree) (p : GeneratedProject) (out : Path) (clean : Bool) :
    Except IoFailure (List Path) × FileTree → Prop
  | refused {e : IoFailure} {node : FileNode} (clean_eq : clean = true)
      (found : t.node? (out.child p.name) = some node) (file : node ≠ .directory) :
      Published t p out clean (.error e, t)
  | stopped {e : IoFailure} {t₁ t₂ : FileTree} (cleaned : t.Cleaned p out clean t₁)
      (grows : t₁.Grows (p.Opens t out) t₂)
      (blocked : t₁.lookup (t.origin out) = some .directory → out.IsProper →
        ∃ v, p.Opens t out v ∧ t₁.Blocked v) : Published t p out clean (.error e, t₂)
  | taken {e : IoFailure} {t₁ t₂ t₃ : FileTree} (cleaned : t.Cleaned p out clean t₁)
      (grows : t₁.Grows (p.Opens t out) t₂) (keeps : t₂.Keeps (p.Fills t out) t₃)
      (taken : ∃ x, p.Fills t out x ∧ t₂.lookup x = some .directory) :
      Published t p out clean (.error e, t₃)
  | done {t₁ t₂ t₃ : FileTree} (cleaned : t.Cleaned p out clean t₁)
      (grows : t₁.Grows (p.Opens t out) t₂) (proper : out.IsProper)
      (directories : ∀ v, p.Opens t out v → t₂.lookup v = some .directory)
      (free : ∀ x, p.Fills t out x → t₂.lookup x ≠ some .directory)
      (keeps : t₂.Keeps (p.Fills t out) t₃)
      (contents : ∀ names contents, p.Has names (.file contents) →
        t₃.lookup (t.goal out ++ names) = some (.file contents)) :
      Published t p out clean (.ok (p.files.map fun file => out.join file.path), t₃)

/-- Directories that lead to those of a project make up the ways to them. -/
theorem lookup_of_opens (hp : p.IsTree)
    (h : ∀ names, p.Has names .directory → t'.Leads (t.origin out) (out.steps ++ names))
    (hv : p.Opens t out v) : t'.lookup v = some .directory := by
  rcases hv with hv | ⟨names, hnames, rfl⟩
  · exact h _ hp.top v (Place.mem_way_append.2 (Or.inl hv))
  · refine h _ hnames _ ?_
    have hgoal : t.goal out ++ names = Place.goal (t.origin out) (out.steps ++ names) := by
      rw [Place.goal_append, Place.goal_names fun n hn => (hp.isName hnames n hn).ne_parent]
      rfl
    rw [hgoal]
    exact Place.goal_mem_way

/-- The last stage of writing a project. -/
theorem published_writeAll (launcher : Launcher) (searchPath : List Path) (hp : p.IsTree)
    {t₁ t₂ : FileTree} (cleaned : t.Cleaned p out clean t₁) (grows : t₁.Grows (p.Opens t out) t₂)
    (ht₂ : t₂.IsPlain) (hproper : out.IsProper)
    (hleads : ∀ names, p.Has names .directory → t₂.Leads (t.origin out) (out.steps ++ names)) :
    t.Published p out clean
      (t₂.attempt (Publisher.writeAll ⟨out, clean⟩ (host launcher searchPath) p.files)) := by
  have hcurrent : t₂.current = t.current := grows.current_eq.trans cleaned.current_eq
  have hfills : ∀ x, p.Fills t out x ↔ ∃ file ∈ p.files, x = t₂.goal (out.join file.path) := by
    intro x
    simp only [hp.fills_iff, goal_congr hcurrent]
  have hwritten := wroteAll_writeAll launcher searchPath clean hp (fun _ h => h)
    (.of_map _ hp.nodup_files) ht₂ hproper (by rwa [origin_congr hcurrent])
  generalize t₂.attempt (Publisher.writeAll _ _ _) = result at hwritten
  cases hwritten with
  | failed keeps taken =>
    obtain ⟨file, hfile, htaken⟩ := taken
    exact .taken cleaned grows (keeps.mono fun x => (hfills x).2)
      ⟨_, (hfills _).2 ⟨file, hfile, rfl⟩, htaken⟩
  | done keeps free contents =>
    refine .done cleaned grows hproper (fun v => lookup_of_opens hp hleads) ?_
      (keeps.mono fun x => (hfills x).2) ?_
    · intro x hx
      obtain ⟨file, hfile, rfl⟩ := (hfills x).1 hx
      exact free file hfile
    · intro names contents' hhas
      obtain ⟨file, hfile, rfl, hgoal⟩ := hp.exists_goal_eq t out hhas
      rw [← hgoal, ← goal_congr hcurrent]
      exact contents file hfile

/-- Writing a project goes through the stages. -/
theorem published (launcher : Launcher) (searchPath : List Path) (clean : Bool) (out : Path)
    (hp : p.IsTree) (ht : t.IsPlain) :
    t.Published p out clean
      (t.attempt (Publisher.publish ⟨out, clean⟩ (host launcher searchPath) p)) := by
  have hremoved := removed_removeOld launcher searchPath clean out hp ht
  rw [Publisher.publish]
  generalize hremove : t.attempt (Publisher.removeOld _ _ _) = result at hremoved
  cases hremoved with
  | refused clean_eq found file =>
    rw [attempt_bind_error hremove]
    exact .refused clean_eq found file
  | @done t₁ cleaned =>
    have ht₁ := cleaned.isPlain ht
    have hopened := opened_makeAll launcher searchPath clean out hp (fun _ h => h) ht₁
    have hopens : p.Opens t₁ out = p.Opens t out :=
      GeneratedProject.opens_congr cleaned.current_eq
    have horigin := origin_congr cleaned.current_eq out
    rw [attempt_bind_ok hremove]
    generalize hmake : t₁.attempt (Publisher.makeAll _ _ _) = result at hopened
    cases hopened with
    | failed grows blocked =>
      rw [attempt_bind_error hmake]
      rw [hopens] at grows blocked
      rw [horigin] at blocked
      exact .stopped cleaned grows blocked
    | @done t₂ grows proper leads =>
      rw [attempt_bind_ok hmake]
      rw [hopens] at grows
      have hne : p.directories ≠ [] := List.ne_nil_of_mem (hp.mem_directories hp.top)
      refine published_writeAll launcher searchPath hp cleaned grows (grows.isPlain ht₁)
        (proper hne) fun names hnames => ?_
      obtain ⟨rest, hrest⟩ := hp.exists_rest hnames
      have hsteps : ∀ n ∈ names, Path.IsStep n := fun n hn => (hp.isName hnames n hn).toIsStep
      rw [← Path.steps_join out (by simp [hrest]) hsteps, ← horigin]
      exact leads _ (hp.mem_directories hnames)

end FileTree

end Flowchart
