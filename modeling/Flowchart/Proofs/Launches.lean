import Flowchart.Proofs.Commands
import Flowchart.Proofs.Surroundings
import Flowchart.Script.Machine

set_option autoImplicit false

/-! # Launches

A name is looked for in the directories of the search path, and the first thing found there that can
be started is launched. A text is started by the program that its first line names, which may be a
text again. A launch that fails changes nothing. A program that runs, whatever script it is, leaves
everything in directories, and so does a run of the command line that launches it. -/

namespace Flowchart

variable {t : FileTree}

/-! ## Searching -/

namespace Launching

/-- What a path that a script names leads to. -/
def node? (t : FileTree) (path : String) : Option FileNode :=
  t.node? ⟨Text.Utf8.gather path.toList⟩

/-- A search stops at programs, and at texts that may name one. -/
def isStartable (t : FileTree) (path : String) : Bool :=
  match node? t path with
  | some (.program _) => true
  | some (.file contents) => contents.startsWith "#!"
  | _ => false

theorem node?_eq_some_iff {path : String} {node : FileNode} :
    node? t path = some node ↔
      ∃ place, t.find ⟨Text.Utf8.gather path.toList⟩ = .ok (place, node) := by
  unfold node? FileTree.node?
  split
  · next place node' hfind => simp [hfind]
  · next e hfind => simp [hfind]

variable {name path : String} {failure : FileError} {directories : List String}

theorem stop_eq_ok_iff (failure : FileError) :
    stop t path failure = .ok () ↔ isStartable t path = true := by
  unfold stop isStartable node? FileTree.node?
  split
  · next hfind => simp [hfind]
  · next hfind => simp [hfind]
  · next found hprogram hfile hfind =>
    obtain ⟨place, node⟩ := found
    rw [hfind]
    cases node with
    | program program => exact absurd rfl (hprogram place program)
    | file contents => exact absurd rfl (hfile place contents)
    | directory | device => simp
  all_goals
    next hfind => simp [hfind]

/-- A search finds the first path at which it stops. -/
theorem search_eq_ok_iff : search t name failure directories = .ok path ↔
    (directories.map (inDirectory · name)).find? (isStartable t) = some path := by
  induction directories generalizing failure with
  | nil => simp [search]
  | cons directory rest ih =>
    rw [search, List.map_cons]
    rcases hstop : stop t (inDirectory directory name) failure with failure' | ⟨⟩
    · have hstart : isStartable t (inDirectory directory name) = false := by
        rw [← Bool.not_eq_true, ← stop_eq_ok_iff failure, hstop]
        rintro ⟨⟩
      rw [List.find?_cons_of_neg (by simp [hstart])]
      exact ih
    · rw [List.find?_cons_of_pos ((stop_eq_ok_iff failure).1 hstop)]
      simp

/-- Where a command is found: a name with a slash in it is a path already. -/
def Locates (s : Shell) (name path : String) : Prop :=
  if name.toList.contains '/' then path = name
  else (s.searchPath.map (inDirectory · name)).find? (isStartable s.files) = some path

theorem locate_eq_ok_iff {s : Shell} : locate s name = .ok path ↔ Locates s name path := by
  unfold locate Locates
  split
  · simp [eq_comm]
  · exact search_eq_ok_iff

/-! ## Readers of texts -/

/-- Launching a path comes to running a program, with a number of texts on the way. -/
inductive LeadsTo (t : FileTree) : Nat → String → String → List String → Executable → Prop where
  | program {path called program : String} {arguments : List String}
      (h : node? t path = some (.program program)) :
      LeadsTo t 0 path called arguments ⟨program, called, arguments⟩
  | text {path called contents reader : String} {arguments more : List String} {n : Nat}
      {e : Executable} (h : node? t path = some (.file contents))
      (hreader : interpreter? (Text.Utf8.spread contents) = some (some (reader, more)))
      (hleads : LeadsTo t n reader reader (more ++ path :: arguments) e) :
      LeadsTo t (n + 1) path called arguments e

variable {depth : Nat} {called : String} {arguments : List String} {e : Executable}

theorem start_eq_ok_iff {how : Start} : start t path = .ok how ↔
    (∃ program, node? t path = some (.program program) ∧ how = .program program)
      ∨ ∃ contents reader more, node? t path = some (.file contents)
        ∧ interpreter? (Text.Utf8.spread contents) = some (some (reader, more))
        ∧ how = .reader reader more := by
  unfold start
  constructor
  · intro h
    obtain ⟨⟨place, node⟩, hfind, h⟩ := bind_eq_ok.1 h
    have hnode := node?_eq_some_iff.2 ⟨place, hfind⟩
    dsimp only at h
    split at h
    · cases h
      exact Or.inl ⟨_, hnode, rfl⟩
    · cases h
    · cases h
    · split at h
      · cases h
      · cases h
      · next hreader =>
        cases h
        exact Or.inr ⟨_, _, _, hnode, hreader, rfl⟩
  · rintro (⟨program, hnode, rfl⟩ | ⟨contents, reader, more, hnode, hreader, rfl⟩)
    · obtain ⟨place, hfind⟩ := node?_eq_some_iff.1 hnode
      exact bind_eq_ok.2 ⟨_, hfind, rfl⟩
    · obtain ⟨place, hfind⟩ := node?_eq_some_iff.1 hnode
      refine bind_eq_ok.2 ⟨_, hfind, ?_⟩
      simp only [hreader]
      rfl

theorem start_eq_program_iff {program : String} :
    start t path = .ok (.program program) ↔ node? t path = some (.program program) := by
  simp [start_eq_ok_iff]

theorem start_eq_reader_iff {reader : String} {more : List String} :
    start t path = .ok (.reader reader more) ↔ ∃ contents, node? t path = some (.file contents)
      ∧ interpreter? (Text.Utf8.spread contents) = some (some (reader, more)) := by
  simp [start_eq_ok_iff]

/-- A path can be launched exactly if it leads to a program in few enough steps. Texts that name
    each other as readers lead nowhere. -/
theorem executable_eq_ok_iff : executable t depth path called arguments = .ok e ↔
    ∃ n ≤ depth, LeadsTo t n path called arguments e := by
  constructor
  · intro h
    fun_induction executable t depth path called arguments with
    | case1 | case3 => cases h
    | case2 depth path called arguments program hstart =>
      cases h
      exact ⟨0, Nat.zero_le _, .program (start_eq_program_iff.1 hstart)⟩
    | case4 path called arguments reader more hstart depth ih =>
      obtain ⟨contents, hnode, hreader⟩ := start_eq_reader_iff.1 hstart
      obtain ⟨n, hle, hleads⟩ := ih h
      exact ⟨n + 1, Nat.succ_le_succ hle, .text hnode hreader hleads⟩
  · rintro ⟨n, hle, hleads⟩
    -- Every text on the way takes one from the depth.
    induction hleads generalizing depth with
    | program hnode =>
      unfold executable
      rw [start_eq_program_iff.2 hnode]
    | text hnode hreader _ ih =>
      obtain ⟨depth, rfl⟩ := Nat.exists_eq_add_of_le' (Nat.one_le_of_lt hle)
      unfold executable
      rw [start_eq_reader_iff.2 ⟨_, hnode, hreader⟩]
      exact ih (Nat.le_of_succ_le_succ hle)

/-- What a process starts for a path. Neither the path nor an argument has an end inside. -/
theorem started_eq_ok_iff {s : Shell} {p : Path} : started s p arguments = .ok e ↔
    (∀ text ∈ p.text :: arguments, Char.ofNat 0 ∉ text.toList) ∧ p.text ≠ "" ∧
      ∃ path, Locates s (String.ofList (Text.Utf8.spread p.text)) path ∧
        ∃ n ≤ maxDepth, LeadsTo s.files n path (String.ofList (Text.Utf8.spread p.text))
          (arguments.map fun text => String.ofList (Text.Utf8.spread text)) e := by
  have hbroken : (p.text.toList.contains (Char.ofNat 0)
      || arguments.any fun text => text.toList.contains (Char.ofNat 0)) = false
      ↔ ∀ text ∈ p.text :: arguments, Char.ofNat 0 ∉ text.toList := by simp
  unfold started
  dsimp only
  split
  · next h =>
    refine ⟨by rintro ⟨⟩, fun ⟨hclean, _⟩ => ?_⟩
    rw [hbroken.2 hclean] at h
    cases h
  · next h =>
    have hclean := hbroken.1 (Bool.not_eq_true _ ▸ h)
    split
    · next hempty => simp [hempty]
    · next hne =>
      constructor
      · intro hstarted
        obtain ⟨path, hlocate, hstarted⟩ := bind_eq_ok.1 hstarted
        exact ⟨hclean, hne, path, locate_eq_ok_iff.1 hlocate, executable_eq_ok_iff.1 hstarted⟩
      · rintro ⟨-, -, path, hlocate, hleads⟩
        exact bind_eq_ok.2 ⟨path, locate_eq_ok_iff.2 hlocate, executable_eq_ok_iff.2 hleads⟩

end Launching

/-! ## Launching -/

/-- A process that a host starts has a stream for every descriptor. -/
theorem Shell.isConsistent_launched (t : FileTree) (searchPath : String) :
    (Shell.launched t searchPath).IsConsistent := by
  constructor
  · intro number h
    have hnumber : number = 0 ∨ number = 1 ∨ number = 2 := by
      simpa [HasStream, launched] using h
    simp only [launched]
    omega
  · intro d number h
    have hnumber : d = 0 ∧ number = 0 ∨ d = 1 ∧ number = 1 ∨ d = 2 ∧ number = 2 := by
      simpa [launched] using h
    simp only [HasStream, launched, List.map_cons, List.map_nil, List.mem_cons]
    omega

/-- A launched process never loses the streams that its descriptors stand for. -/
theorem Launching.isConsistent_become (t : FileTree) (searchPath : String) (e : Executable) :
    ((become Running.command maxChain e).run (Shell.launched t searchPath)).2.IsConsistent :=
  (isSafe_become Running.isSafe_command maxChain e _).isConsistent
    (Shell.isConsistent_launched t searchPath)

section

variable (searchPath : String) (p : Path) (arguments : List String) (t : FileTree)

/-- A launch fails if no program can be started, and for no other reason. -/
theorem launcher_eq_error_iff {e : FileError} : (launcher searchPath p arguments t).1 = .error e
    ↔ Launching.started (Shell.launched t searchPath) p arguments = .error e := by
  unfold launcher
  dsimp only
  split
  · next h => simp [h]
  · next h =>
    rw [h]
    constructor
    · rintro ⟨⟩
    · rintro ⟨⟩

/-- A launch that fails changes nothing. -/
theorem launcher_of_error {e : FileError} (h : (launcher searchPath p arguments t).1 = .error e) :
    (launcher searchPath p arguments t).2 = t := by
  have hstarted := (launcher_eq_error_iff searchPath p arguments t).1 h
  unfold launcher
  dsimp only
  rw [hstarted]

/-- Whatever program is launched, and whatever a script does, everything stands in a directory
    afterwards if it did before. -/
theorem evolves_launcher : t.Evolves (launcher searchPath p arguments t).2 := by
  unfold launcher
  dsimp only
  split
  · exact .refl
  · next e _ =>
    have hrun := Launching.isSafe_become Running.isSafe_command Launching.maxChain e
    exact (hrun (Shell.launched t searchPath)).files.withCurrent t.current

/-- Where paths start is a matter of each process. -/
theorem current_launcher : (launcher searchPath p arguments t).2.current = t.current := by
  unfold launcher
  dsimp only
  split
  · rfl
  · rfl

end

/-! ## Runs of the command line -/

namespace FileTree

instance : Std.Refl Evolves := ⟨fun _ => .refl⟩

instance : IsTrans FileTree Evolves := ⟨fun _ _ _ => .trans⟩

theorem evolves_changing {result : Except FileError FileTree}
    (h : ∀ t', result = .ok t' → t.Evolves t') : t.Evolves (t.changing result).2 := by
  unfold changing
  split
  · exact h _ rfl
  · exact .refl

/-- Writing and removing through a host keeps everything in directories if launching programs
    does. -/
theorem respects_host {launcher : Launcher} (searchPath : List Path)
    (h : ∀ p arguments (t : FileTree), t.Evolves (launcher p arguments t).2) :
    (host launcher searchPath).Respects Evolves where
  readText _ _ := .refl
  isFile _ _ := .refl
  pathExists _ _ := .refl
  makeDirectories p _ := evolves_makeDirectories p
  writeFile _ contents _ := evolves_changing fun _ hwritten => isOrderly_write contents hwritten
  removeTree p _ := evolves_removeTree p
  launch p arguments t := h p arguments t

/-- A run of the command line leaves everything in directories, also if `javac` is a script that
    does whatever it likes. -/
theorem evolves_run (programs : String) (searchPath : List Path) (arguments : List String)
    (t : FileTree) :
    t.Evolves ((Session.run (host (launcher programs) searchPath) arguments).run t).2 :=
  Session.respects_run (respects_host searchPath (evolves_launcher programs)) arguments t

end FileTree

theorem Machine.isRooted_files : Machine.files.IsRooted :=
  .of_nodes (by decide +kernel)

end Flowchart
