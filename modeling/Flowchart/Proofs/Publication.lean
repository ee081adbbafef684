import Flowchart.Proofs.Writing

set_option autoImplicit false

/-! # Publishing a project

Writing a project below a path is confined to one directory. When it succeeds, the project is there;
when what was there before has been removed, nothing else is. Writing it once more changes nothing.

The path itself may stand in the way of removing: it can lead to the directory of the project only
after directories have been created on its way, or through the directory that is removed. A path
without two dots does neither. -/

namespace Flowchart

variable {t t' t₁ : FileTree} {p : GeneratedProject} {out : Path} {clean : Bool} {x v : Place}
  {names : List String} {result : Except IoFailure (List Path) × FileTree}

namespace FileTree

/-! ## Paths below which a project can be written -/

/-- A path that is a directory or can be created: it starts in a directory, and nothing but
    directories is on its way. -/
structure CanHold (t : FileTree) (out : Path) : Prop where
  proper : out.IsProper
  origin : t.lookup (t.origin out) = some .directory
  free : ∀ v ∈ t.way out, ¬ t.Blocked v

/-- A path below which a project can be written anew. -/
structure CanRenew (t : FileTree) (out : Path) (p : GeneratedProject) : Prop
    extends CanHold t out where
  /-- An old project is found below the path if there is one. -/
  reaches : t.Leads (t.origin out) out.steps ∨ t.lookup (t.top out p) = none
  /-- The path does not start in the old project. -/
  outside : ¬ t.top out p <+: t.origin out
  /-- If the path leads through the old project, then through directories of the new one. -/
  through : ∀ v ∈ t.way out, t.top out p <+: v →
    ∃ names, p.Has names .directory ∧ v = t.goal out ++ names

/-- A path can be created as a directory exactly if nothing is in the way. -/
theorem makeDirectories_isOk_iff (ht : t.IsPlain) {outer : List String} {last : String}
    (h : out.EndsWith outer last) (horigin : t.lookup (t.origin out) = some .directory) :
    (t.makeDirectories out).1.isOk = true ↔ t.CanHold out := by
  have hmade := ensured ht (.ends h) h.text_ne_empty
  generalize t.makeDirectories out = result at hmade
  cases hmade with
  | done grows proper leads =>
    refine iff_of_true rfl ⟨proper, horigin, fun v hv hblocked => ?_⟩
    exact (grows.blocked_iff.2 hblocked).2 (leads v hv)
  | failed grows blocked =>
    refine iff_of_false Bool.false_ne_true fun hhold => ?_
    obtain ⟨v, hv, hblocked⟩ := blocked horigin hhold.proper
    exact hhold.free v hv hblocked

/-- A path without two dots is above everything that is removed. -/
theorem CanHold.canRenew (h : t.CanHold out) (ht : t.IsPlain) (hdots : ".." ∉ out.steps)
    (p : GeneratedProject) : t.CanRenew out p := by
  have hsteps : ∀ s ∈ out.steps, s ≠ ".." := fun s hs heq => hdots (heq ▸ hs)
  have hgoal : t.goal out = t.origin out ++ out.steps := Place.goal_names hsteps
  have hlonger : ∀ v ∈ t.way out, ¬ t.top out p <+: v := by
    intro v hv hbelow
    obtain ⟨inner, hinner, rfl⟩ := (Place.mem_way_names hsteps).1 hv
    have hle := hbelow.length_le
    have hinner := hinner.length_le
    simp only [top, hgoal, List.length_append, List.length_singleton] at hle
    omega
  refine ⟨h, ?_, hlonger _ Place.self_mem_way, fun v hv hbelow => absurd hbelow (hlonger v hv)⟩
  by_cases hleads : t.Leads (t.origin out) out.steps
  · exact Or.inl hleads
  · -- the path goes on from a place where there is nothing
    obtain ⟨v, hv, hnot⟩ := not_forall₂.1 hleads
    obtain ⟨inner, ⟨rest, hrest⟩, rfl⟩ := (Place.mem_way_names hsteps).1 hv
    have hne : rest ++ [p.name] ≠ [] := by simp
    have hbelow := ht.missing_below hnot hne
    right
    rw [top, hgoal, ← hrest]
    simpa only [List.append_assoc] using hbelow

/-! ## What is there after removing -/

theorem lookup_top (hp : p.IsTree) (ht : t.IsPlain) {node : FileNode}
    (hfound : t.node? (out.child p.name) = some node) : t.lookup (t.top out p) = some node := by
  obtain ⟨outer, hends⟩ := exists_endsWith_child hp out
  rw [node?_eq_some_iff ht.limits_eq hends, goal_child hp] at hfound
  exact hfound.2.2

/-- What is where a project is written is found if the path leads to a directory. -/
theorem node?_child_eq (hp : p.IsTree) (ht : t.IsPlain) (hproper : out.IsProper)
    (hleads : t.Leads (t.origin out) out.steps) :
    t.node? (out.child p.name) = t.lookup (t.top out p) := by
  have hnames := hp.isName hp.top
  have hsteps : ∀ n ∈ [p.name], Path.IsStep n := fun n hn => (hnames n hn).toIsStep
  obtain ⟨outer, hends⟩ := exists_endsWith_child hp out
  have hproper' : (out.child p.name).IsProper := by
    rwa [child_eq, isProper_join (by simp) hnames]
  have hleads' : t.Leads (t.origin (out.child p.name)) (out.child p.name).steps.dropLast := by
    rwa [child_eq, origin_join (by simp) hnames, Path.steps_join out (by simp) hsteps,
      List.dropLast_concat]
  ext node
  rw [node?_eq_some_iff ht.limits_eq hends, goal_child hp]
  exact ⟨fun h => h.2.2, fun h => ⟨hproper', hleads', h⟩⟩

theorem Cleaned.lookup_eq (h : t.Cleaned p out clean t₁) (hx : ¬ t.top out p <+: x) :
    t₁.lookup x = t.lookup x := by
  cases h with
  | kept => rfl
  | removed _ _ empties => exact empties.lookup_eq x hx

theorem Cleaned.eq_of_not_clean (h : t.Cleaned p out false t₁) : t₁ = t := by
  cases h with
  | kept => rfl
  | removed clean_eq => cases clean_eq

/-- What is where a project is to be written anew is found. -/
theorem CanRenew.found (h : t.CanRenew out p) (hp : p.IsTree) (ht : t.IsPlain) {node : FileNode}
    (hnode : t.lookup (t.top out p) = some node) : t.node? (out.child p.name) = some node := by
  rcases h.reaches with hleads | hnone
  · rw [node?_child_eq hp ht h.proper hleads, hnode]
  · rw [hnone] at hnode
    cases hnode

/-- If the old project is found, nothing of it is left but the directory it was in. -/
theorem CanRenew.lookup_cleaned (h : t.CanRenew out p) (hp : p.IsTree) (ht : t.IsPlain)
    (hcleaned : t.Cleaned p out true t₁) (hx : t.top out p <+: x) :
    t₁.lookup x = none ∨ x = t.top out p ∧ t₁.lookup x = some .directory := by
  cases hcleaned with
  | removed _ _ empties => exact empties.lookup_below x hx
  | kept missing =>
    have hnone : t.lookup (t.top out p) = none := by
      by_contra hsome
      obtain ⟨node, hnode⟩ := Option.ne_none_iff_exists'.1 hsome
      have hfound := h.found hp ht hnode
      rw [missing rfl] at hfound
      cases hfound
    obtain ⟨inner, rfl⟩ := hx
    left
    by_cases hinner : inner = []
    · rw [hinner, List.append_nil, hnone]
    · exact ht.missing_below (by simp [hnone]) hinner

/-! ## What is created below a path -/

/-- All that a project has lies below its name. -/
theorem top_starts (hp : p.IsTree) {node : FileNode} (h : p.Has names node) :
    t.top out p <+: t.goal out ++ names := by
  obtain ⟨rest, rfl⟩ := hp.has_rest h
  exact ⟨rest, by rw [top, List.append_assoc]; rfl⟩

theorem not_fills_outside (hp : p.IsTree) (hx : ¬ t.top out p <+: x) : ¬ p.Fills t out x := by
  rintro ⟨names, contents, hhas, rfl⟩
  exact hx (top_starts hp hhas)

/-- What is opened in the place of the project are its own directories. -/
theorem CanRenew.has_of_opens (h : t.CanRenew out p) (hv : p.Opens t out v)
    (hbelow : t.top out p <+: v) : ∃ names, p.Has names .directory ∧ v = t.goal out ++ names := by
  rcases hv with hv | hnames
  · exact h.through v hv hbelow
  · exact hnames

/-- After the directories have been created, there are no others in the place of the project. -/
theorem CanRenew.has_of_grows (h : t.CanRenew out p) (hp : p.IsTree) (ht : t.IsPlain)
    {t₂ : FileTree} (hcleaned : t.Cleaned p out true t₁) (hgrows : t₁.Grows (p.Opens t out) t₂)
    (hbelow : t.top out p <+: x) (hsome : t₂.lookup x ≠ none) :
    t₂.lookup x = some .directory ∧ ∃ names, p.Has names .directory ∧ x = t.goal out ++ names := by
  rcases hgrows.lookup_cases x with heq | ⟨-, hdirectory, hopens⟩
  · rcases h.lookup_cleaned hp ht hcleaned hbelow with hnone | ⟨rfl, hdirectory⟩
    · exact absurd (heq.trans hnone) hsome
    · exact ⟨heq.trans hdirectory, [p.name], hp.top, rfl⟩
  · exact ⟨hdirectory, h.has_of_opens hopens hbelow⟩

/-- Nothing is in the way of a project that is written anew. -/
theorem CanRenew.not_blocked (h : t.CanRenew out p) (hp : p.IsTree) (ht : t.IsPlain)
    (hcleaned : t.Cleaned p out true t₁) (hv : p.Opens t out v) : ¬ t₁.Blocked v := by
  intro hblocked
  by_cases hbelow : t.top out p <+: v
  · rcases h.lookup_cleaned hp ht hcleaned hbelow with hnone | ⟨-, hdirectory⟩
    · exact hblocked.1 hnone
    · exact hblocked.2 hdirectory
  · rw [Blocked, hcleaned.lookup_eq hbelow] at hblocked
    rcases hv with hway | ⟨names, hnames, rfl⟩
    · exact h.free v hway hblocked
    · exact hbelow (top_starts hp hnames)

/-- No directory is in the place of a file. -/
theorem CanRenew.not_taken (h : t.CanRenew out p) (hp : p.IsTree) (ht : t.IsPlain)
    {t₂ : FileTree} (hcleaned : t.Cleaned p out true t₁) (hgrows : t₁.Grows (p.Opens t out) t₂)
    (hx : p.Fills t out x) : t₂.lookup x ≠ some .directory := by
  intro htaken
  obtain ⟨names, contents, hhas, rfl⟩ := hx
  obtain ⟨-, names', hnames', heq⟩ := h.has_of_grows hp ht hcleaned hgrows
    (top_starts hp hhas) (by simp [htaken])
  rw [← List.append_cancel_left heq] at hnames'
  cases hp.eq_file hhas hnames'

/-! ## What writing changes -/

namespace Published

theorem isPlain (h : t.Published p out clean result) (ht : t.IsPlain) : result.2.IsPlain := by
  cases h with
  | refused => exact ht
  | stopped cleaned grows => exact grows.isPlain (cleaned.isPlain ht)
  | taken _ _ keeps | done _ _ _ _ _ keeps => exact keeps.isPlain

theorem current_eq (h : t.Published p out clean result) : result.2.current = t.current := by
  cases h with
  | refused => rfl
  | stopped cleaned grows => exact grows.current_eq.trans cleaned.current_eq
  | taken cleaned grows keeps | done cleaned grows _ _ _ keeps =>
    exact keeps.current_eq.trans (grows.current_eq.trans cleaned.current_eq)

/-- Outside of the project directories may be created on the way. -/
theorem confined (h : t.Published p out clean result) (hp : p.IsTree)
    (hx : ¬ t.top out p <+: x) : result.2.lookup x = t.lookup x
      ∨ t.lookup x = none ∧ result.2.lookup x = some .directory ∧ x ∈ t.way out := by
  have hgrown : ∀ {t₁ t₂ : FileTree}, t.Cleaned p out clean t₁ → t₁.Grows (p.Opens t out) t₂ →
      t₂.lookup x = t.lookup x
        ∨ t.lookup x = none ∧ t₂.lookup x = some .directory ∧ x ∈ t.way out := by
    intro t₁ t₂ cleaned grows
    rw [← cleaned.lookup_eq hx]
    refine (grows.lookup_cases x).imp_right fun ⟨hnone, hdirectory, hopens⟩ =>
      ⟨hnone, hdirectory, hopens.resolve_right ?_⟩
    rintro ⟨names, hnames, rfl⟩
    exact hx (top_starts hp hnames)
  cases h with
  | refused => exact Or.inl rfl
  | stopped cleaned grows => exact hgrown cleaned grows
  | taken cleaned grows keeps | done cleaned grows _ _ _ keeps =>
    show FileTree.lookup _ x = _ ∨ _ ∧ FileTree.lookup _ x = _ ∧ _
    rw [keeps.lookup_eq x (not_fills_outside hp hx)]
    exact hgrown cleaned grows

/-- The written files are listed in the order of the project. -/
theorem returned (h : t.Published p out clean result) (hok : result.1.isOk = true) :
    result.1 = .ok (p.files.map fun file => out.join file.path) := by
  cases h with
  | done => rfl
  | refused | stopped | taken => cases hok

/-- What the project needs as directories is there afterwards. -/
theorem opened (h : t.Published p out clean result) (hok : result.1.isOk = true)
    (hv : p.Opens t out v) : result.2.lookup v = some .directory := by
  cases h with
  | done _ _ _ directories free keeps =>
    have hdirectory := directories v hv
    rw [← hdirectory]
    exact keeps.lookup_eq v fun hfills => free v hfills hdirectory
  | refused | stopped | taken => cases hok

theorem proper (h : t.Published p out clean result) (hok : result.1.isOk = true) :
    out.IsProper := by
  cases h with
  | done _ _ proper => exact proper
  | refused | stopped | taken => cases hok

/-- All that the project has is there afterwards. -/
theorem present (h : t.Published p out clean result) (hok : result.1.isOk = true)
    {node : FileNode} (hnode : p.Has names node) :
    result.2.lookup (t.goal out ++ names) = some node := by
  cases node with
  | directory => exact h.opened hok (Or.inr ⟨names, hnode, rfl⟩)
  | file contents =>
    cases h with
    | done _ _ _ _ _ _ contents' => exact contents' names contents hnode
    | refused | stopped | taken => cases hok
  | device | program => exact hnode.elim

/-- Nothing that is there is changed if nothing is to be removed, but for the files. -/
theorem kept (h : t.Published p out false result) (hok : result.1.isOk = true) {node : FileNode}
    (hx : t.lookup x = some node) (hother : ¬ p.Fills t out x) :
    result.2.lookup x = some node := by
  cases h with
  | done cleaned grows _ _ _ keeps =>
    cases cleaned.eq_of_not_clean
    show FileTree.lookup _ x = _
    rw [keeps.lookup_eq x hother]
    rcases grows.lookup_cases x with heq | ⟨hnone, -⟩
    · rw [heq, hx]
    · rw [hnone] at hx
      cases hx
  | refused | stopped | taken => cases hok

/-- Writing once more changes nothing if nothing is removed before. -/
theorem repeated (h : t.Published p out false result)
    (hok : result.1.isOk = true) {result' : Except IoFailure (List Path) × FileTree}
    (h' : result.2.Published p out false result') :
    result'.1 = result.1 ∧ ∀ x, result'.2.lookup x = result.2.lookup x := by
  have hopens : p.Opens result.2 out = p.Opens t out := GeneratedProject.opens_congr h.current_eq
  have hfills : p.Fills result.2 out = p.Fills t out := GeneratedProject.fills_congr h.current_eq
  have hdirectories : ∀ v, p.Opens result.2 out v → result.2.lookup v = some .directory := by
    intro v hv
    rw [hopens] at hv
    exact h.opened hok hv
  -- all directories are there, so that creating them changes nothing
  have hgrown : ∀ {t₁ t₂ : FileTree}, result.2.Cleaned p out false t₁ →
      t₁.Grows (p.Opens result.2 out) t₂ → ∀ x, t₂.lookup x = result.2.lookup x := by
    intro t₁ t₂ cleaned grows
    cases cleaned.eq_of_not_clean
    exact grows.lookup_eq hdirectories
  cases h' with
  | refused clean_eq => cases clean_eq
  | stopped cleaned grows blocked =>
    cases cleaned.eq_of_not_clean
    obtain ⟨v, hv, hblocked⟩ :=
      blocked (hdirectories _ (Or.inl Place.self_mem_way)) (h.proper hok)
    exact absurd (hdirectories v hv) hblocked.2
  | taken cleaned grows keeps taken =>
    obtain ⟨x, hx, htaken⟩ := taken
    rw [hgrown cleaned grows x] at htaken
    rw [hfills] at hx
    obtain ⟨names, contents, hhas, rfl⟩ := hx
    rw [h.present hok hhas] at htaken
    cases htaken
  | done cleaned grows proper directories free keeps contents =>
    refine ⟨(h.returned hok).symm, fun x => ?_⟩
    show FileTree.lookup _ x = _
    by_cases hx : p.Fills result.2 out x
    · obtain ⟨names, contents', hhas, rfl⟩ := hx
      rw [contents names contents' hhas, goal_congr h.current_eq, h.present hok hhas]
    · rw [keeps.lookup_eq x hx, hgrown cleaned grows x]

/-! ## Writing anew -/

/-- A project is written anew unless there is a file in its place. -/
theorem isOk_iff (h : t.Published p out true result) (hp : p.IsTree) (ht : t.IsPlain)
    (hrenew : t.CanRenew out p) :
    result.1.isOk = true ↔ ∀ contents, t.lookup (t.top out p) ≠ some (.file contents) := by
  cases h with
  | done cleaned =>
    refine iff_of_true rfl fun contents hfile => ?_
    have hfound := hrenew.found hp ht hfile
    cases cleaned with
    | kept missing =>
      rw [missing rfl] at hfound
      cases hfound
    | removed _ found =>
      rw [found] at hfound
      cases hfound
  | refused _ found file =>
    refine iff_of_false Bool.false_ne_true fun hfree => ?_
    have hnode := lookup_top hp ht found
    rcases ht.node hnode with rfl | ⟨contents, rfl⟩
    · exact file rfl
    · exact hfree contents hnode
  | stopped cleaned grows blocked =>
    rw [cleaned.lookup_eq hrenew.outside] at blocked
    obtain ⟨v, hv, hblocked⟩ := blocked hrenew.origin hrenew.proper
    exact absurd hblocked (hrenew.not_blocked hp ht cleaned hv)
  | taken cleaned grows keeps taken =>
    obtain ⟨x, hx, htaken⟩ := taken
    exact absurd htaken (hrenew.not_taken hp ht cleaned grows hx)

/-- In the place of a project that is written anew there is nothing else. -/
theorem lookup_eq_iff (h : t.Published p out true result) (hp : p.IsTree) (ht : t.IsPlain)
    (hrenew : t.CanRenew out p) (hok : result.1.isOk = true) {rest : List String}
    {node : FileNode} :
    result.2.lookup (t.top out p ++ rest) = some node ↔ p.Has (p.name :: rest) node := by
  have hplace : t.top out p ++ rest = t.goal out ++ (p.name :: rest) := by
    rw [top, List.append_assoc]
    rfl
  refine ⟨fun hnode => ?_, fun hhas => hplace ▸ h.present hok hhas⟩
  cases h with
  | done cleaned grows _ _ _ keeps contents =>
    rw [hplace] at hnode
    by_cases hfills : p.Fills t out (t.goal out ++ (p.name :: rest))
    · obtain ⟨names, contents', hhas, heq⟩ := hfills
      rw [← List.append_cancel_left heq] at hhas
      rw [contents _ _ hhas] at hnode
      cases hnode
      exact hhas
    · rw [keeps.lookup_eq _ hfills] at hnode
      obtain ⟨hdirectory, names, hnames, heq⟩ := hrenew.has_of_grows hp ht cleaned grows
        ⟨rest, hplace⟩ (by simp [hnode])
      rw [hdirectory] at hnode
      cases hnode
      rwa [List.append_cancel_left heq]
  | refused | stopped | taken => cases hok

/-- What has been written anew can be written anew. -/
theorem canRenew (h : t.Published p out true result) (hrenew : t.CanRenew out p)
    (hok : result.1.isOk = true) : result.2.CanRenew out p := by
  have horigin := origin_congr h.current_eq out
  have hway := way_congr h.current_eq out
  have hgoal := goal_congr h.current_eq out
  have htop : result.2.top out p = t.top out p := by rw [top, top, hgoal]
  have hopened : ∀ v ∈ result.2.way out, result.2.lookup v = some .directory := by
    intro v hv
    rw [hway] at hv
    exact h.opened hok (Or.inl hv)
  exact {
    proper := hrenew.proper
    origin := hopened _ Place.self_mem_way
    free := fun v hv hblocked => hblocked.2 (hopened v hv)
    reaches := Or.inl hopened
    outside := by
      rw [htop, horigin]
      exact hrenew.outside
    through := by
      rw [htop, hway, hgoal]
      exact hrenew.through }

/-- Writing anew once more changes nothing. -/
theorem renewed (h : t.Published p out true result) (hp : p.IsTree) (ht : t.IsPlain)
    (hrenew : t.CanRenew out p) (hok : result.1.isOk = true)
    {result' : Except IoFailure (List Path) × FileTree}
    (h' : result.2.Published p out true result') :
    result'.1 = result.1 ∧ ∀ x, result'.2.lookup x = result.2.lookup x := by
  have ht' := h.isPlain ht
  have hrenew' := h.canRenew hrenew hok
  have htop : result.2.top out p = t.top out p := by rw [top, top, goal_congr h.current_eq]
  have hok' : result'.1.isOk = true := by
    rw [h'.isOk_iff hp ht' hrenew', htop]
    intro contents hfile
    rw [top, h.present hok hp.top] at hfile
    cases hfile
  refine ⟨(h'.returned hok').trans (h.returned hok).symm, fun x => ?_⟩
  by_cases hbelow : t.top out p <+: x
  · -- in its place there is the project and nothing else, both times
    obtain ⟨rest, rfl⟩ := hbelow
    ext node
    rw [h.lookup_eq_iff hp ht hrenew hok, ← htop, h'.lookup_eq_iff hp ht' hrenew' hok']
  · rcases h'.confined hp (htop.symm ▸ hbelow) with heq | ⟨hnone, -, hway⟩
    · exact heq
    · rw [way_congr h.current_eq] at hway
      rw [h.opened hok (Or.inl hway)] at hnone
      cases hnone

end Published

/-- What writing a project below a path comes to. -/
def publish (t : FileTree) (launcher : Launcher) (searchPath : List Path) (p : GeneratedProject)
    (out : Path) (clean : Bool) : Except IoFailure (List Path) × FileTree :=
  t.attempt (Publisher.publish ⟨out, clean⟩ (host launcher searchPath) p)

end FileTree

/-! ## Publishing what has been compiled -/

/-- How a project is written below a path: with and without removing what is there before, each time
    with a result and a tree that is left. -/
structure GeneratedProject.IsPublished (p : GeneratedProject) (out : Path)
    (run : Bool → FileTree → Except IoFailure (List Path) × FileTree) (t : FileTree) : Prop where
  /-- Whether it fails or not, nothing changes outside of the project, but that missing directories
      may be created on the way to it. -/
  confined : ∀ clean x, ¬ t.top out p <+: x → (run clean t).2.lookup x = t.lookup x
    ∨ t.lookup x = none ∧ (run clean t).2.lookup x = some .directory ∧ x ∈ t.way out
  /-- The written files are listed in the order of the project. -/
  returned : ∀ clean, (run clean t).1.isOk = true →
    (run clean t).1 = .ok (p.files.map fun file => out.join file.path)
  /-- If it does not fail, all that the project has is there. -/
  present : ∀ clean, (run clean t).1.isOk = true → ∀ names node, p.Has names node →
    (run clean t).2.lookup (t.goal out ++ names) = some node
  /-- If nothing is to be removed, nothing that is there changes but the files of the project. -/
  kept : (run false t).1.isOk = true → ∀ x node, t.lookup x = some node → ¬ p.Fills t out x →
    (run false t).2.lookup x = some node
  /-- If nothing is to be removed, writing once more changes nothing. -/
  repeated : (run false t).1.isOk = true → (run false (run false t).2).1 = (run false t).1
    ∧ ∀ x, (run false (run false t).2).2.lookup x = (run false t).2.lookup x
  /-- A path without two dots does not stand in the way of removing what is there. -/
  canRenew : t.CanHold out → ".." ∉ out.steps → t.CanRenew out p
  /-- With removing what is there it fails exactly if there is a file. -/
  renews_iff : t.CanRenew out p →
    ((run true t).1.isOk = true ↔ ∀ contents, t.lookup (t.top out p) ≠ some (.file contents))
  /-- With removing what is there, nothing but the project is there afterwards. -/
  lookup_eq_iff : t.CanRenew out p → (run true t).1.isOk = true → ∀ rest node,
    (run true t).2.lookup (t.top out p ++ rest) = some node ↔ p.Has (p.name :: rest) node
  /-- With removing what is there, writing once more changes nothing. -/
  renewed : t.CanRenew out p → (run true t).1.isOk = true →
    (run true (run true t).2).1 = (run true t).1
      ∧ ∀ x, (run true (run true t).2).2.lookup x = (run true t).2.lookup x

/-- Whatever a pass writes is published exactly, in its place and as often as one likes. -/
theorem compile_isPublished {root : Item} {options : Options} {p : GeneratedProject}
    (h : compile root options = .ok p) {t : FileTree} (ht : t.IsPlain)
    (launcher : FileTree.Launcher) (searchPath : List Path) (out : Path) :
    p.IsPublished out (fun clean t => t.publish launcher searchPath p out clean) t := by
  have hp := compile_isTree h
  have hrun : ∀ clean (t : FileTree), t.IsPlain →
      t.Published p out clean (t.publish launcher searchPath p out clean) :=
    fun clean t ht => FileTree.published launcher searchPath clean out hp ht
  exact {
    confined := fun clean x hx => (hrun clean t ht).confined hp hx
    returned := fun clean hok => (hrun clean t ht).returned hok
    present := fun clean hok names node hnode => (hrun clean t ht).present hok hnode
    kept := fun hok x node hx hother => (hrun false t ht).kept hok hx hother
    repeated := fun hok =>
      (hrun false t ht).repeated hok (hrun false _ ((hrun false t ht).isPlain ht))
    canRenew := fun hhold hdots => hhold.canRenew ht hdots p
    renews_iff := fun hrenew => (hrun true t ht).isOk_iff hp ht hrenew
    lookup_eq_iff := fun hrenew hok rest node => (hrun true t ht).lookup_eq_iff hp ht hrenew hok
    renewed := fun hrenew hok =>
      (hrun true t ht).renewed hp ht hrenew hok (hrun true _ ((hrun true t ht).isPlain ht)) }

/-! ## A project that is written anew -/

/-- A project with nothing in it. -/
def bare : Item where
  name := "Demo"
  kind := .project
  id := some (.ofNat 7)

/-- What a pass writes for it. -/
def bareOutput : GeneratedProject where
  name := "Demo"
  directories := [⟨"Demo"⟩]
  files := [⟨⟨"Demo/id.txt"⟩, "00000000-0000-0000-0000-000000000007\n"⟩]
  skipped := []

theorem compile_bare : compile bare {} = .ok bareOutput := by
  have hplanned : plannedUnits bare {} = .ok (⟨bareOutput.directories, bareOutput.files, []⟩, []) :=
    rfl
  rw [compile_eq, hplanned]
  show Except.ok (generated _ _ _) = _
  rw [generated, sortDirectories, sortFiles, List.append_nil, bareOutput,
    List.mergeSort_singleton, List.mergeSort_singleton]
  rfl

/-- A tree with a file that an earlier pass has written. -/
def cluttered : FileTree where
  nodes := [(["Demo"], .directory), (["Demo", "old.txt"], .file "stale")]

theorem isPlain_cluttered : cluttered.IsPlain :=
  .of_nodes rfl (by decide +kernel) (by simp [cluttered])

/-- A launcher that finds no programs. -/
def noPrograms : FileTree.Launcher := fun _ _ t => (.error .notFound, t)

/-- Where it is written anew, the file of the earlier pass is gone. -/
theorem bare_isPublished : compile bare {} = .ok bareOutput ∧ cluttered.IsPlain
    ∧ cluttered.CanRenew ⟨"."⟩ bareOutput
    ∧ (cluttered.publish noPrograms [] bareOutput ⟨"."⟩ true).1.isOk = true
    ∧ (cluttered.publish noPrograms [] bareOutput ⟨"."⟩ true).2.lookup ["Demo", "old.txt"] = none
    ∧ bareOutput.IsPublished ⟨"."⟩
      (fun clean t => t.publish noPrograms [] bareOutput ⟨"."⟩ clean) cluttered := by
  have hpublished := compile_isPublished compile_bare isPlain_cluttered noPrograms [] ⟨"."⟩
  have hhold : cluttered.CanHold ⟨"."⟩ := ⟨by decide, rfl, by decide +kernel⟩
  have hrenew := hpublished.canRenew hhold (by decide)
  have htop : cluttered.lookup (cluttered.top ⟨"."⟩ bareOutput) = some .directory := rfl
  have hok := (hpublished.renews_iff hrenew).2 (by simp [htop])
  refine ⟨compile_bare, isPlain_cluttered, hrenew, hok, ?_, hpublished⟩
  rw [Option.eq_none_iff_forall_ne_some]
  intro node hnode
  have hhas := (hpublished.lookup_eq_iff hrenew hok ["old.txt"] node).1 hnode
  cases node with
  | directory => exact absurd hhas (by decide +kernel)
  | file contents =>
    obtain ⟨file, hfile, hcomponents, -⟩ := hhas
    cases List.mem_singleton.1 hfile
    exact absurd hcomponents (by decide +kernel)
  | device | program => exact hhas

/-- Paths with two dots can stand in the way: one that cannot be followed before the directories on
    its way have been created leaves an old file where it is, and one that leads through the
    directory that is removed has a directory of its own created there. -/
theorem bare_leavesOther : compile bare {} = .ok bareOutput
    ∧ (cluttered.IsPlain ∧ cluttered.CanHold ⟨"missing/.."⟩
      ∧ cluttered.lookup (cluttered.top ⟨"missing/.."⟩ bareOutput) = some .directory
      ∧ (cluttered.publish noPrograms [] bareOutput ⟨"missing/.."⟩ true).1.isOk = true
      ∧ (cluttered.publish noPrograms [] bareOutput ⟨"missing/.."⟩ true).2.lookup
        (cluttered.top ⟨"missing/.."⟩ bareOutput ++ ["old.txt"]) = some (.file "stale")
      ∧ ¬ bareOutput.Has ["Demo", "old.txt"] (.file "stale"))
    ∧ FileTree.empty.IsPlain ∧ FileTree.empty.CanHold ⟨"Demo/x/../.."⟩
      ∧ FileTree.empty.lookup (FileTree.empty.top ⟨"Demo/x/../.."⟩ bareOutput) = none
      ∧ (FileTree.empty.publish noPrograms [] bareOutput ⟨"Demo/x/../.."⟩ true).1.isOk = true
      ∧ (FileTree.empty.publish noPrograms [] bareOutput ⟨"Demo/x/../.."⟩ true).2.lookup
        (FileTree.empty.top ⟨"Demo/x/../.."⟩ bareOutput ++ ["x"]) = some .directory
      ∧ ¬ bareOutput.Has ["Demo", "x"] .directory := by
  refine ⟨compile_bare, ⟨isPlain_cluttered, ⟨by decide, rfl, by decide +kernel⟩, ?_⟩,
    .of_nodes rfl (by decide) (by simp [FileTree.empty]), ⟨by decide, rfl, by decide +kernel⟩, ?_⟩
  · decide +kernel
  · decide +kernel

end Flowchart
