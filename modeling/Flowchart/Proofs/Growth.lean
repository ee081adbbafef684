import Flowchart.Proofs.Rooted
import Flowchart.Proofs.Ways

set_option autoImplicit false

/-! # Changing a file tree

What creating directories, writing a file and removing a directory change. Creating directories only
adds those that are missing on the way of a path, and fails only if something other than a directory
is in the way. Writing changes one place, and removing changes nothing but what is below a place. -/

namespace Flowchart

namespace FileTree

variable {t t' t'' : FileTree} {p q : Path} {place x : Place} {outer steps : List String}
  {last : String} {S S' : Place → Prop}

/-! ## Plain trees -/

/-- A tree of directories and files, without bounds on their names, in which everything stands in a
    directory. -/
structure IsPlain (t : FileTree) : Prop where
  limits_eq : t.limits = {}
  outer : ∀ {place : Place} {name : String}, t.lookup (place ++ [name]) ≠ none →
    t.lookup place = some .directory
  node : ∀ {place : Place} {node : FileNode}, t.lookup place = some node →
    node = .directory ∨ ∃ contents, node = .file contents

namespace IsPlain

theorem isRooted (h : t.IsPlain) : t.IsRooted := fun _ _ => h.outer

theorem dropLast (h : t.IsPlain) (hplace : t.lookup place = some .directory) :
    t.lookup place.dropLast = some .directory := by
  rcases List.eq_nil_or_concat place with rfl | ⟨init, name, rfl⟩
  · rfl
  · rw [List.concat_eq_append] at hplace ⊢
    rw [List.dropLast_concat]
    have hsome : t.lookup (init ++ [name]) ≠ none := by simp [hplace]
    exact h.outer hsome

/-- A tree is plain if all that is listed stands in a directory. -/
theorem of_nodes (hlimits : t.limits = {})
    (houter : ∀ n ∈ t.nodes, t.lookup n.1.dropLast = some .directory)
    (hnode : ∀ n ∈ t.nodes, n.2 = .directory ∨ ∃ contents, n.2 = .file contents) : t.IsPlain := by
  refine ⟨hlimits, fun hsome => IsRooted.of_nodes houter hsome, fun {place node} hsome => ?_⟩
  cases place with
  | nil => exact Or.inl (Option.some.inj hsome).symm
  | cons first rest =>
    obtain ⟨front, back, heq, -⟩ := List.lookup_eq_some_iff.1 hsome
    exact hnode (first :: rest, node) (by simp [heq])

/-- Below a place without a directory there is nothing. -/
theorem missing_below (h : t.IsPlain) (hplace : t.lookup place ≠ some .directory) {inner : Place}
    (hinner : inner ≠ []) : t.lookup (place ++ inner) = none := by
  by_contra hsome
  induction inner using List.reverseRecOn with
  | nil => exact hinner rfl
  | append_singleton init name ih =>
    rw [← List.append_assoc] at hsome
    have hdirectory := h.outer hsome
    by_cases hinit : init = []
    · rw [hinit, List.append_nil] at hdirectory
      exact hplace hdirectory
    · exact ih hinit (by simp [hdirectory])

theorem set (h : t.IsPlain) {name : String} {node : FileNode}
    (houter : t.lookup place = some .directory)
    (hnode : node = .directory ∨ (∃ contents, node = .file contents)
      ∧ t.lookup (place ++ [name]) ≠ some .directory) : (t.set (place ++ [name]) node).IsPlain where
  limits_eq := h.limits_eq
  outer hsome := h.isRooted.set houter (hnode.imp_right And.right) hsome
  node := by
    intro other found hfound
    rw [lookup_set _ (by simp)] at hfound
    split at hfound
    · cases hfound
      exact hnode.imp_right And.left
    · exact h.node hfound

end IsPlain

/-! ## Trees that grow -/

/-- A tree with more directories, each of them in one of some places. -/
structure Grows (t : FileTree) (S : Place → Prop) (t' : FileTree) : Prop where
  current_eq : t'.current = t.current
  isPlain : t.IsPlain → t'.IsPlain
  lookup_cases : ∀ x, t'.lookup x = t.lookup x
    ∨ t.lookup x = none ∧ t'.lookup x = some .directory ∧ S x

namespace Grows

theorem refl : t.Grows S t := ⟨rfl, id, fun _ => Or.inl rfl⟩

theorem trans (h : t.Grows S t') (h' : t'.Grows S t'') : t.Grows S t'' where
  current_eq := h'.current_eq.trans h.current_eq
  isPlain ht := h'.isPlain (h.isPlain ht)
  lookup_cases x := by
    rcases h'.lookup_cases x with heq' | ⟨hnone', hdirectory', hx⟩
    · rw [heq']
      exact h.lookup_cases x
    · rcases h.lookup_cases x with heq | ⟨hnone, hdirectory, -⟩
      · exact Or.inr ⟨heq ▸ hnone', hdirectory', hx⟩
      · rw [hdirectory] at hnone'
        cases hnone'

theorem mono (h : t.Grows S t') (hS : ∀ x, S x → S' x) : t.Grows S' t' where
  current_eq := h.current_eq
  isPlain := h.isPlain
  lookup_cases x := (h.lookup_cases x).imp_right fun ⟨hnone, hdirectory, hx⟩ =>
    ⟨hnone, hdirectory, hS x hx⟩

theorem directory (h : t.Grows S t') (hx : t.lookup x = some .directory) :
    t'.lookup x = some .directory := by
  rcases h.lookup_cases x with heq | ⟨-, hdirectory, -⟩
  · rw [heq, hx]
  · exact hdirectory

theorem blocked_iff (h : t.Grows S t') : t'.Blocked x ↔ t.Blocked x := by
  rcases h.lookup_cases x with heq | ⟨hnone, hdirectory, -⟩
  · rw [Blocked, heq, Blocked]
  · simp [Blocked, hnone, hdirectory]

theorem leads (h : t.Grows S t') (hleads : t.Leads place steps) : t'.Leads place steps :=
  fun v hv => h.directory (hleads v hv)

/-- A tree in which all the places are directories does not grow there. -/
theorem lookup_eq (h : t.Grows S t') (hS : ∀ x, S x → t.lookup x = some .directory) (x : Place) :
    t'.lookup x = t.lookup x := by
  rcases h.lookup_cases x with heq | ⟨hnone, -, hx⟩
  · exact heq
  · rw [hS x hx] at hnone
    cases hnone

end Grows

/-! ## Creating a directory -/

/-- What creating a directory comes to. -/
inductive Made (t : FileTree) (p : Path) : Except FileError FileTree → Prop
  | created {directory : Place} {name : String} (proper : p.IsProper)
      (leads : t.Leads (t.origin p) p.steps.dropLast) (goal_eq : t.goal p = directory ++ [name])
      (outer : t.lookup directory = some .directory) (missing : t.lookup (t.goal p) = none) :
      Made t p (.ok (t.set (t.goal p) .directory))
  | improper (improper : ¬ p.IsProper) : Made t p (.error .endInside)
  | missing (stops : ¬ t.Leads (t.origin p) p.steps.dropLast) : Made t p (.error .notFound)
  | blocked {v : Place} (mem : v ∈ Place.way (t.origin p) p.steps.dropLast)
      (blocked : t.Blocked v) : Made t p (.error .notDirectory)
  | taken (proper : p.IsProper) (leads : t.Leads (t.origin p) p.steps.dropLast)
      (taken : t.IsPlain → t.lookup (t.goal p) ≠ none) : Made t p (.error .alreadyExists)

theorem made (hlimits : t.limits = {}) (h : p.EndsWith outer last) :
    t.Made p (t.makeDirectory p) := by
  have happroached := approached hlimits h
  rw [makeDirectory, entry_eq hlimits h]
  generalize (t.start p >>= fun start => t.walk start (outer ++ [""])) = result at happroached ⊢
  cases happroached with
  | improper improper => exact .improper improper
  | missing stops => exact .missing stops
  | blocked mem blocked => exact .blocked mem blocked
  | reached proper leads =>
    have houter := leads _ Place.goal_mem_way
    have hgoal := goal_eq h (t := t)
    by_cases hparent : last = ".."
    · -- the place that the last step leaves is a directory, and so is the one it leads to
      have hstep : LastStep.ofSegment last = .parent := by simp [LastStep.ofSegment, hparent]
      simp only [ok_bind, hstep]
      refine .taken proper leads fun ht => ?_
      rw [hgoal, Place.step, if_pos hparent, ht.dropLast houter]
      simp
    · have hstep : LastStep.ofSegment last = .name last := by
        simp [LastStep.ofSegment, hparent, h.last_ne_current]
      rw [Place.step_name hparent] at hgoal
      simp only [ok_bind, hstep, ← hgoal]
      split
      · next hsome =>
        exact .taken proper leads fun _ hnone => by simp [hnone] at hsome
      · next hnone => exact .created proper leads hgoal houter (by simpa using hnone)

/-! ## Creating directories on the way -/

/-- What creating a directory with what is missing above it comes to. -/
inductive Ensured (t : FileTree) (p : Path) : Except FileError Unit × FileTree → Prop
  | done {t' : FileTree} (grows : t.Grows (· ∈ t.way p) t') (proper : p.IsProper)
      (leads : t'.Leads (t.origin p) p.steps) : Ensured t p (.ok (), t')
  | failed {e : FileError} {t' : FileTree} (grows : t.Grows (· ∈ t.way p) t')
      (blocked : t.lookup (t.origin p) = some .directory → p.IsProper →
        ∃ v ∈ t.way p, t.Blocked v) : Ensured t p (.error e, t')

/-- What is created first does not count as being in the way. -/
theorem Ensured.trans {result : Except FileError Unit × FileTree}
    (hgrows : t.Grows (· ∈ t.way p) t') (h : t'.Ensured p result) : t.Ensured p result := by
  cases h with
  | done grows proper leads =>
    rw [origin_congr hgrows.current_eq] at leads
    rw [way_congr hgrows.current_eq] at grows
    exact .done (hgrows.trans grows) proper leads
  | failed grows blocked =>
    rw [way_congr hgrows.current_eq] at grows
    refine .failed (hgrows.trans grows) fun horigin hproper => ?_
    rw [← origin_congr hgrows.current_eq] at horigin
    obtain ⟨v, hv, hblocked⟩ := blocked (hgrows.directory horigin) hproper
    exact ⟨v, way_congr hgrows.current_eq p ▸ hv, hgrows.blocked_iff.1 hblocked⟩

/-- An attempt to create a directory, which is as good if the directory is there. -/
def settle (t : FileTree) (p : Path) :
    Except FileError FileTree → Except FileError Unit × FileTree
  | .ok t' => (.ok (), t')
  | .error e => (t.unlessThere p e, t)

theorem makeChain_cons (hne : p.text ≠ "") (hfound : t.makeDirectory p ≠ .error .notFound)
    (paths : List Path) : t.makeChain (p :: paths) = t.settle p (t.makeDirectory p) := by
  rw [makeChain, if_neg hne]
  split
  · next t' hmade => rw [hmade, settle]
  · next hmade => exact absurd hmade hfound
  · next e _ hmade => rw [hmade, settle]

theorem makeChain_cons_missing (hne : p.text ≠ "") (hmissing : t.makeDirectory p = .error .notFound)
    (paths : List Path) : t.makeChain (p :: paths) =
      match t.makeChain paths with
      | (.ok (), t') => t'.settle p (t'.makeDirectory p)
      | (.error e, t') => (.error e, t') := by
  rw [makeChain, if_neg hne, hmissing]
  rcases t.makeChain paths with ⟨⟨e⟩ | ⟨⟨⟩⟩, t'⟩
  · rfl
  · cases hmade : t'.makeDirectory p with
    | ok made => simp only [hmade, settle]
    | error e => simp only [hmade, settle]

section

variable (ht : t.IsPlain) (h : p.EndsWith outer last)

include ht h

/-- A directory is there, or it was possible to create it, unless something is in the way. -/
theorem Made.ensured {result : Except FileError FileTree} (hmade : t.Made p result)
    (hready : result = .error .notFound → t.lookup (t.origin p) = some .directory →
      t.Leads (t.origin p) p.steps.dropLast) : t.Ensured p (t.settle p result) := by
  have hdirectory := isDirectory_iff ht.limits_eq h
  have hfailed : ∀ {e}, ¬ (p.IsProper ∧ t.Leads (t.origin p) p.steps) →
      (t.lookup (t.origin p) = some .directory → p.IsProper → ∃ v ∈ t.way p, t.Blocked v) →
      t.Ensured p (t.unlessThere p e, t) := by
    intro e hnot hblocked
    rw [unlessThere, if_neg (mt hdirectory.1 hnot)]
    exact .failed .refl hblocked
  cases hmade with
  | created proper leads goal_eq outer missing =>
    have hne : t.goal p ≠ [] := by simp [goal_eq]
    have hgrows : t.Grows (· ∈ t.way p) (t.set (t.goal p) .directory) := by
      refine ⟨rfl, fun ht => ?_, fun x => ?_⟩
      · rw [goal_eq]
        exact ht.set outer (Or.inl rfl)
      · rw [lookup_set _ hne]
        split
        · next heq => exact Or.inr ⟨heq ▸ missing, rfl, heq ▸ Place.goal_mem_way⟩
        · exact Or.inl rfl
    refine .done hgrows proper ?_
    have horigin := origin_congr hgrows.current_eq p
    rw [← horigin, leads_steps_iff h, horigin, goal_congr hgrows.current_eq, lookup_set _ hne,
      if_pos rfl]
    exact ⟨hgrows.leads leads, rfl⟩
  | improper improper =>
    exact hfailed (fun hthere => improper hthere.1) fun _ hproper => absurd hproper improper
  | missing stops =>
    refine hfailed (fun hthere => stops ((leads_steps_iff h).1 hthere.2).1) fun horigin _ => ?_
    exact absurd (hready rfl horigin) stops
  | @blocked v mem blocked =>
    have hmem := mem_way_of_dropLast h mem
    exact hfailed (fun hthere => blocked.2 (hthere.2 v hmem)) fun _ _ => ⟨v, hmem, blocked⟩
  | taken proper leads taken =>
    by_cases hgoal : t.lookup (t.goal p) = some .directory
    · have hthere : t.Leads (t.origin p) p.steps := (leads_steps_iff h).2 ⟨leads, hgoal⟩
      rw [settle, unlessThere, if_pos (hdirectory.2 ⟨proper, hthere⟩)]
      exact .done .refl proper hthere
    · refine hfailed (fun hthere => hgoal ((leads_steps_iff h).1 hthere.2).2) fun _ _ => ?_
      exact ⟨t.goal p, Place.goal_mem_way, taken ht, hgoal⟩

/-- An attempt that is made when the path above has been created. -/
theorem ensured_settle (hgrows : t.Grows (· ∈ t.way p) t')
    (hleads : t'.lookup (t'.origin p) = some .directory →
      t'.Leads (t'.origin p) p.steps.dropLast) :
    t.Ensured p (t'.settle p (t'.makeDirectory p)) := by
  have ht' := hgrows.isPlain ht
  exact .trans hgrows ((made ht'.limits_eq h).ensured ht' h fun _ => hleads)

/-- After the path above it, a directory is created in the place that the last step leads to. -/
theorem ensured_of_isAbove (habove : q.IsAbove p outer)
    (hancestors : p.ancestors = p :: q.ancestors)
    (hq : q.text ≠ "" → t.Ensured q (t.makeDirectories q)) :
    t.Ensured p (t.makeDirectories p) := by
  have horigin : t.origin q = t.origin p := by rw [origin, origin, habove.isAbsolute_eq]
  have hsteps : q.steps = p.steps.dropLast := by rw [habove.steps_eq, h.dropLast_steps]
  have hway : ∀ v ∈ t.way q, v ∈ t.way p := by
    intro v hv
    rw [way, horigin, hsteps] at hv
    exact mem_way_of_dropLast h hv
  rw [makeDirectories, hancestors]
  by_cases hmissing : t.makeDirectory p = .error .notFound
  · rw [makeChain_cons_missing h.text_ne_empty hmissing, ← makeDirectories]
    by_cases hempty : q.text = ""
    · have hnothing : t.makeDirectories q = (.ok (), t) := by
        obtain ⟨text⟩ := q
        cases hempty
        rfl
      have hnil : p.steps.dropLast = [] := by
        rw [← hsteps, Path.steps, Path.segments, hempty]
        rfl
      rw [hnothing]
      refine ensured_settle ht h .refl fun hlookup => ?_
      rw [hnil]
      simpa [Leads, Place.way] using hlookup
    · have hmade := hq hempty
      generalize t.makeDirectories q = result at hmade ⊢
      cases hmade with
      | done grows proper leads =>
        have hgrows := grows.mono hway
        refine ensured_settle ht h hgrows fun _ => ?_
        rwa [horigin, hsteps, ← origin_congr hgrows.current_eq] at leads
      | failed grows blocked =>
        refine .failed (grows.mono hway) fun hlookup hproper => ?_
        obtain ⟨v, hv, hblocked⟩ := blocked (horigin ▸ hlookup)
          fun hmem => hproper (habove.starts.subset hmem)
        exact ⟨v, hway v hv, hblocked⟩
  · rw [makeChain_cons h.text_ne_empty hmissing]
    exact (made ht.limits_eq h).ensured ht h fun hnot => absurd hnot hmissing

end

theorem ensured_top (hlimits : t.limits = {}) : t.Ensured ⟨"/"⟩ (t.makeDirectories ⟨"/"⟩) := by
  have hmade : t.makeDirectories ⟨"/"⟩ = (.ok (), t) := by
    obtain ⟨nodes, current, limits⟩ := t
    cases hlimits
    rfl
  rw [hmade]
  refine .done .refl (by decide) fun v hv => ?_
  rw [List.mem_singleton.1 hv]
  rfl

theorem isDirectory_current_iff (hlimits : t.limits = {}) :
    t.isDirectory ⟨"."⟩ = true ↔ t.lookup t.current = some .directory := by
  have hstart : t.start ⟨"."⟩ = .ok t.current := by
    rw [start, hlimits]
    rfl
  have hsegments : Path.segments ⟨"."⟩ = ["."] := rfl
  have hidle : Path.isIdle "." = true := rfl
  rw [isDirectory, node?, find, hstart, hsegments, ok_bind]
  rcases t.lookup_cases t.current with hcurrent | hcurrent | hcurrent
  · rw [walk_idle hcurrent hidle, walk, ok_bind, hcurrent]
    exact iff_of_true rfl rfl
  · rw [walk_missing hcurrent, error_bind]
    simp [hcurrent]
  · rw [walk_blocked hcurrent, error_bind]
    simp [hcurrent.2]

theorem makeDirectory_current (hlimits : t.limits = {}) :
    t.makeDirectory ⟨"."⟩ = t.walk t.current [""] >>= fun _ => .error .alreadyExists := by
  have hentry : t.entry ⟨"."⟩ = t.walk t.current [""] >>= fun directory =>
      .ok { directory, last := .current, slash := false } := by
    obtain ⟨nodes, current, limits⟩ := t
    cases hlimits
    rfl
  rw [makeDirectory, hentry, bind_assoc]
  rfl

theorem ensured_current (hlimits : t.limits = {}) :
    t.Ensured ⟨"."⟩ (t.makeDirectories ⟨"."⟩) := by
  have hancestors : Path.ancestors ⟨"."⟩ = [⟨"."⟩, ⟨""⟩] := rfl
  have hnothing : t.makeChain [⟨""⟩] = (.ok (), t) := rfl
  have hne : (⟨"."⟩ : Path).text ≠ "" := by decide
  have hmake := makeDirectory_current hlimits
  rw [makeDirectories, hancestors]
  by_cases hcurrent : t.lookup t.current = some .directory
  · rw [walk_idle hcurrent rfl] at hmake
    rw [makeChain_cons hne (by simp [hmake, walk, ok_bind]), hmake]
    show t.Ensured _ (t.unlessThere _ _, t)
    rw [unlessThere, if_pos ((isDirectory_current_iff hlimits).2 hcurrent)]
    refine .done .refl (by decide) fun v hv => ?_
    rw [List.mem_singleton.1 hv]
    exact hcurrent
  · have hfailed : ∀ e, t.Ensured ⟨"."⟩ (t.settle ⟨"."⟩ (.error e)) := by
      intro e
      rw [settle, unlessThere, if_neg (mt (isDirectory_current_iff hlimits).1 hcurrent)]
      exact .failed .refl fun horigin => absurd horigin hcurrent
    rcases (t.lookup_cases t.current).resolve_left hcurrent with hmissing | hblocked
    · rw [walk_missing hmissing] at hmake
      rw [makeChain_cons_missing hne hmake, hnothing]
      show t.Ensured _ (t.settle _ (t.makeDirectory _))
      rw [hmake]
      exact hfailed _
    · rw [walk_blocked hblocked] at hmake
      rw [makeChain_cons hne (by simp [hmake, error_bind]), hmake]
      exact hfailed _

/-- A directory and what is missing above it can be created unless something is in the way, and
    nothing else is created. -/
theorem ensured (ht : t.IsPlain) (h : p.IsTrim) (hne : p.text ≠ "") :
    t.Ensured p (t.makeDirectories p) := by
  refine h.induction (P := fun p => ∀ t : FileTree, t.IsPlain → p.text ≠ "" →
    t.Ensured p (t.makeDirectories p)) ?_ ?_ ?_ ?_ t ht hne
  · intro t ht hne
    exact absurd rfl hne
  · intro t ht hne
    exact ensured_top ht.limits_eq
  · intro t ht hne
    exact ensured_current ht.limits_eq
  · intro p q outer last hends habove hancestors hq t ht hne
    exact ensured_of_isAbove ht hends habove hancestors (hq t ht)

/-- A directory that is there can be created as often as one likes. -/
theorem exists_makeDirectories_eq (ht : t.IsPlain) (h : p.IsTrim) (hne : p.text ≠ "")
    (hproper : p.IsProper) (hleads : t.Leads (t.origin p) p.steps) :
    ∃ t', t.makeDirectories p = (.ok (), t') ∧ t.Grows (fun _ => False) t' := by
  have hmade := ensured ht h hne
  generalize t.makeDirectories p = result at hmade
  cases hmade with
  | done grows proper leads =>
    refine ⟨_, rfl, grows.current_eq, grows.isPlain, fun x => Or.inl ?_⟩
    exact grows.lookup_eq hleads x
  | failed grows blocked =>
    obtain ⟨v, hv, hblocked⟩ := blocked (hleads _ Place.self_mem_way) hproper
    exact absurd (hleads v hv) hblocked.2

/-! ## Writing a file -/

section

variable (ht : t.IsPlain) (h : p.EndsWith outer last) (hlast : last ≠ "..")

include h hlast

theorem goal_eq_concat : t.goal p = Place.goal (t.origin p) p.steps.dropLast ++ [last] := by
  rw [goal_eq h, Place.step_name hlast]

include ht

/-- A file can be written in a directory unless there is a directory in its place. -/
theorem write_eq (hproper : p.IsProper) (hleads : t.Leads (t.origin p) p.steps.dropLast)
    (contents : String) :
    t.write p contents = if t.lookup (t.goal p) = some .directory then .error .isDirectory
      else .ok (t.set (t.goal p) (.file contents)) := by
  have hreached := (approach_eq_ok_iff ht.limits_eq h).2 ⟨hproper, hleads, rfl⟩
  have hstep : LastStep.ofSegment last = .name last := by
    simp [LastStep.ofSegment, hlast, h.last_ne_current]
  rw [write, target, entry_eq ht.limits_eq h, hreached]
  simp only [ok_bind, hstep, ← goal_eq_concat h hlast]
  cases hnode : t.lookup (t.goal p) with
  | none => simp [setContents, hnode]; rfl
  | some node =>
    rcases ht.node hnode with rfl | ⟨old, rfl⟩
    · rfl
    · simp [setContents, hnode]; rfl

end

/-! ## Removing a directory -/

theorem holdsAnything_clear (t : FileTree) (place : Place) :
    (t.clear place).holdsAnything place = false := by
  rw [holdsAnything, clear, List.any_eq_false]
  intro n hn
  have hkept := (List.mem_filter.1 hn).2
  cases hbelow : place.isPrefixOf n.1 with
  | false => simp
  | true => simpa [hbelow] using hkept

/-- What is left of a plain tree is plain if what is below a missing place is missing too. -/
theorem IsPlain.of_lookup (h : t.IsPlain) (hlimits : t'.limits = t.limits) {R : Place → Prop}
    [DecidablePred R] (hbelow : ∀ place name, R place → R (place ++ [name]))
    (hlookup : ∀ x, t'.lookup x = if R x then none else t.lookup x) : t'.IsPlain where
  limits_eq := hlimits.trans h.limits_eq
  outer hsome := h.isRooted.of_lookup hbelow hlookup hsome
  node := by
    intro place node hnode
    rw [hlookup] at hnode
    split at hnode
    · cases hnode
    · exact h.node hnode

/-- A tree without what was in a place, but for a directory that may still be there. -/
structure Empties (t : FileTree) (top : Place) (t' : FileTree) : Prop where
  current_eq : t'.current = t.current
  isPlain : t'.IsPlain
  lookup_eq : ∀ x, ¬ top <+: x → t'.lookup x = t.lookup x
  lookup_below : ∀ x, top <+: x →
    t'.lookup x = none ∨ x = top ∧ t'.lookup x = some .directory

theorem empties_clear {top : Place} (ht : t.IsPlain) (htop : t.lookup top = some .directory) :
    t.Empties top (t.clear top) where
  current_eq := rfl
  isPlain := by
    refine ht.of_lookup rfl ?_ (lookup_clear t top)
    rintro place name ⟨hbelow, -⟩
    refine ⟨hbelow.trans (List.prefix_append _ _), ?_⟩
    rintro rfl
    have hle := hbelow.length_le
    rw [List.length_append, List.length_singleton] at hle
    omega
  lookup_eq x hx := by
    rw [lookup_clear, if_neg fun h => hx h.1]
  lookup_below x hx := by
    rw [lookup_clear]
    by_cases heq : x = top
    · exact Or.inr ⟨heq, by rw [if_neg fun h => h.2 heq, heq, htop]⟩
    · exact Or.inl (if_pos ⟨hx, heq⟩)

theorem Empties.removeBelow {top : Place} (h : t.Empties top t') (hne : top ≠ []) :
    t.Empties top (t'.removeBelow top) where
  current_eq := h.current_eq
  isPlain := by
    refine h.isPlain.of_lookup rfl ?_ (lookup_removeBelow t' hne)
    exact fun place name hbelow => hbelow.trans (List.prefix_append _ _)
  lookup_eq x hx := by
    rw [lookup_removeBelow t' hne, if_neg hx, h.lookup_eq x hx]
  lookup_below x hx := Or.inl (by rw [lookup_removeBelow t' hne, if_pos hx])

section

variable (ht : t.IsPlain) (h : p.EndsWith outer last) (hlast : last ≠ "..")

include ht h hlast

theorem exists_empties (hnode : t.node? p = some .directory) :
    ∃ t', t.removeTree p = (.ok (), t') ∧ t.Empties (t.goal p) t' := by
  obtain ⟨hproper, hleads, htop⟩ := (node?_eq_some_iff ht.limits_eq h).1 hnode
  have hfind := (find_eq_ok_iff ht.limits_eq h).2 ⟨hproper, hleads, rfl, htop⟩
  have hcleared := empties_clear ht htop
  have hgoal : (t.clear (t.goal p)).goal p = t.goal p := rfl
  have hlookup : (t.clear (t.goal p)).lookup (t.goal p) = some .directory := by
    rw [lookup_clear, if_neg fun h => h.2 rfl, htop]
  -- the way to the directory may have gone with what was in it
  have happroached := approached (t := t.clear (t.goal p)) ht.limits_eq h
  have hentry := entry_eq (t := t.clear (t.goal p)) ht.limits_eq h
  rw [removeTree, hfind]
  simp only [removeDirectory, hentry]
  generalize ((t.clear (t.goal p)).start p >>= fun start =>
    (t.clear (t.goal p)).walk start (outer ++ [""])) = result at happroached
  cases happroached with
  | improper improper => exact absurd hproper improper
  | missing stops => exact ⟨_, rfl, hcleared⟩
  | @blocked v mem blocked =>
    obtain ⟨hsome, hother⟩ := blocked
    rw [lookup_clear] at hsome hother
    split at hsome
    · exact absurd rfl hsome
    · next hkept => exact absurd (hleads v mem) (by rwa [if_neg hkept] at hother)
  | reached proper leads =>
    have hstep : LastStep.ofSegment last = .name last := by
      simp [LastStep.ofSegment, hlast, h.last_ne_current]
    simp only [ok_bind, hstep]
    rw [← goal_eq_concat (t := t.clear (t.goal p)) h hlast, hgoal]
    simp only [hlookup, holdsAnything_clear]
    have hne : t.goal p ≠ [] := by simp [goal_eq_concat h hlast]
    exact ⟨_, rfl, hcleared.removeBelow hne⟩

omit hlast in
theorem removeTree_eq_of_file {node : FileNode} (hnode : t.node? p = some node)
    (hfile : node ≠ .directory) : t.removeTree p = (.error .notDirectory, t) := by
  obtain ⟨hproper, hleads, htop⟩ := (node?_eq_some_iff ht.limits_eq h).1 hnode
  rw [removeTree, (find_eq_ok_iff ht.limits_eq h).2 ⟨hproper, hleads, rfl, htop⟩]
  cases node with
  | directory => exact absurd rfl hfile
  | file | device | program => rfl

end

end FileTree

end Flowchart
