import Flowchart.Proofs.Ancestors
import Flowchart.Proofs.Success
import Flowchart.Workspace.FileOperations
import Mathlib.Data.List.Induction

set_option autoImplicit false

/-! # Ways through a file tree

A path is followed step by step: a name leads into a directory and two dots lead out of it. What a
path leads through is a list of places that depends on the tree only by the place where the path
starts. Following the path succeeds exactly if there is a directory in each of these places. -/

namespace Flowchart

/-! ## Steps between places -/

namespace Place

/-- The place that a step leads to. -/
def step (place : Place) (s : String) : Place :=
  if s = ".." then place.dropLast else place ++ [s]

/-- The places that steps lead through, the first one included. -/
def way (place : Place) : List String → List Place
  | [] => [place]
  | s :: rest => place :: way (step place s) rest

/-- The place that steps lead to. -/
def goal (place : Place) (steps : List String) : Place := steps.foldl step place

variable {place v : Place} {steps steps' names : List String} {s : String}

theorem goal_append : goal place (steps ++ steps') = goal (goal place steps) steps' :=
  List.foldl_append

theorem goal_concat : goal place (steps ++ [s]) = step (goal place steps) s := goal_append

theorem goal_mem_way : goal place steps ∈ way place steps := by
  induction steps generalizing place with
  | nil => exact List.mem_singleton_self _
  | cons s rest ih => exact List.mem_cons_of_mem _ ih

theorem self_mem_way : place ∈ way place steps := by
  cases steps with
  | nil => exact List.mem_singleton_self _
  | cons s rest => exact List.mem_cons_self

theorem mem_way_append :
    v ∈ way place (steps ++ steps') ↔ v ∈ way place steps ∨ v ∈ way (goal place steps) steps' := by
  induction steps generalizing place with
  | nil =>
    refine (or_iff_right_of_imp fun h => ?_).symm
    rw [List.mem_singleton.1 h]
    exact self_mem_way
  | cons s rest ih =>
    rw [List.cons_append, way, way, List.mem_cons, List.mem_cons, ih, or_assoc]
    rfl

theorem mem_way_concat :
    v ∈ way place (steps ++ [s]) ↔ v ∈ way place steps ∨ v = step (goal place steps) s := by
  have hgoal : v = goal place steps → v ∈ way place steps := by
    rintro rfl
    exact goal_mem_way
  rw [mem_way_append, way, way, List.mem_cons, List.mem_singleton, ← or_assoc,
    or_iff_left_of_imp hgoal]

theorem step_name (h : s ≠ "..") : step place s = place ++ [s] := if_neg h

theorem goal_names (h : ∀ n ∈ names, n ≠ "..") : goal place names = place ++ names := by
  induction names generalizing place with
  | nil => exact (List.append_nil _).symm
  | cons n rest ih =>
    obtain ⟨hn, hrest⟩ := List.forall_mem_cons.1 h
    show goal (step place n) rest = _
    rw [step_name hn, ih hrest, List.append_assoc]
    rfl

/-- Names lead through the places that their beginnings make. -/
theorem mem_way_names (h : ∀ n ∈ names, n ≠ "..") :
    v ∈ way place names ↔ ∃ inner, inner <+: names ∧ v = place ++ inner := by
  induction names using List.reverseRecOn generalizing v with
  | nil => simp [way]
  | append_singleton init last ih =>
    have hinit : ∀ n ∈ init, n ≠ ".." := fun n hn => h n (List.mem_append_left _ hn)
    rw [mem_way_concat, ih hinit, step_name (h last (by simp)), goal_names hinit]
    constructor
    · rintro (⟨inner, hinner, rfl⟩ | rfl)
      · exact ⟨inner, hinner.trans (List.prefix_append _ _), rfl⟩
      · exact ⟨init ++ [last], List.prefix_rfl, List.append_assoc _ _ _⟩
    · rintro ⟨inner, hinner, rfl⟩
      rcases List.prefix_concat_iff.1 hinner with rfl | hinner
      · exact Or.inr (List.append_assoc _ _ _).symm
      · exact Or.inl ⟨inner, hinner, rfl⟩

end Place

namespace FileTree

variable {t t' : FileTree} {place v : Place} {p q : Path} {outer steps : List String}
  {last s : String}

/-! ## Directories on the way -/

/-- Something other than a directory is in a place. -/
def Blocked (t : FileTree) (place : Place) : Prop :=
  t.lookup place ≠ none ∧ t.lookup place ≠ some .directory

instance (t : FileTree) (place : Place) : Decidable (t.Blocked place) :=
  inferInstanceAs (Decidable (_ ∧ _))

/-- All places that steps lead through are directories. -/
def Leads (t : FileTree) (place : Place) (steps : List String) : Prop :=
  ∀ v ∈ Place.way place steps, t.lookup v = some .directory

/-- Where a path starts. -/
def origin (t : FileTree) (p : Path) : Place := if p.isAbsolute then [] else t.current

/-- The places that a path leads through, from its start to where it leads. -/
def way (t : FileTree) (p : Path) : List Place := Place.way (t.origin p) p.steps

/-- Where a path leads. -/
def goal (t : FileTree) (p : Path) : Place := Place.goal (t.origin p) p.steps

/-- Where a path leads depends on a tree only by the place where paths start. -/
theorem origin_congr (h : t'.current = t.current) (p : Path) : t'.origin p = t.origin p := by
  rw [origin, origin, h]

theorem way_congr (h : t'.current = t.current) (p : Path) : t'.way p = t.way p := by
  rw [way, way, origin_congr h]

theorem goal_congr (h : t'.current = t.current) (p : Path) : t'.goal p = t.goal p := by
  rw [goal, goal, origin_congr h]

theorem leads_concat :
    t.Leads place (steps ++ [s])
      ↔ t.Leads place steps
        ∧ t.lookup (Place.step (Place.goal place steps) s) = some .directory := by
  simp only [Leads, Place.mem_way_concat, or_imp, forall_and, forall_eq]

theorem leads_cons : t.Leads place (s :: steps)
    ↔ t.lookup place = some .directory ∧ t.Leads (Place.step place s) steps := by
  simp only [Leads, Place.way, List.forall_mem_cons]

/-! ## Following paths -/

theorem lookup_cases (t : FileTree) (place : Place) :
    t.lookup place = some .directory ∨ t.lookup place = none ∨ t.Blocked place := by
  by_cases hdirectory : t.lookup place = some .directory
  · exact Or.inl hdirectory
  · by_cases hnone : t.lookup place = none
    · exact Or.inr (Or.inl hnone)
    · exact Or.inr (Or.inr ⟨hnone, hdirectory⟩)

theorem walk_idle (h : t.lookup place = some .directory) (hidle : Path.isIdle s = true)
    (segments : List String) : t.walk place (s :: segments) = t.walk place segments := by
  simp only [walk, h, hidle, if_true]

theorem walk_step (hlimits : t.limits = {}) (h : t.lookup place = some .directory)
    (hidle : Path.isIdle s = false) (segments : List String) :
    t.walk place (s :: segments) = t.walk (Place.step place s) segments := by
  simp only [walk, h, hidle, hlimits, FileLimits.allows, Place.step, Bool.false_eq_true, if_false,
    if_true]
  by_cases hs : s = ".."
  · rw [if_pos hs, if_pos hs]
  · rw [if_neg hs, if_neg hs]

theorem walk_missing (h : t.lookup place = none) (segments : List String) :
    t.walk place (s :: segments) = .error .notFound := by
  simp only [walk, h]

theorem walk_blocked (h : t.Blocked place) (segments : List String) :
    t.walk place (s :: segments) = .error .notDirectory := by
  obtain ⟨hsome, hother⟩ := h
  cases hnode : t.lookup place with
  | none => exact absurd hnode hsome
  | some node =>
    cases node with
    | directory => exact absurd hnode hother
    | file | device | program => simp only [walk, hnode]

theorem not_leads (h : t.lookup place ≠ some .directory) : ¬ t.Leads place steps :=
  fun hleads => h (hleads place Place.self_mem_way)

/-- What following a path up to a directory comes to. -/
inductive Followed (t : FileTree) (place : Place) (steps : List String) :
    Except FileError Place → Prop
  | reached (leads : t.Leads place steps) : Followed t place steps (.ok (Place.goal place steps))
  | missing (stops : ¬ t.Leads place steps) : Followed t place steps (.error .notFound)
  | blocked {v : Place} (mem : v ∈ Place.way place steps) (blocked : t.Blocked v) :
      Followed t place steps (.error .notDirectory)

/-- A directory is reached if there are directories all the way, and otherwise something is missing
    or something is in the way. -/
theorem followed_walk (hlimits : t.limits = {}) (segments : List String) :
    t.Followed place (segments.filter (!Path.isIdle ·)) (t.walk place (segments ++ [""])) := by
  induction segments generalizing place with
  | nil =>
    rcases t.lookup_cases place with hplace | hplace | hplace
    · rw [List.nil_append, walk_idle hplace rfl]
      exact .reached (by simpa [Leads, Place.way] using hplace)
    · rw [List.nil_append, walk_missing hplace]
      exact .missing (not_leads (by simp [hplace]))
    · rw [List.nil_append, walk_blocked hplace]
      exact .blocked Place.self_mem_way hplace
  | cons s rest ih =>
    rw [List.cons_append]
    rcases t.lookup_cases place with hplace | hplace | hplace
    · cases hidle : Path.isIdle s with
      | true =>
        -- what comes next starts in the same place
        rw [walk_idle hplace hidle, List.filter_cons_of_neg (by simp [hidle])]
        exact ih
      | false =>
        rw [walk_step hlimits hplace hidle, List.filter_cons_of_pos (by simp [hidle])]
        have hrest := @ih (Place.step place s)
        generalize t.walk (Place.step place s) (rest ++ [""]) = result at hrest ⊢
        cases hrest with
        | reached leads => exact .reached (leads_cons.2 ⟨hplace, leads⟩)
        | missing stops => exact .missing fun h => stops (leads_cons.1 h).2
        | blocked mem blocked => exact .blocked (List.mem_cons_of_mem _ mem) blocked
    · rw [walk_missing hplace]
      exact .missing (not_leads (by simp [hplace]))
    · rw [walk_blocked hplace]
      exact .blocked Place.self_mem_way hplace

/-- The last step of a path is taken from the directory that the others lead to. -/
theorem walk_concat (hlimits : t.limits = {}) (hidle : Path.isIdle s = false)
    (segments : List String) :
    t.walk place (segments ++ [s])
      = t.walk place (segments ++ [""]) >>= fun directory => .ok (Place.step directory s) := by
  induction segments generalizing place with
  | nil =>
    rw [List.nil_append, List.nil_append]
    rcases t.lookup_cases place with hplace | hplace | hplace
    · rw [walk_step hlimits hplace hidle, walk_idle hplace rfl]
      rfl
    · rw [walk_missing hplace, walk_missing hplace]
      rfl
    · rw [walk_blocked hplace, walk_blocked hplace]
      rfl
  | cons first rest ih =>
    rw [List.cons_append, List.cons_append]
    rcases t.lookup_cases place with hplace | hplace | hplace
    · cases hfirst : Path.isIdle first with
      | true => rw [walk_idle hplace hfirst, walk_idle hplace hfirst, ih]
      | false => rw [walk_step hlimits hplace hfirst, walk_step hlimits hplace hfirst, ih]
    · rw [walk_missing hplace, walk_missing hplace]
      rfl
    · rw [walk_blocked hplace, walk_blocked hplace]
      rfl

/-! ## The last step of a path -/

/-- What following a path up to its last step comes to. -/
inductive Approached (t : FileTree) (p : Path) : Except FileError Place → Prop
  | reached (proper : p.IsProper) (leads : t.Leads (t.origin p) p.steps.dropLast) :
      Approached t p (.ok (Place.goal (t.origin p) p.steps.dropLast))
  | improper (improper : ¬ p.IsProper) : Approached t p (.error .endInside)
  | missing (stops : ¬ t.Leads (t.origin p) p.steps.dropLast) : Approached t p (.error .notFound)
  | blocked {v : Place} (mem : v ∈ Place.way (t.origin p) p.steps.dropLast)
      (blocked : t.Blocked v) : Approached t p (.error .notDirectory)

section

variable (hlimits : t.limits = {}) (h : p.EndsWith outer last)

include hlimits h

theorem start_eq : t.start p = if p.IsProper then .ok (t.origin p) else .error .endInside := by
  have hcontains : p.text.toList.contains (Char.ofNat 0) = true ↔ ¬ p.IsProper := by
    rw [Path.IsProper, not_not, List.contains_iff_mem]
  rw [start, hlimits]
  by_cases hproper : p.IsProper
  · rw [if_neg (mt hcontains.1 (not_not.2 hproper)), if_neg h.text_ne_empty, if_pos hproper]
    rfl
  · rw [if_pos (hcontains.2 hproper), if_neg hproper]

theorem approached : t.Approached p (t.start p >>= fun start => t.walk start (outer ++ [""])) := by
  rw [start_eq hlimits h]
  split
  · next hproper =>
    rw [ok_bind]
    have hfollowed := @followed_walk t (t.origin p) hlimits outer
    rw [← h.dropLast_steps] at hfollowed
    generalize t.walk (t.origin p) (outer ++ [""]) = result at hfollowed ⊢
    cases hfollowed with
    | reached leads => exact .reached hproper leads
    | missing stops => exact .missing stops
    | blocked mem blocked => exact .blocked mem blocked
  · next hproper => exact .improper hproper

theorem approach_eq_ok_iff {directory : Place} :
    (t.start p >>= fun start => t.walk start (outer ++ [""])) = .ok directory
      ↔ p.IsProper ∧ t.Leads (t.origin p) p.steps.dropLast
        ∧ directory = Place.goal (t.origin p) p.steps.dropLast := by
  have happroached := approached hlimits h
  generalize (t.start p >>= fun start => t.walk start (outer ++ [""])) = result at happroached ⊢
  cases happroached with
  | reached proper leads => simp [proper, leads, eq_comm]
  | improper improper => simp [improper]
  | missing stops => simp [stops]
  | blocked mem blocked =>
    have hstops : ¬ t.Leads (t.origin p) p.steps.dropLast := fun hleads => blocked.2 (hleads _ mem)
    simp [hstops]

/-- An entry is the last step, taken from the directory that is approached. -/
theorem entry_eq : t.entry p = (t.start p >>= fun start => t.walk start (outer ++ [""])) >>=
    fun directory => .ok { directory, last := .ofSegment last, slash := false } := by
  have hslash : (p.segments.getLast? == some "") = false := by
    rw [h.segments_eq, List.getLast?_concat]
    simpa using h.last_ne_empty
  have htrim : (p.segments.reverse.dropWhile (· == "")).reverse = outer ++ [last] := by
    rw [h.segments_eq, List.reverse_concat, List.dropWhile_cons,
      if_neg (by simpa using h.last_ne_empty), List.reverse_cons, List.reverse_reverse]
  rw [entry, hslash, htrim, hlimits, bind_assoc]
  simp only [List.getLast?_concat, List.dropLast_concat, FileLimits.allows, if_true]
  rfl

/-- What a path leads to is in the place that its last step leads to. -/
theorem find_eq : t.find p = (t.start p >>= fun start => t.walk start (outer ++ [""])) >>=
    fun directory => match t.lookup (Place.step directory last) with
      | some node => .ok (Place.step directory last, node)
      | none => .error .notFound := by
  rw [find, h.segments_eq, bind_assoc]
  refine bind_congr fun start => ?_
  rw [walk_concat hlimits h.not_idle, bind_assoc]
  rfl

omit hlimits in
theorem goal_eq : t.goal p = Place.step (Place.goal (t.origin p) p.steps.dropLast) last := by
  rw [goal, ← h.dropLast_append_last, Place.goal_concat, List.dropLast_concat]

omit hlimits in
/-- A path leads through all that the path above it leads through. -/
theorem mem_way_of_dropLast (hv : v ∈ Place.way (t.origin p) p.steps.dropLast) : v ∈ t.way p := by
  rw [way, ← h.dropLast_append_last, Place.mem_way_concat]
  exact Or.inl hv

omit hlimits in
theorem leads_steps_iff : t.Leads (t.origin p) p.steps
    ↔ t.Leads (t.origin p) p.steps.dropLast ∧ t.lookup (t.goal p) = some .directory := by
  rw [goal_eq h]
  conv_lhs => rw [← h.dropLast_append_last, leads_concat]

theorem find_eq_ok_iff {node : FileNode} :
    t.find p = .ok (v, node) ↔ p.IsProper ∧ t.Leads (t.origin p) p.steps.dropLast ∧ v = t.goal p
      ∧ t.lookup (t.goal p) = some node := by
  rw [find_eq hlimits h, bind_eq_ok]
  simp only [approach_eq_ok_iff hlimits h]
  constructor
  · rintro ⟨_, ⟨hproper, hleads, rfl⟩, hfind⟩
    rw [← goal_eq h] at hfind
    cases hnode : t.lookup (t.goal p) with
    | none => simp [hnode] at hfind
    | some found =>
      rw [hnode] at hfind
      cases hfind
      exact ⟨hproper, hleads, rfl, rfl⟩
  · rintro ⟨hproper, hleads, rfl, hnode⟩
    refine ⟨_, ⟨hproper, hleads, rfl⟩, ?_⟩
    rw [← goal_eq h, hnode]

theorem node?_eq_some_iff {node : FileNode} :
    t.node? p = some node ↔ p.IsProper ∧ t.Leads (t.origin p) p.steps.dropLast
      ∧ t.lookup (t.goal p) = some node := by
  rw [node?]
  split
  · next place found hfind =>
    obtain ⟨hproper, hleads, rfl, hnode⟩ := (find_eq_ok_iff hlimits h).1 hfind
    simp [hproper, hleads, hnode]
  · next e hfind =>
    refine ⟨nofun, fun ⟨hproper, hleads, hnode⟩ => ?_⟩
    rw [(find_eq_ok_iff hlimits h).2 ⟨hproper, hleads, rfl, hnode⟩] at hfind
    cases hfind

/-- A path leads to a directory exactly if there are directories all the way. -/
theorem isDirectory_iff :
    t.isDirectory p = true ↔ p.IsProper ∧ t.Leads (t.origin p) p.steps := by
  rw [isDirectory, beq_iff_eq, node?_eq_some_iff hlimits h, leads_steps_iff h]

end

end FileTree

end Flowchart
