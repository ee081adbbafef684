import Flowchart.Generation.Compilation
import Mathlib.Data.List.Basic

set_option autoImplicit false

/-! # Paths that go through names

A path written as names with slashes between them has these names as its components, if each of them
is a single step. So different names make different paths, and going down to a child and up to the
parent add and remove one name. -/

namespace Flowchart

namespace Path

/-! ## Steps -/

/-- A name that is a component by itself. -/
structure IsStep (name : String) : Prop where
  slash_not_mem : '/' ∉ name.toList
  ne_empty : name ≠ ""
  ne_current : name ≠ "."
  ne_parent : name ≠ ".."

/-- The path that goes through names in turn. -/
def ofNames (names : List String) : Path := ⟨String.intercalate "/" names⟩

variable {names : List String} {name : String}

theorem IsStep.not_idle (h : IsStep name) : isIdle name = false := by
  simp [isIdle, h.ne_empty, h.ne_current]

theorem forall_isStep_append (hsteps : ∀ n ∈ names, IsStep n) (hname : IsStep name) :
    ∀ n ∈ names ++ [name], IsStep n := by
  intro n hn
  rcases List.mem_append.1 hn with hn | hn
  · exact hsteps n hn
  · rw [List.mem_singleton.1 hn]
    exact hname

theorem splitOn_ofNames (hne : names ≠ []) (hsteps : ∀ n ∈ names, IsStep n) :
    (ofNames names).text.toList.splitOn '/' = names.map String.toList := by
  rw [ofNames, String.toList_intercalate]
  refine List.splitOn_intercalate '/' ?_ (by simpa using hne)
  intro l hl
  obtain ⟨n, hn, rfl⟩ := List.mem_map.1 hl
  exact (hsteps n hn).slash_not_mem

/-- Between the slashes of the path stand the names. -/
theorem split_ofNames (hne : names ≠ []) (hsteps : ∀ n ∈ names, IsStep n) :
    (ofNames names).split = ("", names) := by
  unfold split
  rw [splitOn_ofNames hne hsteps]
  cases names with
  | nil => exact absurd rfl hne
  | cons first rest =>
    have hfirst := hsteps first List.mem_cons_self
    have hnonempty : first.toList.isEmpty = false := by
      simpa [String.toList_eq_nil_iff] using hfirst.ne_empty
    have hcurrent : first.toList ≠ ['.'] := by
      intro heq
      exact hfirst.ne_current (String.toList_inj.1 heq)
    simp only [List.map_cons, hnonempty, Bool.false_and, Bool.false_eq_true, if_false, hcurrent,
      List.map_map, String.ofList_toList]
    simp [Function.comp_def]

theorem components_ofNames (hne : names ≠ []) (hsteps : ∀ n ∈ names, IsStep n) :
    (ofNames names).components = names.map .normal := by
  have hidle : names.filter (!isIdle ·) = names := by
    rw [List.filter_eq_self]
    intro n hn
    simp [(hsteps n hn).not_idle]
  have hnormal : names.map segmentComponent = names.map .normal := by
    apply List.map_congr_left
    intro n hn
    rw [segmentComponent, if_neg (hsteps n hn).ne_parent]
  rw [components, split_ofNames hne hsteps]
  simp only [hidle, hnormal]
  rfl

/-! ## Children and parents -/

theorem IsStep.getLast?_ne_slash (h : IsStep name) (before : List Char) :
    (before ++ name.toList).getLast? ≠ some '/' := by
  have hne : name.toList ≠ [] := by simpa [String.toList_eq_nil_iff] using h.ne_empty
  rw [List.getLast?_append_of_ne_nil _ hne]
  intro hlast
  exact h.slash_not_mem (List.mem_of_getLast? hlast)

theorem getLast?_ofNames_ne_slash (hne : names ≠ []) (hsteps : ∀ n ∈ names, IsStep n) :
    (ofNames names).text.toList.getLast? ≠ some '/' := by
  obtain ⟨init, last, rfl⟩ := List.eq_nil_or_concat names |>.resolve_left hne
  have hlast := hsteps last (by simp)
  cases init with
  | nil =>
    have h := hlast.getLast?_ne_slash []
    simpa [ofNames] using h
  | cons first rest =>
    have h := hlast.getLast?_ne_slash ((String.intercalate "/" (first :: rest)).toList ++ ['/'])
    rw [ofNames, List.concat_eq_append, String.intercalate_append_of_ne_nil (by simp) (by simp)]
    simpa using h

theorem child_ofNames (hne : names ≠ []) (hsteps : ∀ n ∈ names, IsStep n) (hname : IsStep name) :
    (ofNames names).child name = ofNames (names ++ [name]) := by
  have habsolute : isAbsolute ⟨name⟩ = false := by
    cases hhead : name.toList.head? with
    | none => simp [isAbsolute, hhead]
    | some c =>
      have hc : c ≠ '/' := fun heq => hname.slash_not_mem (heq ▸ List.mem_of_head? hhead)
      simpa [isAbsolute, hhead] using hc
  have htext : (ofNames names).text ≠ "" := by
    intro hempty
    have hsplit := splitOn_ofNames hne hsteps
    rw [hempty] at hsplit
    cases names with
    | nil => exact hne rfl
    | cons first rest =>
      have hfirst : first.toList = [] := (List.cons.inj hsplit).1.symm
      exact (hsteps first List.mem_cons_self).ne_empty (String.toList_eq_nil_iff.1 hfirst)
  have hlast := getLast?_ofNames_ne_slash hne hsteps
  rw [child, join, habsolute, if_neg (by simp), if_neg]
  · rw [ofNames, ofNames, String.intercalate_append_of_ne_nil hne (by simp)]
    simp
  · simp [htext, hlast]

theorem trimIdle_eq_self (hsteps : ∀ n ∈ names, IsStep n) : trimIdle names = names := by
  have hkeep : names.reverse.dropWhile isIdle = names.reverse := by
    cases hreverse : names.reverse with
    | nil => rfl
    | cons last rest =>
      have hlast : last ∈ names := by
        rw [← List.mem_reverse, hreverse]
        exact List.mem_cons_self
      rw [List.dropWhile_cons, (hsteps last hlast).not_idle]
      rfl
  rw [trimIdle, hkeep, List.reverse_reverse]

theorem parent?_ofNames (hsteps : ∀ n ∈ names, IsStep n) (hname : IsStep name) :
    (ofNames (names ++ [name])).parent? = some (ofNames names) := by
  have hall := forall_isStep_append hsteps hname
  rw [parent?, split_ofNames (by simp) hall]
  simp only [trimIdle_eq_self hall, List.dropLast_concat, trimIdle_eq_self hsteps]
  rw [if_neg (by simp)]
  rfl

theorem fileName?_ofNames (hsteps : ∀ n ∈ names, IsStep n) (hname : IsStep name) :
    (ofNames (names ++ [name])).fileName? = some name := by
  have hall := forall_isStep_append hsteps hname
  rw [fileName?, split_ofNames (by simp) hall, trimIdle_eq_self hall]
  simp [hname.ne_parent]

/-! ## Names put together -/

/-- Going on from a path through more names. -/
theorem foldl_child_ofNames (rest : List String) (hne : names ≠ [])
    (hsteps : ∀ n ∈ names ++ rest, IsStep n) :
    rest.foldl child (ofNames names) = ofNames (names ++ rest) := by
  induction rest generalizing names with
  | nil => simp
  | cons name rest ih =>
    have hnames : ∀ n ∈ names, IsStep n := fun n hn => hsteps n (List.mem_append_left _ hn)
    rw [List.append_cons] at hsteps ⊢
    rw [List.foldl_cons, child_ofNames hne hnames (hsteps name (by simp)), ih (by simp) hsteps]

theorem ofSegments_eq_ofNames (hne : names ≠ []) (hsteps : ∀ n ∈ names, IsStep n) :
    ofSegments names = ofNames names := by
  cases names with
  | nil => exact absurd rfl hne
  | cons first rest =>
    have hfirst : child ⟨""⟩ first = ofNames [first] := by
      simp [child, join, ofNames]
    rw [ofSegments, List.foldl_cons, hfirst, foldl_child_ofNames rest (by simp) hsteps]
    rfl

theorem stem_eq_self {name : String} (h : '.' ∉ name.toList) : stem name = name := by
  have hpart : ∀ c ∈ name.toList.reverse, decide (c ≠ '.') = true := by
    intro c hc
    have hne : c ≠ '.' := fun heq => h (heq ▸ List.mem_reverse.1 hc)
    simpa using hne
  have hdrop : name.toList.reverse.dropWhile (· ≠ '.') = [] := by
    rw [← List.append_nil name.toList.reverse, List.dropWhile_append_of_pos hpart]
    rfl
  rw [stem, hdrop]
  rfl

/-- Adding an extension to names without dots. -/
theorem withExtension_ofNames {name extension : String} (hsteps : ∀ n ∈ names, IsStep n)
    (hname : IsStep name) (hdot : '.' ∉ name.toList) :
    (ofNames (names ++ [name])).withExtension extension
      = ⟨(ofNames (names ++ [name])).text ++ "." ++ extension⟩ := by
  have hall := forall_isStep_append hsteps hname
  rw [withExtension, fileName?_ofNames hsteps hname, split_ofNames (by simp) hall]
  simp only [trimIdle_eq_self hall, List.dropLast_concat, stem_eq_self hdot]
  rfl

/-- What is added to a path is added to its last name. -/
theorem ofNames_append (names : List String) (name ending : String) :
    ofNames (names ++ [name ++ ending]) = ⟨(ofNames (names ++ [name])).text ++ ending⟩ := by
  cases names with
  | nil => simp [ofNames]
  | cons first rest =>
    rw [ofNames, ofNames, String.intercalate_append_of_ne_nil (by simp) (by simp),
      String.intercalate_append_of_ne_nil (by simp) (by simp)]
    simp [String.append_assoc]

/-- What is written below a path goes through the same names first. -/
theorem exists_append_of_text_eq {others : List String} {rest : String} (hne : names ≠ [])
    (hsteps : ∀ n ∈ names, IsStep n) (hothers : others ≠ []) (hothersteps : ∀ n ∈ others, IsStep n)
    (h : (ofNames others).text = (ofNames names).text ++ "/" ++ rest) :
    ∃ below, below ≠ [] ∧ others = names ++ below := by
  have hsplit := splitOn_ofNames hothers hothersteps
  rw [h, List.splitOn] at hsplit
  simp only [String.toList_append] at hsplit
  rw [List.append_assoc, show "/".toList ++ rest.toList = '/' :: rest.toList from rfl,
    List.splitOnP_append_cons _ _ (by simp), ← List.splitOn, splitOn_ofNames hne hsteps] at hsplit
  refine ⟨(rest.toList.splitOn '/').map String.ofList, by simp, ?_⟩
  have hmap := congrArg (List.map String.ofList) hsplit
  simpa [Function.comp_def, List.splitOn] using hmap.symm

/-! ## The order of paths -/

theorem componentLt_trans {a b c : PathComponent} (hab : PathComponent.lt a b = true)
    (hbc : PathComponent.lt b c = true) : PathComponent.lt a c = true := by
  cases a <;> cases b <;> cases c <;> simp_all [PathComponent.lt, PathComponent.rank]
  exact StrictTotal.trans _ _ _ hab hbc

theorem componentLt_total {a b : PathComponent} (hne : a ≠ b) :
    PathComponent.lt a b = true ∨ PathComponent.lt b a = true := by
  cases a <;> cases b <;>
    first
      | exact absurd rfl hne
      | simp [PathComponent.lt, PathComponent.rank]
  rename_i a b
  have hnames : a ≠ b := fun heq => hne (heq ▸ rfl)
  cases hlt : textLt a b with
  | true => exact Or.inl rfl
  | false => exact Or.inr (StrictTotal.total a b hnames hlt)

theorem componentLt_irrefl (a : PathComponent) : PathComponent.lt a a = false := by
  cases a with
  | normal name => simp [PathComponent.lt, textLt]
  | root | current | parent => rfl

theorem componentsLe_cons {a b : PathComponent} {as bs : List PathComponent} :
    componentsLe (a :: as) (b :: bs) = true
      ↔ PathComponent.lt a b = true ∨ a = b ∧ componentsLe as bs = true := by
  simp [componentsLe]

theorem componentsLe_trans {a b c : List PathComponent} (hab : componentsLe a b = true)
    (hbc : componentsLe b c = true) : componentsLe a c = true := by
  induction a generalizing b c with
  | nil => rfl
  | cons x xs ih =>
    cases b with
    | nil => cases hab
    | cons y ys =>
      cases c with
      | nil => cases hbc
      | cons z zs =>
        rw [componentsLe_cons] at hab hbc ⊢
        rcases hab with hxy | ⟨rfl, hxy⟩
        · rcases hbc with hyz | ⟨rfl, -⟩
          · exact Or.inl (componentLt_trans hxy hyz)
          · exact Or.inl hxy
        · rcases hbc with hyz | ⟨rfl, hyz⟩
          · exact Or.inl hyz
          · exact Or.inr ⟨rfl, ih hxy hyz⟩

theorem componentsLe_total (a b : List PathComponent) :
    componentsLe a b = true ∨ componentsLe b a = true := by
  induction a generalizing b with
  | nil => exact Or.inl rfl
  | cons x xs ih =>
    cases b with
    | nil => exact Or.inr rfl
    | cons y ys =>
      rw [componentsLe_cons, componentsLe_cons]
      by_cases hxy : x = y
      · rcases ih ys with h | h
        · exact Or.inl (Or.inr ⟨hxy, h⟩)
        · exact Or.inr (Or.inr ⟨hxy.symm, h⟩)
      · rcases componentLt_total hxy with h | h
        · exact Or.inl (Or.inl h)
        · exact Or.inr (Or.inl h)

theorem componentsLe_antisymm {a b : List PathComponent} (hab : componentsLe a b = true)
    (hba : componentsLe b a = true) : a = b := by
  induction a generalizing b with
  | nil =>
    cases b with
    | nil => rfl
    | cons y ys => cases hba
  | cons x xs ih =>
    cases b with
    | nil => cases hab
    | cons y ys =>
      rw [componentsLe_cons] at hab hba
      have hirrefl := componentLt_irrefl x
      rcases hab with hxy | ⟨rfl, hxy⟩
      · rcases hba with hyx | ⟨rfl, -⟩
        · rw [componentLt_trans hxy hyx] at hirrefl
          cases hirrefl
        · rw [hxy] at hirrefl
          cases hirrefl
      · rcases hba with hyx | ⟨-, hyx⟩
        · rw [hyx] at hirrefl
          cases hirrefl
        · rw [ih hxy hyx]

theorem le_trans {a b c : Path} (hab : a.le b = true) (hbc : b.le c = true) : a.le c = true :=
  componentsLe_trans hab hbc

theorem le_total (a b : Path) : (a.le b || b.le a) = true := by
  rw [Bool.or_eq_true]
  exact componentsLe_total _ _

/-- A path comes strictly before another one. -/
def Before (a b : Path) : Prop := a.le b = true ∧ b.le a = false

theorem before_of_le {a b : Path} (hle : a.le b = true) (hne : a.components ≠ b.components) :
    a.Before b := by
  refine ⟨hle, ?_⟩
  cases hba : b.le a with
  | false => rfl
  | true => exact absurd (componentsLe_antisymm hle hba) hne

/-- No two paths come before each other. -/
theorem not_before_both {a b : Path} {p : Prop} (hab : a.Before b) (hba : b.Before a) : p := by
  have hnot := hba.2
  rw [hab.1] at hnot
  cases hnot

end Path

/-! ## Sorting -/

/-- Things with different paths are sorted into strictly increasing order. -/
theorem pairwise_before_mergeSort {α : Type} (path : α → Path) {l : List α}
    (hnodup : (l.map fun a => (path a).components).Nodup) :
    (l.mergeSort fun a b => (path a).le (path b)).Pairwise fun a b => (path a).Before (path b) := by
  have hsorted : (l.mergeSort fun a b => (path a).le (path b)).Pairwise
      fun a b => (path a).le (path b) = true := by
    apply List.pairwise_mergeSort
    · intro a b c hab hbc
      exact Path.le_trans hab hbc
    · intro a b
      exact Path.le_total (path a) (path b)
  -- sorting leaves room for ties, but no two paths are the same
  have hperm := List.mergeSort_perm l fun a b => (path a).le (path b)
  have hdistinct : (l.mergeSort fun a b => (path a).le (path b)).Pairwise
      fun a b => (path a).components ≠ (path b).components := by
    rw [← List.pairwise_map (R := (· ≠ ·)) (f := fun a => (path a).components)]
    exact (hperm.map _).nodup_iff.2 hnodup
  exact hsorted.imp₂ (fun _ _ hle hne => Path.before_of_le hle hne) hdistinct

/-- Sorting forgets the order that things with different paths came in. -/
theorem mergeSort_eq_of_perm {α : Type} (path : α → Path) {l l' : List α} (h : l.Perm l')
    (hnodup : (l.map fun a => (path a).components).Nodup) :
    (l.mergeSort fun a b => (path a).le (path b))
      = l'.mergeSort fun a b => (path a).le (path b) := by
  have hsorted := pairwise_before_mergeSort path hnodup
  have hsorted' := pairwise_before_mergeSort path ((h.map _).nodup_iff.1 hnodup)
  have hperm := ((List.mergeSort_perm l fun a b => (path a).le (path b)).trans h).trans
    (List.mergeSort_perm l' fun a b => (path a).le (path b)).symm
  exact List.Perm.eq_of_pairwise (fun _ _ _ _ => Path.not_before_both) hsorted hsorted' hperm

/-- Things can be left out before they are sorted. -/
theorem filter_mergeSort {α : Type} (path : α → Path) (keep : α → Bool) {l : List α}
    (hnodup : (l.map fun a => (path a).components).Nodup) :
    (l.mergeSort fun a b => (path a).le (path b)).filter keep
      = (l.filter keep).mergeSort fun a b => (path a).le (path b) := by
  have hsorted := (pairwise_before_mergeSort path hnodup).filter keep
  have hsorted' := pairwise_before_mergeSort path (l := l.filter keep)
    ((List.filter_sublist.map _).nodup hnodup)
  have hperm := ((List.mergeSort_perm l fun a b => (path a).le (path b)).filter keep).trans
    (List.mergeSort_perm (l.filter keep) fun a b => (path a).le (path b)).symm
  exact List.Perm.eq_of_pairwise (fun _ _ _ _ => Path.not_before_both) hsorted hsorted' hperm

theorem dropRepeated_eq_self {paths : List Path} (h : paths.Pairwise Path.Before) :
    dropRepeated paths = paths := by
  induction paths with
  | nil => rfl
  | cons a rest ih =>
    obtain ⟨hfirst, hrest⟩ := List.pairwise_cons.1 h
    rw [dropRepeated, ih hrest]
    cases rest with
    | nil => rfl
    | cons b others =>
      obtain ⟨hle, hnot⟩ := hfirst b List.mem_cons_self
      have hdiffer : a.same b = false := by
        cases hsame : a.same b with
        | false => rfl
        | true =>
          have heq : a.components = b.components := beq_iff_eq.1 hsame
          have hback : b.le a = a.le b := by rw [Path.le, Path.le, heq]
          rw [hback, hle] at hnot
          exact hnot
      simp [hdiffer]

/-- Different directories are only sorted. -/
theorem sortDirectories_eq {directories : List Path}
    (hnodup : (directories.map Path.components).Nodup) :
    sortDirectories directories = directories.mergeSort Path.le
      ∧ (sortDirectories directories).Pairwise Path.Before := by
  have hsorted : (directories.mergeSort Path.le).Pairwise Path.Before :=
    pairwise_before_mergeSort id hnodup
  rw [sortDirectories, dropRepeated_eq_self hsorted]
  exact ⟨rfl, hsorted⟩

end Flowchart
