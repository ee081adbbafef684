import Flowchart.Generation.Naming
import Flowchart.Proofs.Table
import Mathlib.Data.List.TakeWhile

set_option autoImplicit false

/-! # Names and full names

Identifiers have neither dots nor slashes in them, so the dots of a full name are those between its
names, and the name an item is declared in can be read off it. -/

namespace Flowchart

/-! ## Identifiers -/

namespace Java

theorem isPart_of_isStart {c : Char} (h : isStart c = true) : isPart c = true := by
  simp only [isStart, isPart, Text.isAlphanumeric, Bool.or_eq_true] at h ⊢
  tauto

theorem isIdentifier_ne_empty {name : String} (h : isIdentifier name = true) : name ≠ "" := by
  rintro rfl
  cases h

theorem isPart_of_mem {name : String} (h : isIdentifier name = true) {c : Char}
    (hc : c ∈ name.toList) : isPart c = true := by
  rw [isIdentifier] at h
  split at h
  · cases h
  · next first rest hname =>
      simp only [Bool.and_eq_true, List.all_eq_true] at h
      obtain ⟨⟨⟨hfirst, hrest⟩, -⟩, -⟩ := h
      rw [hname] at hc
      rcases List.mem_cons.1 hc with rfl | hc
      · exact isPart_of_isStart hfirst
      · exact hrest c hc

theorem isStart_head {name : String} (h : isIdentifier name = true) :
    ∃ c cs, name.toList = c :: cs ∧ isStart c = true := by
  unfold isIdentifier at h
  split at h
  · exact absurd h (by decide)
  · next c cs htext =>
    simp only [Bool.and_eq_true] at h
    exact ⟨c, cs, htext, h.1.1.1⟩

theorem not_mem_keywords {name : String} (h : isIdentifier name = true) : name ∉ keywords := by
  unfold isIdentifier at h
  split at h
  · exact absurd h (by decide)
  · simp only [Bool.and_eq_true, Bool.not_eq_true'] at h
    simpa using h.1.2

theorem dot_not_mem {name : String} (h : isIdentifier name = true) : '.' ∉ name.toList := by
  intro hdot
  have hpart := isPart_of_mem h hdot
  revert hpart
  decide

theorem slash_not_mem {name : String} (h : isIdentifier name = true) : '/' ∉ name.toList := by
  intro hslash
  have hpart := isPart_of_mem h hslash
  revert hpart
  decide

end Java

theorem Item.isIdentifier_of_checkName {item : Item} {project : String}
    (h : item.checkName project = .ok ()) : Java.isIdentifier item.name = true := by
  rw [checkName] at h
  split at h
  · cases h
  · next hname => simpa using hname

/-- What can be declared in a project has another name than the project. -/
theorem Item.name_ne_of_checkName {item : Item} {project : String}
    (h : item.checkName project = .ok ()) (hkind : item.kind ≠ .project) : item.name ≠ project := by
  rw [checkName] at h
  split at h
  · cases h
  split at h
  · cases h
  split at h
  · cases h
  · next hother => simpa [hkind] using hother

/-! ## Joining and taking apart -/

namespace FullName

theorem join_ne_empty {parent name : String} (hname : name ≠ "") : join parent name ≠ "" := by
  by_cases hparent : parent = ""
  · rwa [hparent, join_empty]
  · rw [join_of_ne name hparent]
    simp

/-- The parent of a full name is what the last name was joined to. -/
theorem parent_join {outer name : String} (houter : outer ≠ "") (hname : '.' ∉ name.toList) :
    parent (join outer name) = outer := by
  -- read backwards, the first dot is the one that the join has put there
  have hreverse : (join outer name).toList.reverse
      = name.toList.reverse ++ '.' :: outer.toList.reverse := by
    rw [join_of_ne name houter]
    simp
  have hbehind : (join outer name).toList.reverse.dropWhile (· ≠ '.')
      = '.' :: outer.toList.reverse := by
    rw [hreverse, List.dropWhile_append_of_pos]
    · simp
    · intro c hc
      have hne : c ≠ '.' := fun heq => hname (heq ▸ List.mem_reverse.1 hc)
      simpa using hne
  rw [parent, hbehind]
  simp

theorem join_eq_right_iff {outer name : String} : join outer name = name ↔ outer = "" := by
  constructor
  · intro h
    by_contra hne
    rw [join_of_ne name hne] at h
    have hlength := congrArg String.length h
    simp only [String.length_append] at hlength
    have hdot : ".".length = 1 := rfl
    omega
  · rintro rfl
    exact join_empty name

/-- What a name is joined to can be told from the full name. -/
theorem join_left_injective {outer outer' name : String}
    (h : join outer name = join outer' name) : outer = outer' := by
  by_cases hempty : outer = ""
  · rw [hempty, join_empty, eq_comm, join_eq_right_iff] at h
    rw [hempty, h]
  · by_cases hempty' : outer' = ""
    · rw [hempty', join_empty, join_eq_right_iff] at h
      exact absurd h hempty
    · rw [join_of_ne name hempty, join_of_ne name hempty', String.append_left_inj,
        String.append_left_inj] at h
      exact h

theorem project_append (outer rest : String) : project (outer ++ "." ++ rest) = project outer := by
  unfold project
  rw [String.toList_append, String.toList_append, List.append_assoc, List.takeWhile_append]
  split
  · next hall =>
      rw [(List.takeWhile_prefix _).eq_of_length hall]
      simp
  · rfl

theorem project_join {outer name : String} (houter : outer ≠ "") :
    project (join outer name) = project outer := by
  rw [join_of_ne name houter, project_append]

theorem project_eq_self {name : String} (hname : '.' ∉ name.toList) : project name = name := by
  have hall : ∀ c ∈ name.toList, decide (c ≠ '.') = true := by
    intro c hc
    rw [decide_eq_true_eq]
    rintro rfl
    exact hname hc
  rw [project, List.takeWhile_eq_self_iff.2 hall, String.ofList_toList]

/-- The names of a full name before a dot and behind it. -/
theorem segments_append (outer rest : String) :
    segments (outer ++ "." ++ rest) = segments outer ++ segments rest := by
  simp only [segments, List.splitOn, String.toList_append]
  rw [List.append_assoc, show ".".toList ++ rest.toList = '.' :: rest.toList from rfl,
    List.splitOnP_append_cons _ _ (by simp), List.map_append]

theorem mem_intercalate {α : Type} {separator : List α} {texts : List (List α)} {a : α}
    (h : a ∈ separator.intercalate texts) : a ∈ separator ∨ ∃ text ∈ texts, a ∈ text := by
  induction texts with
  | nil => cases h
  | cons first texts ih =>
    cases texts with
    | nil => exact Or.inr ⟨first, List.mem_singleton_self first, by simpa using h⟩
    | cons second texts =>
      rw [List.intercalate_cons_cons, List.mem_append, List.mem_append] at h
      rcases h with (hfirst | hseparator) | hothers
      · exact Or.inr ⟨first, List.mem_cons_self, hfirst⟩
      · exact Or.inl hseparator
      · refine (ih hothers).imp_right ?_
        rintro ⟨text, htext, ha⟩
        exact ⟨text, List.mem_cons_of_mem _ htext, ha⟩

/-- A full name is made of identifiers. -/
structure Spells (fullName : String) (names : List String) : Prop where
  eq_intercalate : fullName = String.intercalate "." names
  ne_nil : names ≠ []
  isIdentifier : ∀ n ∈ names, Java.isIdentifier n = true

namespace Spells

variable {fullName name : String} {names : List String}

theorem singleton (hname : Java.isIdentifier name = true) : Spells name [name] where
  eq_intercalate := by simp
  ne_nil := by simp
  isIdentifier := by simpa using hname

theorem segments_eq (h : Spells fullName names) : segments fullName = names := by
  have hsplit : fullName.toList.splitOn '.' = names.map String.toList := by
    rw [h.eq_intercalate, String.toList_intercalate]
    refine List.splitOn_intercalate '.' ?_ (by simpa using h.ne_nil)
    intro l hl
    obtain ⟨n, hn, rfl⟩ := List.mem_map.1 hl
    exact Java.dot_not_mem (h.isIdentifier n hn)
  rw [segments, hsplit, List.map_map]
  simp [Function.comp_def]

theorem ne_empty (h : Spells fullName names) : fullName ≠ "" := by
  rintro rfl
  have hsegments : names = [""] := h.segments_eq.symm
  have hname := h.isIdentifier "" (by simp [hsegments])
  cases hname

/-- A full name has no characters but those of identifiers and dots. -/
theorem isPart_or_eq_dot (h : Spells fullName names) {c : Char} (hc : c ∈ fullName.toList) :
    Java.isPart c = true ∨ c = '.' := by
  rw [h.eq_intercalate, String.toList_intercalate] at hc
  rcases mem_intercalate hc with hdot | ⟨text, htext, hc⟩
  · exact Or.inr (List.mem_singleton.1 hdot)
  · obtain ⟨n, hn, rfl⟩ := List.mem_map.1 htext
    exact Or.inl (Java.isPart_of_mem (h.isIdentifier n hn) hc)

/-- Joining adds one name. -/
theorem join (h : Spells fullName names) (hname : Java.isIdentifier name = true) :
    Spells (join fullName name) (names ++ [name]) where
  eq_intercalate := by
    rw [join_of_ne name h.ne_empty, String.intercalate_append_of_ne_nil h.ne_nil (by simp),
      ← h.eq_intercalate]
    simp
  ne_nil := by simp
  isIdentifier := by
    intro n hn
    rcases List.mem_append.1 hn with hn | hn
    · exact h.isIdentifier n hn
    · rwa [List.mem_singleton.1 hn]

end Spells

end FullName

/-! ## Parents in a table -/

namespace SymbolTable

/-- All names of a table are identifiers. -/
def Named (t : SymbolTable) : Prop := ∀ s ∈ t.symbols, Java.isIdentifier s.item.name = true

variable {t : SymbolTable} {root : Item}

theorem Named.fullName_ne_empty (hnamed : t.Named) (ht : t.Lists root) {s : Symbol}
    (hs : s ∈ t.symbols) : s.fullName ≠ "" := by
  have hname := Java.isIdentifier_ne_empty (hnamed s hs)
  rcases ht.root_or_child hs with heq | ⟨p, -, hchild⟩
  · rw [heq] at hname ⊢
    exact hname
  · rw [hchild.fullName_eq]
    exact FullName.join_ne_empty hname

/-- The full name of a child leads to the symbol it is declared in. -/
theorem Named.parent_eq (hnamed : t.Named) (ht : t.Lists root) {s p : Symbol} (hs : s ∈ t.symbols)
    (hp : p ∈ t.symbols) (hchild : s.IsChild p) : FullName.parent s.fullName = p.fullName := by
  rw [hchild.fullName_eq]
  exact FullName.parent_join (hnamed.fullName_ne_empty ht hp) (Java.dot_not_mem (hnamed s hs))

end SymbolTable

end Flowchart
