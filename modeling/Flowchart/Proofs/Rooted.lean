import Flowchart.Proofs.Success
import Flowchart.Workspace.FileOperations

set_option autoImplicit false

/-! # Trees in which everything stands in a directory

A list of places with what is there need not be a tree: a file could stand in a directory that does
not exist, or in another file. Nothing that can be done to a tree by following paths leads to that.
A path is followed from directory to directory, things are only created in the directory that the
path has led to, and what is removed goes with everything in it. -/

namespace Flowchart

namespace FileTree

variable {t t' t'' : FileTree} {p : Path} {place : Place}

/-- Everything stands in a directory. -/
def IsRooted (t : FileTree) : Prop :=
  ∀ ⦃place : Place⦄ ⦃name : String⦄, t.lookup (place ++ [name]) ≠ none →
    t.lookup place = some .directory

/-- Things may have been created, changed and removed, but everything that stood in a directory
    still does. -/
structure Evolves (t t' : FileTree) : Prop where
  limits_eq : t'.limits = t.limits
  isRooted : t.IsRooted → t'.IsRooted

namespace Evolves

theorem refl : t.Evolves t := ⟨rfl, id⟩

theorem trans (h : t.Evolves t') (h' : t'.Evolves t'') : t.Evolves t'' where
  limits_eq := h'.limits_eq.trans h.limits_eq
  isRooted ht := h'.isRooted (h.isRooted ht)

/-- Where paths start has no influence on what stands where. -/
theorem withCurrent (h : t.Evolves t') (place : Place) :
    t.Evolves { t' with current := place } where
  limits_eq := h.limits_eq
  isRooted ht := h.isRooted ht

end Evolves

/-! ## Creating and removing -/

namespace IsRooted

/-- It is enough to look at the places that are listed. -/
theorem of_nodes (h : ∀ n ∈ t.nodes, t.lookup n.1.dropLast = some .directory) : t.IsRooted := by
  intro place name hsome
  have hlookup : t.lookup (place ++ [name]) = t.nodes.lookup (place ++ [name]) := by
    cases place <;> rfl
  obtain ⟨node, hnode⟩ := Option.ne_none_iff_exists'.1 (hlookup ▸ hsome)
  obtain ⟨front, rest, heq, -⟩ := List.lookup_eq_some_iff.1 hnode
  simpa using h (place ++ [name], node) (by simp [heq])

/-- Something can be put into a directory, unless that makes a directory into something else. -/
theorem set (h : t.IsRooted) {name : String} {node : FileNode}
    (houter : t.lookup place = some .directory)
    (hnode : node = .directory ∨ t.lookup (place ++ [name]) ≠ some .directory) :
    (t.set (place ++ [name]) node).IsRooted := by
  intro other name' hsome
  rw [lookup_set _ (by simp)] at hsome ⊢
  split at hsome
  · next heq =>
    obtain ⟨rfl, -⟩ := List.append_inj' heq rfl
    rw [if_neg (by simp), houter]
  · have hother := h hsome
    split
    -- Something stands in the place that is set, so that was a directory already.
    · next heq =>
      rcases hnode with rfl | hfile
      · rfl
      · exact absurd (heq ▸ hother) hfile
    · exact hother

/-- Places can be emptied together with what is below them. -/
theorem of_lookup (h : t.IsRooted) {R : Place → Prop} [DecidablePred R]
    (hbelow : ∀ place name, R place → R (place ++ [name]))
    (hlookup : ∀ x, t'.lookup x = if R x then none else t.lookup x) : t'.IsRooted := by
  intro place name hsome
  rw [hlookup] at hsome ⊢
  split at hsome
  · exact absurd rfl hsome
  · next hkept => rw [if_neg (mt (hbelow place name) hkept), h hsome]

theorem removeBelow (h : t.IsRooted) (hne : place ≠ []) : (t.removeBelow place).IsRooted :=
  h.of_lookup (fun _ _ hbelow => hbelow.trans (List.prefix_append _ _)) (lookup_removeBelow t hne)

theorem clear (h : t.IsRooted) (place : Place) : (t.clear place).IsRooted := by
  refine h.of_lookup ?_ (lookup_clear t place)
  rintro inner name ⟨hbelow, -⟩
  refine ⟨hbelow.trans (List.prefix_append _ _), ?_⟩
  -- The place itself stays, and it is not below itself.
  rintro rfl
  have hle := hbelow.length_le
  rw [List.length_append, List.length_singleton] at hle
  omega

end IsRooted

/-- Only the top is no name in a directory. -/
theorem exists_eq_concat (h : t.lookup place ≠ some .directory) :
    ∃ directory name, place = directory ++ [name] := by
  rcases List.eq_nil_or_concat place with rfl | ⟨directory, name, rfl⟩
  · exact absurd rfl h
  · exact ⟨directory, name, List.concat_eq_append⟩

theorem evolves_removeBelow (h : t.lookup place ≠ some .directory) :
    t.Evolves (t.removeBelow place) where
  limits_eq := rfl
  isRooted ht := by
    refine ht.removeBelow ?_
    rintro rfl
    exact h rfl

theorem evolves_clear (place : Place) : t.Evolves (t.clear place) where
  limits_eq := rfl
  isRooted ht := ht.clear place

/-- What a file holds can be replaced. -/
theorem evolves_setContents {directory : Place} {name contents : String}
    (houter : t.IsRooted → t.lookup directory = some .directory)
    (hplace : t.lookup (directory ++ [name]) ≠ some .directory) :
    t.Evolves (t.setContents (directory ++ [name]) contents) := by
  unfold setContents
  split
  · exact .refl
  · exact ⟨rfl, fun ht => ht.set (houter ht) (Or.inr hplace)⟩

theorem evolves_setContents_of_file {before contents : String}
    (h : t.lookup place = some (.file before)) : t.Evolves (t.setContents place contents) := by
  have hplace : t.lookup place ≠ some .directory := by simp [h]
  obtain ⟨directory, name, rfl⟩ := exists_eq_concat hplace
  have hsome : t.lookup (directory ++ [name]) ≠ none := by simp [h]
  exact evolves_setContents (fun ht => ht hsome) hplace

/-! ## Following paths -/

/-- A path that ends in a slash leads to a directory. -/
theorem lookup_of_walk {segments : List String} {q : Place}
    (h : t.walk place (segments ++ [""]) = .ok q) : t.lookup q = some .directory := by
  induction segments generalizing place with
  | nil =>
    rw [List.nil_append, walk] at h
    split at h
    · cases h
    · next hplace =>
      cases h
      exact hplace
    · cases h
  | cons segment rest ih =>
    rw [List.cons_append, walk] at h
    split at h
    · cases h
    · split at h
      · exact ih h
      · split at h
        · exact ih h
        · split at h
          · exact ih h
          · cases h
    · cases h

/-- The last step of a path is taken from a directory. -/
theorem lookup_of_entry {e : Entry} (h : t.entry p = .ok e) :
    t.lookup e.directory = some .directory := by
  obtain ⟨start, -, h⟩ := bind_eq_ok.1 h
  dsimp only at h
  split at h
  · cases h
    rfl
  · obtain ⟨directory, hwalk, h⟩ := bind_eq_ok.1 h
    split at h
    · cases h
      exact lookup_of_walk hwalk
    · cases h

theorem lookup_of_find {node : FileNode} (h : t.find p = .ok (place, node)) :
    t.lookup place = some node := by
  obtain ⟨start, -, h⟩ := bind_eq_ok.1 h
  obtain ⟨reached, -, h⟩ := bind_eq_ok.1 h
  split at h
  · next hlookup =>
    cases h
    exact hlookup
  · cases h

/-- A file is written to a place in a directory that is no directory itself. -/
theorem target_eq_ok (h : t.target p = .ok place) : ∃ directory name,
    place = directory ++ [name] ∧ t.lookup directory = some .directory
      ∧ t.lookup place ≠ some .directory := by
  obtain ⟨e, hentry, h⟩ := bind_eq_ok.1 h
  have hdirectory := lookup_of_entry hentry
  split at h
  · next directory name =>
    split at h
    · cases h
    · cases h
    · next hnot _ =>
      cases h
      exact ⟨directory, name, rfl, hdirectory, hnot⟩
  · cases h

theorem evolves_setContents_of_target (h : t.target p = .ok place) (contents : String) :
    t.Evolves (t.setContents place contents) := by
  obtain ⟨directory, name, rfl, hdirectory, hplace⟩ := target_eq_ok h
  exact evolves_setContents (fun _ => hdirectory) hplace

/-! ## Operations -/

/-- An operation keeps everything in directories, if it succeeds. -/
def IsOrderly (operation : FileTree → Path → Except FileError FileTree) : Prop :=
  ∀ ⦃t p t'⦄, operation t p = .ok t' → t.Evolves t'

theorem isOrderly_makeDirectory : IsOrderly makeDirectory := by
  intro t p t' h
  obtain ⟨e, hentry, h⟩ := bind_eq_ok.1 h
  have hdirectory := lookup_of_entry hentry
  split at h
  · dsimp only at h
    split at h
    · cases h
    · cases h
      exact ⟨rfl, fun ht => ht.set hdirectory (Or.inl rfl)⟩
  · cases h

theorem evolves_makeChain (paths : List Path) : t.Evolves (t.makeChain paths).2 := by
  induction paths with
  | nil => exact .refl
  | cons p outer ih =>
    unfold makeChain
    split
    · exact .refl
    · split
      · next hmade => exact isOrderly_makeDirectory hmade
      · rcases hchain : t.makeChain outer with ⟨result, t'⟩
        rw [hchain] at ih
        cases result with
        | error e => exact ih
        | ok _ =>
          dsimp only
          split
          · next hmade => exact ih.trans (isOrderly_makeDirectory hmade)
          · exact ih
      · exact .refl

theorem evolves_makeDirectories (p : Path) : t.Evolves (t.makeDirectories p).2 :=
  evolves_makeChain p.ancestors

theorem isOrderly_write (contents : String) : IsOrderly (write · · contents) := by
  intro t p t' h
  obtain ⟨place, htarget, h⟩ := bind_eq_ok.1 h
  cases h
  exact evolves_setContents_of_target htarget contents

theorem isOrderly_removeDirectory : IsOrderly removeDirectory := by
  intro t p t' h
  obtain ⟨e, -, h⟩ := bind_eq_ok.1 h
  split at h
  · dsimp only at h
    split at h
    · split at h
      · cases h
      · cases h
        exact ⟨rfl, fun ht => ht.removeBelow (by simp)⟩
    · cases h
    · cases h
  · cases h
  · cases h
  · cases h

theorem isOrderly_removeFile : IsOrderly removeFile := by
  intro t p t' h
  obtain ⟨⟨place, node⟩, hfind, h⟩ := bind_eq_ok.1 h
  have hlookup := lookup_of_find hfind
  cases node with
  | directory => cases h
  | file | device | program =>
    cases h
    exact evolves_removeBelow (by simp [hlookup])

theorem evolves_removeTree (p : Path) : t.Evolves (t.removeTree p).2 := by
  unfold removeTree
  split
  · next place _ =>
    have hclear := evolves_clear (t := t) place
    dsimp only
    split
    · next hremoved => exact hclear.trans (isOrderly_removeDirectory hremoved)
    · exact hclear
    · exact hclear
  · exact .refl
  · exact .refl

end FileTree

end Flowchart
