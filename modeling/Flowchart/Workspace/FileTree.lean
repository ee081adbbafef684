import Flowchart.Path
import Flowchart.Workspace.FileError

set_option autoImplicit false

/-! # File trees

Directories and files as a value. A place in the tree is the list of names that leads to it from
the top; the top itself is always a directory. A path is followed step by step, and every step but
the last has to be taken from a directory that exists. -/

namespace Flowchart

/-- What can be at a place. -/
inductive FileNode where
  | directory
  | file (contents : String)
  /-- A device that holds nothing and takes everything. -/
  | device
  /-- A program that is not a script. -/
  | program (name : String)
deriving DecidableEq

/-- The place that a list of names leads to. -/
abbrev Place := List String

/-- How many bytes a name and a path may have; none, if there is no bound. -/
structure FileLimits where
  name : Option Nat := none
  path : Option Nat := none
deriving DecidableEq

/-- The limits of common file systems. -/
def FileLimits.usual : FileLimits := { name := some 255, path := some 4095 }

/-- Whether a text keeps within a bound. -/
def FileLimits.allows (limit : Option Nat) (text : String) : Bool :=
  match limit with
  | some n => decide (text.utf8ByteSize ≤ n)
  | none => true

/-- The directories and files below some top directory, and the place where paths start that do not
    start at the top. -/
structure FileTree where
  nodes : List (Place × FileNode)
  current : Place := []
  limits : FileLimits := {}

namespace FileTree

/-- The tree without any files. -/
def empty : FileTree := { nodes := [] }

/-- What is at a place. -/
def lookup (t : FileTree) : Place → Option FileNode
  | [] => some .directory
  | place => t.nodes.lookup place

/-- The tree with a place set. -/
def set (t : FileTree) (place : Place) (node : FileNode) : FileTree :=
  { t with nodes := (place, node) :: t.nodes.filter (·.1 ≠ place) }

/-- The tree without a place and everything below it. -/
def removeBelow (t : FileTree) (place : Place) : FileTree :=
  { t with nodes := t.nodes.filter (fun n => !place.isPrefixOf n.1) }

/-- The tree without what is below a place. -/
def clear (t : FileTree) (place : Place) : FileTree :=
  { t with nodes := t.nodes.filter (fun n => !place.isPrefixOf n.1 || n.1 == place) }

/-- Whether something is below a place. -/
def holdsAnything (t : FileTree) (place : Place) : Bool :=
  t.nodes.any (fun n => place.isPrefixOf n.1 && n.1 != place)

/-- The names in the directory at a place. -/
def names (t : FileTree) (place : Place) : List String :=
  t.nodes.filterMap fun n =>
    match n.1.getLast? with
    | some name => if n.1.dropLast = place then some name else none
    | none => none

/-- Looking up a place that passes a filter on places finds what it finds without the filter. -/
theorem lookup_filter (nodes : List (Place × FileNode)) (keep : Place → Bool) {p : Place}
    (h : keep p = true) : (nodes.filter (fun n => keep n.1)).lookup p = nodes.lookup p := by
  induction nodes with
  | nil => rfl
  | cons n rest ih =>
    obtain ⟨place, node⟩ := n
    by_cases heq : p = place
    · subst heq
      simp [h]
    · cases hk : keep place <;> simp [hk, List.lookup_cons, beq_false_of_ne heq, ih]

/-- Looking up a place that a filter on places removes finds nothing. -/
theorem lookup_filter_removed (nodes : List (Place × FileNode)) (keep : Place → Bool) {p : Place}
    (h : keep p = false) : (nodes.filter (fun n => keep n.1)).lookup p = none := by
  induction nodes with
  | nil => rfl
  | cons n rest ih =>
    obtain ⟨place, node⟩ := n
    by_cases heq : p = place
    · subst heq
      simp [h, ih]
    · cases hk : keep place <;> simp [hk, List.lookup_cons, beq_false_of_ne heq, ih]

theorem lookup_set (t : FileTree) {place : Place} (h : place ≠ []) (node : FileNode) (p : Place) :
    (t.set place node).lookup p = if p = place then some node else t.lookup p := by
  cases p with
  | nil => simp [lookup, Ne.symm h]
  | cons name rest =>
    by_cases heq : name :: rest = place
    · simp [lookup, set, heq]
    · simp only [lookup, set, List.lookup_cons, if_neg heq, beq_false_of_ne heq]
      exact lookup_filter t.nodes (fun q => decide (q ≠ place)) (by simp [heq])

theorem lookup_removeBelow (t : FileTree) {place : Place} (h : place ≠ []) (p : Place) :
    (t.removeBelow place).lookup p = if place <+: p then none else t.lookup p := by
  cases p with
  | nil => simp [lookup, h]
  | cons name rest =>
    by_cases hp : place <+: name :: rest
    · simp only [lookup, removeBelow, if_pos hp]
      exact lookup_filter_removed t.nodes (fun q => !place.isPrefixOf q) (by simpa using hp)
    · simp only [lookup, removeBelow, if_neg hp]
      exact lookup_filter t.nodes (fun q => !place.isPrefixOf q)
        (by simpa [← List.isPrefixOf_iff_prefix] using hp)

theorem lookup_clear (t : FileTree) (place x : Place) :
    (t.clear place).lookup x = if place <+: x ∧ x ≠ place then none else t.lookup x := by
  cases x with
  | nil =>
    rw [if_neg fun h => h.2 (List.prefix_nil.1 h.1).symm]
    rfl
  | cons name rest =>
    by_cases hgone : place <+: name :: rest ∧ name :: rest ≠ place
    · simp only [lookup, clear, if_pos hgone]
      refine lookup_filter_removed t.nodes (fun q => !place.isPrefixOf q || q == place) ?_
      simpa [List.isPrefixOf_iff_prefix] using hgone
    · simp only [lookup, clear, if_neg hgone]
      refine lookup_filter t.nodes (fun q => !place.isPrefixOf q || q == place) ?_
      simpa [← List.isPrefixOf_iff_prefix, Decidable.imp_iff_not_or] using hgone

/-! ## Following paths -/

/-- The place that segments lead to from a place. -/
def walk (t : FileTree) (place : Place) : List String → Except FileError Place
  | [] => .ok place
  | segment :: rest =>
    match t.lookup place with
    | none => .error .notFound
    | some .directory =>
      if Path.isIdle segment then t.walk place rest
      else if segment = ".." then t.walk place.dropLast rest
      else if FileLimits.allows t.limits.name segment then t.walk (place ++ [segment]) rest
      else .error .nameTooLong
    | some _ => .error .notDirectory

/-- Where the first step of a path is taken, if the path is one at all. -/
def start (t : FileTree) (p : Path) : Except FileError Place :=
  if p.text.toList.contains (Char.ofNat 0) then .error .endInside
  else if p.text = "" then .error .notFound
  else if !FileLimits.allows t.limits.path p.text then .error .nameTooLong
  else .ok (if p.isAbsolute then [] else t.current)

/-- What a path leads to, with its place. -/
def find (t : FileTree) (p : Path) : Except FileError (Place × FileNode) := do
  let place ← t.walk (← t.start p) p.segments
  match t.lookup place with
  | some node => return (place, node)
  | none => .error .notFound

/-- What a path leads to, if it leads anywhere. -/
def node? (t : FileTree) (p : Path) : Option FileNode :=
  match t.find p with
  | .ok (_, node) => some node
  | .error _ => none

/-! ## Last steps -/

/-- The last step of a path, taken from a directory. -/
inductive LastStep where
  | name (name : String)
  | current
  | parent
  /-- There is no step: the path is that of the top. -/
  | top
deriving DecidableEq

/-- An entry of a directory, as a path names it. -/
structure Entry where
  directory : Place
  last : LastStep
  /-- Whether a slash follows, so that only a directory is meant. -/
  slash : Bool
deriving DecidableEq

/-- The last step with a segment. -/
def LastStep.ofSegment (segment : String) : LastStep :=
  if segment = "." then .current else if segment = ".." then .parent else .name segment

/-- Follows a path up to its last step. -/
def entry (t : FileTree) (p : Path) : Except FileError Entry := do
  let start ← t.start p
  let slash := p.segments.getLast? == some ""
  let steps := (p.segments.reverse.dropWhile (· == "")).reverse
  match steps.getLast? with
  | none => return { directory := [], last := .top, slash }
  | some last =>
    let directory ← t.walk start (steps.dropLast ++ [""])
    if FileLimits.allows t.limits.name last then
      return { directory, last := .ofSegment last, slash }
    else .error .nameTooLong

end FileTree

end Flowchart
