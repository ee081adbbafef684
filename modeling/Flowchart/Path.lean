import Flowchart.OrderedMap

set_option autoImplicit false

/-! # Paths

A path is a text with slashes. Two texts can stand for the same way through directories, so paths
are compared and ordered by their *components*: repeated slashes, a slash at the end and components
`.` after the first place do not count. Joining, taking the parent and renaming work on the text,
so that a path is shown the way it was given. -/

namespace Flowchart

/-- A path, as it is written. -/
structure Path where
  text : String
deriving DecidableEq

/-- One step of a path. -/
inductive PathComponent where
  | root
  | current
  | parent
  | normal (name : String)
deriving DecidableEq

namespace PathComponent

/-- The place of the kinds of components in their order. -/
def rank : PathComponent → Nat
  | .root => 0
  | .current => 1
  | .parent => 2
  | .normal _ => 3

/-- Strict order: special components first, then names by their characters. -/
def lt : PathComponent → PathComponent → Bool
  | .normal a, .normal b => textLt a b
  | a, b => decide (a.rank < b.rank)

end PathComponent

namespace Path

/-- Whether a path starts at the root. -/
def isAbsolute (p : Path) : Bool := p.text.toList.head? == some '/'

/-- What stands between the slashes of a path. -/
def segments (p : Path) : List String := (p.text.toList.splitOn '/').map String.ofList

/-- How a path begins, and the segments between the slashes after that. -/
def split (p : Path) : String × List String :=
  match p.text.toList.splitOn '/' with
  | [] => ("", [])
  | first :: rest =>
    let rest := rest.map String.ofList
    if first.isEmpty && !rest.isEmpty then ("/", rest)
    else if first = ['.'] then (".", rest)
    else ("", String.ofList first :: rest)

/-- The path with a beginning and segments. -/
def unsplit (lead : String) (segments : List String) : Path :=
  let body := String.intercalate "/" segments
  match lead with
  | "/" => ⟨"/" ++ body⟩
  | "." => ⟨if segments.isEmpty then "." else "./" ++ body⟩
  | _ => ⟨body⟩

/-- A segment that adds no component. -/
def isIdle (segment : String) : Bool := segment == "" || segment == "."

/-- The component of a segment. -/
def segmentComponent (segment : String) : PathComponent :=
  if segment = ".." then .parent else .normal segment

/-- The steps of a path. -/
def components (p : Path) : List PathComponent :=
  let (lead, segments) := p.split
  let body := (segments.filter (!isIdle ·)).map segmentComponent
  match lead with
  | "/" => .root :: body
  | "." => .current :: body
  | _ => body

/-- Whether two paths are the same way. -/
def same (a b : Path) : Bool := a.components == b.components

/-- Lexicographic order of lists of components. -/
def componentsLe : List PathComponent → List PathComponent → Bool
  | [], _ => true
  | _ :: _, [] => false
  | a :: as, b :: bs => PathComponent.lt a b || (a == b && componentsLe as bs)

/-- The order in which paths are listed. -/
def le (a b : Path) : Bool := componentsLe a.components b.components

/-! ## Building paths -/

/-- A path below another one; an absolute path takes its place. -/
def join (base p : Path) : Path :=
  if p.isAbsolute then p
  else if base.text = "" || base.text.toList.getLast? == some '/' then ⟨base.text ++ p.text⟩
  else ⟨base.text ++ "/" ++ p.text⟩

/-- A path below another one, given as text. -/
def child (base : Path) (name : String) : Path := base.join ⟨name⟩

/-- The path that goes through the given names in turn. -/
def ofSegments (names : List String) : Path := names.foldl child ⟨""⟩

/-- Segments without the idle ones at the end. -/
def trimIdle (segments : List String) : List String :=
  (segments.reverse.dropWhile isIdle).reverse

/-- The path without its last component; the root and the empty path have no parent. -/
def parent? (p : Path) : Option Path :=
  let (lead, segments) := p.split
  let body := trimIdle segments
  if body.isEmpty then (if lead = "." then some ⟨""⟩ else none)
  else some (unsplit lead (trimIdle body.dropLast))

/-- A path and the paths above it, from the inside to the outside, as far as there is fuel. -/
def ancestorsWithin : Nat → Path → List Path
  | 0, p => [p]
  | fuel + 1, p =>
    match p.parent? with
    | some outer => p :: ancestorsWithin fuel outer
    | none => [p]

/-- A path and the paths above it, from the inside to the outside. Each is shorter than the one
    before it, since it has one component less. -/
def ancestors (p : Path) : List Path := ancestorsWithin p.text.length p

/-- The last component, if it is a name. -/
def fileName? (p : Path) : Option String :=
  match (trimIdle p.split.2).getLast? with
  | some name => if name = ".." then none else some name
  | none => none

/-- The path with its last component replaced, if that is a name; otherwise the name is added. -/
def withFileName (p : Path) (name : String) : Path :=
  match p.fileName?, p.parent? with
  | some _, some parent => parent.child name
  | _, _ => p.child name

/-- A file name without what follows its last point; a point at the beginning does not count. -/
def stem (name : String) : String :=
  let before := (name.toList.reverse.dropWhile (· ≠ '.')).drop 1
  if before.isEmpty then name else String.ofList before.reverse

/-- The path with the extension of its file name replaced or added. -/
def withExtension (p : Path) (extension : String) : Path :=
  match p.fileName? with
  | none => p
  | some name =>
    let (lead, segments) := p.split
    let body := trimIdle segments
    ⟨(unsplit lead (body.dropLast ++ [stem name])).text ++ "." ++ extension⟩

/-- The path as it is shown from the directory it starts in: idle segments at both ends are
    dropped, those in between stay. -/
def relative (p : Path) : String :=
  let (lead, segments) := p.split
  if lead = "/" then p.text
  else String.intercalate "/" (trimIdle (segments.dropWhile isIdle))

end Path

end Flowchart
