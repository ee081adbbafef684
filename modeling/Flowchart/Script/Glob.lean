import Flowchart.Workspace.FileOperations
import Flowchart.Text.Utf8

set_option autoImplicit false

/-! # Patterns

The patterns of shell scripts: an asterisk stands for any text, a question mark for one character,
and brackets for one character out of some. Characters that are quoted stand for themselves.
Patterns select cases, trim values and find files. -/

namespace Flowchart

/-- A character with whether it is quoted. -/
abbrev MarkedChar := Char × Bool

namespace Glob

/-- A set of characters in brackets. -/
inductive CharSet where
  | range (first last : Char)
  | kind (name : String)
deriving DecidableEq

/-- A piece of a pattern. -/
inductive Item where
  | exactly (c : Char)
  | any
  | many
  | oneOf (inside : Bool) (sets : List CharSet)
deriving DecidableEq

namespace CharSet

/-- Whether a character is of a kind with a name; only ASCII characters are. -/
def isOfKind (name : String) (c : Char) : Bool :=
  match name with
  | "alpha" => c.isAlpha
  | "digit" => c.isDigit
  | "alnum" => c.isAlphanum
  | "upper" => c.isUpper
  | "lower" => c.isLower
  | "space" => c == ' ' || ('\t' ≤ c && c ≤ '\r')
  | "blank" => c == ' ' || c == '\t'
  | "punct" => '!' ≤ c && c ≤ '~' && !c.isAlphanum
  | "print" => ' ' ≤ c && c ≤ '~'
  | "graph" => '!' ≤ c && c ≤ '~'
  | "cntrl" => c < ' ' || c == '\x7f'
  | "xdigit" => c.isDigit || ('a' ≤ c && c ≤ 'f') || ('A' ≤ c && c ≤ 'F')
  | _ => false

/-- Whether a character is in a set. -/
def contains (set : CharSet) (c : Char) : Bool :=
  match set with
  | .range first last => first ≤ c && c ≤ last
  | .kind name => isOfKind name c

end CharSet

/-! ## Reading -/

/-- Reads the name of a kind of characters between colons, after the bracket. -/
def readKind? (cs : List MarkedChar) : Option (String × List MarkedChar) :=
  match cs with
  | (':', _) :: rest =>
    let name := rest.takeWhile (fun c => c.1.isAlpha)
    match rest.drop name.length with
    | (':', _) :: (']', _) :: rest => some (String.ofList (name.map (·.1)), rest)
    | _ => none
  | _ => none

/-- Reads sets of characters up to the closing bracket, which cannot come first. -/
def readSets : Nat → Bool → List MarkedChar → Option (List CharSet × List MarkedChar)
  | 0, _, _ => none
  | _ + 1, _, [] => none
  | fuel + 1, isFirst, (c, quoted) :: rest =>
    let add (set : CharSet) (rest : List MarkedChar) :=
      (readSets fuel false rest).map fun (sets, rest) => (set :: sets, rest)
    if c = ']' && !quoted && !isFirst then some ([], rest)
    else
      match (if c = '[' && !quoted then readKind? rest else none) with
      | some (name, rest) => add (.kind name) rest
      | none =>
        match rest with
        | ('-', false) :: (']', false) :: _ => add (.range c c) rest
        | ('-', false) :: (last, _) :: rest => add (.range c last) rest
        | _ => add (.range c c) rest

/-- Reads brackets after the opening one. -/
def readBrackets? (cs : List MarkedChar) : Option (Item × List MarkedChar) :=
  let (inside, rest) := match cs with
    | ('!', false) :: rest => (false, rest)
    | cs => (true, cs)
  (readSets (rest.length + 1) true rest).map fun (sets, rest) => (.oneOf inside sets, rest)

/-- Reads a pattern, as far as there is fuel. -/
def readWithin : Nat → List MarkedChar → List Item
  | 0, _ => []
  | _ + 1, [] => []
  | fuel + 1, (c, quoted) :: rest =>
    if quoted then .exactly c :: readWithin fuel rest
    else
      match c with
      | '*' => .many :: readWithin fuel rest
      | '?' => .any :: readWithin fuel rest
      | '[' =>
        match readBrackets? rest with
        | some (item, rest) => item :: readWithin fuel rest
        | none => .exactly '[' :: readWithin fuel rest
      | '\\' =>
        match rest with
        | (c, _) :: rest => .exactly c :: readWithin fuel rest
        | [] => [.exactly '\\']
      | c => .exactly c :: readWithin fuel rest

/-- Reads a pattern. -/
def read (cs : List MarkedChar) : List Item := readWithin cs.length cs

/-- Whether a text holds a character that makes it more than itself. -/
def isPattern (cs : List MarkedChar) : Bool :=
  cs.any fun (c, quoted) => !quoted && (c == '*' || c == '?' || c == '[')

/-! ## Matching -/

/-- Whether a whole text matches a pattern. -/
def isMatch : List Item → List Char → Bool
  | [], cs => cs.isEmpty
  | .exactly c :: rest, d :: cs => c == d && isMatch rest cs
  | .any :: rest, _ :: cs => isMatch rest cs
  | .oneOf inside sets :: rest, c :: cs => sets.any (·.contains c) == inside && isMatch rest cs
  | .many :: rest, cs => (List.range (cs.length + 1)).any fun n => isMatch rest (cs.drop n)
  | _ :: _, [] => false

/-! ## Files -/

/-- The names in a directory that a pattern finds. A name that begins with a point is found only by
    a pattern that does. -/
def namesIn (t : FileTree) (directory : List Char) (pattern : List Item) : List (List Char) :=
  let path : Path := ⟨if directory.isEmpty then "." else Text.Utf8.gather directory⟩
  match t.find path with
  | .ok (place, .directory) =>
    let names := ["."].append (".." :: t.names place)
    (names.map Text.Utf8.spread).filter fun name =>
      isMatch pattern name && (name.head? != some '.' || pattern.head? == some (.exactly '.'))
  | _ => []

/-- The segments of a pattern, each with the slashes in front of it. -/
def segments : Nat → List MarkedChar → List (List Char × List MarkedChar)
  | 0, _ => []
  | _ + 1, [] => []
  | fuel + 1, cs =>
    let slashes := cs.takeWhile (fun c => c.1 == '/')
    let rest := cs.drop slashes.length
    let segment := rest.takeWhile (fun c => c.1 != '/')
    (slashes.map (·.1), segment) :: segments fuel (rest.drop segment.length)

/-- The paths that segments of a pattern find below some paths. -/
def findBelow (t : FileTree) (found : List (List Char)) :
    List (List Char × List MarkedChar) → List (List Char)
  | [] => found
  | (slashes, segment) :: rest =>
    let next := found.flatMap fun path =>
      let path := path ++ slashes
      if isPattern segment then (namesIn t path (read segment)).map (path ++ ·)
      else [path ++ segment.map (·.1)]
    findBelow t next rest

/-- The paths that a pattern finds, in order. -/
def paths (t : FileTree) (cs : List MarkedChar) : List (List Char) :=
  let found := (findBelow t [[]] (segments (cs.length + 1) cs)).filter fun path =>
    (t.node? ⟨Text.Utf8.gather path⟩).isSome
  found.mergeSort fun a b => !decide (b < a)

end Glob

end Flowchart
