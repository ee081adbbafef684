import Flowchart.Json.Token

set_option autoImplicit false

/-! # JSON documents

The tree of a JSON text with its members in the order of the text, built from the tokens with a
list of the containers that are still open. A value that is grammatical but cannot be used is
`unreadable`: a container nested too deeply, a number out of range, a string that is no text.
`Document.value?` is the value a document denotes if every part of it is readable. -/

namespace Flowchart

/-- The tree of a JSON text. -/
inductive Document where
  | null
  | bool (b : Bool)
  | number (n : JsonNumber)
  | string (s : String)
  | array (elements : List Document)
  | object (members : List (String × Document))
  | unreadable

namespace Document

/-- How deeply arrays and objects may be nested in what is used of a document. -/
def nestingLimit : Nat := 127

/-! ## Building the tree -/

/-- A container part way through, with its contents in reverse; an object also holds the name whose
    value is awaited. -/
inductive Frame where
  | array (reversed : List Document)
  | object (reversed : List (Option String × Document)) (name : Option String)

/-- What may come next. -/
inductive Expectation where
  | value
  | firstElement
  | firstName
  | name
  | colon
  | separator

/-- The open containers, innermost first, what may come next, and the finished document. -/
structure Builder where
  frames : List Frame := []
  expected : Expectation := .value
  finished : Option Document := none

namespace Builder

/-- Hands a finished value to the container around it. -/
def complete (v : Document) : List Frame → Option Builder
  | [] => some { frames := [], expected := .separator, finished := some v }
  | .array reversed :: outer =>
    some { frames := .array (v :: reversed) :: outer, expected := .separator }
  | .object reversed name :: outer =>
    some { frames := .object ((name, v) :: reversed) none :: outer, expected := .separator }

/-- The object with the given members, unreadable if one of their names is. -/
def closeObject (reversed : List (Option String × Document)) : Document :=
  match reversed.reverse.mapM (fun m => m.1.map (·, m.2)) with
  | some members => .object members
  | none => .unreadable

/-- Closes the innermost container, which must be of the right kind. -/
def close (isArray : Bool) : List Frame → Option Builder
  | frame :: outer =>
    let shallow := outer.length < nestingLimit
    match frame, isArray with
    | .array reversed, true =>
      complete (if shallow then .array reversed.reverse else .unreadable) outer
    | .object reversed _, false =>
      complete (if shallow then closeObject reversed else .unreadable) outer
    | _, _ => none
  | [] => none

/-- Where a value may stand: a scalar, or the opening of a container. -/
def acceptValue (frames : List Frame) : JsonToken → Option Builder
  | .null => complete .null frames
  | .bool b => complete (.bool b) frames
  | .number content => complete (content.elim .unreadable .number) frames
  | .text content => complete (content.elim .unreadable .string) frames
  | .openArray => some { frames := .array [] :: frames, expected := .firstElement }
  | .openObject => some { frames := .object [] none :: frames, expected := .firstName }
  | _ => none

/-- Where a name may stand: a string, which the innermost object keeps until the value comes. -/
def acceptName : List Frame → JsonToken → Option Builder
  | .object reversed _ :: outer, .text content =>
    some { frames := .object reversed content :: outer, expected := .colon }
  | _, _ => none

/-- After a value inside a container: a comma or the closing bracket. -/
def acceptSeparator (frames : List Frame) : JsonToken → Option Builder
  | .comma =>
    match frames with
    | .array _ :: _ => some { frames, expected := .value }
    | .object _ _ :: _ => some { frames, expected := .name }
    | [] => none
  | .closeArray => close true frames
  | .closeObject => close false frames
  | _ => none

/-- Takes the next token. -/
def feed (b : Builder) (token : JsonToken) : Option Builder :=
  match b.expected, token with
  | .firstElement, .closeArray => close true b.frames
  | .firstName, .closeObject => close false b.frames
  | .value, token => acceptValue b.frames token
  | .firstElement, token => acceptValue b.frames token
  | .firstName, token => acceptName b.frames token
  | .name, token => acceptName b.frames token
  | .colon, .colon => some { b with expected := .value }
  | .colon, _ => none
  | .separator, token => acceptSeparator b.frames token

end Builder

/-- Reads a text that holds one value and nothing else. -/
def read? (s : String) : Option Document := do
  let tokens ← JsonToken.tokenize s
  let b ← tokens.foldlM Builder.feed {}
  b.finished

/-! ## Values -/

mutual

/-- The value of a document all of whose parts are readable. -/
def value? : Document → Option Json
  | .null => some .null
  | .bool b => some (.bool b)
  | .number n => some (.number n)
  | .string s => some (.string s)
  | .array elements => (elementValues? elements).map .array
  | .object members => (memberValues? members).map Json.ofMembers
  | .unreadable => none

/-- The values of the elements of an array. -/
def elementValues? : List Document → Option (List Json)
  | [] => some []
  | d :: rest => do return (← d.value?) :: (← elementValues? rest)

/-- The values of the members of an object. -/
def memberValues? : List (String × Document) → Option (List (String × Json))
  | [] => some []
  | (name, d) :: rest => do return (name, ← d.value?) :: (← memberValues? rest)

end

end Document

end Flowchart
