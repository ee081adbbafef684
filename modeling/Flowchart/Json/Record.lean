import Flowchart.Json.Document

set_option autoImplicit false

/-! # Records in JSON documents

Reading documents as the data they stand for. A record may be written as an object, with unknown
members ignored and known ones at most once, or as the array of its fields in their fixed order,
with fields missing at its end only. Either way it becomes one slot per field. -/

namespace Flowchart.Document

/-- A string. -/
def text? : Document → Option String
  | .string s => some s
  | _ => none

/-- A truth value. -/
def truth? : Document → Option Bool
  | .bool b => some b
  | _ => none

/-- The elements of an array. -/
def elements? : Document → Option (List Document)
  | .array elements => some elements
  | _ => none

/-- The members of an object. -/
def members? : Document → Option (List (String × Document))
  | .object members => some members
  | _ => none

/-- A member of a closed vocabulary: its name, or an object whose only member is that name with
    the value null. -/
def choice? : Document → Option String
  | .string s => some s
  | .object [(name, .null)] => some name
  | _ => none

/-- Null, or what `read` makes of the document. -/
def nullable {α : Type} (read : Document → Option α) : Document → Option (Option α)
  | .null => some none
  | d => (read d).map some

/-! ## Slots -/

/-- Puts a member into the slot of the field that has its name; a slot is filled once. -/
def fillSlot (name : String) (d : Document) :
    List (List String) → List (Option Document) → Option (List (Option Document))
  | names :: fields, slot :: slots =>
    if name ∈ names then
      match slot with
      | none => some (some d :: slots)
      | some _ => none
    else (fillSlot name d fields slots).map (slot :: ·)
  | _, slots => some slots

/-- The slots of a record whose fields have the given names, several spellings for one field being
    listed together. -/
def slots? (fields : List (List String)) : Document → Option (List (Option Document))
  | .array elements =>
    if elements.length ≤ fields.length then
      some (elements.map some ++ List.replicate (fields.length - elements.length) none)
    else none
  | .object members =>
    members.foldlM (fun slots m => fillSlot m.1 m.2 fields slots)
      (List.replicate fields.length none)
  | _ => none

/-- The content of a slot that has to be filled. -/
def required {α : Type} (read : Document → Option α) (slot : Option Document) : Option α :=
  slot.bind read

/-- The content of a slot that may stay empty. -/
def optional {α : Type} (absent : α) (read : Document → Option α) (slot : Option Document) :
    Option α :=
  match slot with
  | none => some absent
  | some d => read d

end Flowchart.Document
