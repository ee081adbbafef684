import Flowchart.Json.Record

set_option autoImplicit false

/-! # Options of a compile pass

What can be chosen for one pass, and the JSON text in which the choices can be given. -/

namespace Flowchart

/-- What to do with a declaration that cannot be compiled. -/
inductive FailurePolicy where
  /-- The first failure ends the pass. -/
  | abort
  /-- Failing declarations are left out and reported. -/
  | skipDeclaration
deriving DecidableEq

namespace FailurePolicy

/-- The written name. -/
def name : FailurePolicy → String
  | .abort => "abort"
  | .skipDeclaration => "skip_declaration"

/-- The policy with a written name. -/
def ofName? (s : String) : Option FailurePolicy :=
  [abort, skipDeclaration].find? (·.name == s)

end FailurePolicy

/-- The choices for one pass. -/
structure Options where
  /-- The full name of the function that `main` calls. -/
  entryFunction : Option String := none
  /-- The values passed to the entry function, by parameter name. -/
  parameters : Bindings := OrderedMap.empty
  includeComments : Bool := true
  failurePolicy : FailurePolicy := .abort
  /-- Whether declarations may be compiled at the same time; the result does not depend on it. -/
  parallel : Bool := false

namespace Options

open Document (optional nullable)

/-- The fields of the options. -/
def fields : List (List String) :=
  [["entry_function"], ["parameters"], ["include_comments"], ["failure_policy"], ["parallel"]]

/-- Texts bound to names. -/
def readBindings? (d : Document) : Option Bindings := do
  let members ← d.members?
  members.foldlM (fun found m => do return found.insert m.1 (← m.2.text?)) OrderedMap.empty

/-- Reads the options from JSON text; absent fields keep their defaults. -/
def read? (text : String) : Option Options := do
  match ← (← Document.read? text).slots? fields with
  | [entryFunction, parameters, includeComments, failurePolicy, parallel] =>
    return {
      entryFunction := ← optional none (nullable Document.text?) entryFunction
      parameters := ← optional OrderedMap.empty readBindings? parameters
      includeComments := ← optional true Document.truth? includeComments
      failurePolicy := ←
        optional .abort (·.choice?.bind FailurePolicy.ofName?) failurePolicy
      parallel := ← optional false Document.truth? parallel }
  | _ => none

end Options

end Flowchart
