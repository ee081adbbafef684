import Flowchart.Generation.Emission

set_option autoImplicit false

/-! # Compiling a project

One pass over a project: the symbol table, the check of the entry function, the layout, then every
unit. Under the policy `abort` the first unit that fails ends the pass; otherwise failing units are
left out and their errors kept. The bad choice of an entry function is never skipped. -/

namespace Flowchart

/-- The result of a pass. -/
structure GeneratedProject where
  name : String
  directories : List Path
  files : List GeneratedFile
  /-- The errors of the units that were left out. -/
  skipped : List CompileError

namespace GeneratedProject

/-- The file with a path. -/
def file? (p : GeneratedProject) (path : Path) : Option GeneratedFile :=
  p.files.find? (·.path.same path)

/-- The source file of the declaration with a full name. -/
def declaration? (p : GeneratedProject) (fullName : String) : Option GeneratedFile :=
  p.file? ((Path.ofSegments (FullName.segments fullName)).withExtension "java")

end GeneratedProject

/-! ## Parts of a pass -/

/-- Checks that the entry function, if there is one, is a function outside of classes that takes
    exactly the supplied values. -/
def SymbolTable.checkEntry (t : SymbolTable) (options : Options) : Except CompileError Unit :=
  match options.entryFunction with
  | none => .ok ()
  | some name =>
    match t.find? name with
    | none => .error (.entryFunctionNotFound name)
    | some s =>
      if s.item.kind ≠ .function then .error (.entryFunctionNotFound name)
      else if !s.isStatic then .error (.invalidItem name .entryOutsidePackage)
      else do
        let _ ← EntryPoint.mainMethod s.item name options.parameters
        return ()

/-- What a unit becomes; an error names the unit. -/
def Emitter.emitUnit (e : Emitter) (unit : DeclarationUnit) : Except CompileError GeneratedFile :=
  (e.emit unit).mapError (.declaration unit.fullName)

/-- The files of the units that could be emitted and the errors of the others, each in order, or
    the first error if the pass ends with it. -/
def collectUnits (policy : FailurePolicy) :
    List (Except CompileError GeneratedFile) →
      Except CompileError (List GeneratedFile × List CompileError)
  | [] => .ok ([], [])
  | .ok file :: rest => do
    let (files, skipped) ← collectUnits policy rest
    return (file :: files, skipped)
  | .error error :: rest =>
    match policy with
    | .abort => .error error
    | .skipDeclaration => do
      let (files, skipped) ← collectUnits policy rest
      return (files, error :: skipped)

/-- Files in the order of their paths; files with the same path keep their order. -/
def sortFiles (files : List GeneratedFile) : List GeneratedFile :=
  files.mergeSort (fun a b => a.path.le b.path)

/-- Drops paths that repeat the one before them. -/
def dropRepeated : List Path → List Path
  | [] => []
  | a :: rest =>
    match dropRepeated rest with
    | [] => [a]
    | b :: others => if a.same b then a :: others else a :: b :: others

/-- Directories in order, each once. -/
def sortDirectories (directories : List Path) : List Path :=
  dropRepeated (directories.mergeSort Path.le)

/-! ## The pass -/

/-- Compiles a project. -/
def compile (project : Item) (options : Options) : Except CompileError GeneratedProject := do
  let table ← SymbolTable.build project
  table.checkEntry options
  let layout ← Layout.ofProject project options.includeComments
  let emitter : Emitter := { table, options }
  let (files, skipped) ← collectUnits options.failurePolicy (layout.units.map emitter.emitUnit)
  return {
    name := project.name
    directories := sortDirectories layout.directories
    files := sortFiles (layout.files ++ files)
    skipped }

end Flowchart
