import Flowchart.Proofs.Declarations
import Flowchart.Proofs.Documentation
import Flowchart.Proofs.EntryPoints
import Flowchart.Proofs.Members
import Flowchart.Proofs.Planning
import Flowchart.Proofs.Reports

set_option autoImplicit false

/-! # The entry function of a pass

The entry function is checked before anything is emitted, and emitting its unit makes the same check
of the same item. So whatever a pass leaves out, it is never for the entry function, and the only
file with a method `main` is that of the entry function. -/

namespace Flowchart

/-! ## Classes with a method main -/

namespace Emitter

variable {e : Emitter} {unit : DeclarationUnit} {c : JavaClass} {main : JavaMethod}

/-- Nothing is declared to be an array. -/
theorem typeOf_ne_array {fullName : String} {element : JavaType} :
    e.typeOf fullName ≠ .ok (.array element) := by
  intro h
  obtain ⟨s, -, htype⟩ := typeOf_eq_ok_iff.1 h
  unfold SymbolTable.resolveTypeOf at htype
  split at htype
  · cases SymbolTable.resolveType_eq_ok_iff.1 htype
  · cases htype

/-- A method of a function is not the one that a program starts with, whatever its name is. -/
theorem IsMethodOf.not_isMain {function : Item} {fullName : String} {isStatic : Bool}
    {signature : Signature} {body : Body} {m : JavaMethod}
    (h : e.IsMethodOf function fullName isStatic signature body m) : ¬ m.IsMain := by
  intro hmain
  have hparameters := h.signature_isOf.parameters_forall₂
  rw [← h.parameters_eq, hmain.parameters_eq] at hparameters
  obtain ⟨child, -, htype, -⟩ :=
    exists_left_of_forall₂ hparameters (List.mem_singleton_self _)
  exact typeOf_ne_array htype

theorem mem_entryMethods_iff {entry : List JavaMethod} (h : e.entryMethods unit = .ok entry) :
    main ∈ entry ↔ e.options.entryFunction = some unit.fullName
      ∧ EntryPoint.mainMethod unit.item unit.fullName e.options.parameters = .ok main := by
  rw [entryMethods] at h
  split at h
  · next hname =>
      obtain ⟨m, hm, h⟩ := bind_eq_ok.1 h
      cases pure_eq_ok.1 h
      rw [List.mem_singleton, hm, Except.ok.injEq, eq_comm]
      exact (and_iff_right hname).symm
  · next hname =>
      cases h
      simp [hname]

/-- The method that a program starts with is in the class of the entry function alone. -/
theorem IsClassOf.mem_main_iff {fields : List JavaField} {results : List (JavaMethod × Bool)}
    {entry : List JavaMethod} (h : e.IsClassOf unit fields results entry c) :
    main ∈ c.methods ∧ main.IsMain
      ↔ unit.item.kind = .function ∧ e.options.entryFunction = some unit.fullName
        ∧ EntryPoint.mainMethod unit.item unit.fullName e.options.parameters = .ok main := by
  rw [h.methods_eq, List.mem_append]
  constructor
  · rintro ⟨hmem | hmem, hmain⟩
    · obtain ⟨result, hresult, rfl⟩ := List.mem_map.1 hmem
      obtain ⟨member, -, hmethod⟩ := exists_left_of_forall₂ h.results_forall₂ hresult
      obtain ⟨signature, body, hof, -⟩ := method_eq_ok hmethod
      exact absurd hmain hof.not_isMain
    · by_cases hkind : unit.item.kind = .function
      · exact ⟨hkind, (mem_entryMethods_iff (h.entry_eq hkind)).1 hmem⟩
      · rw [h.no_entry hkind] at hmem
        cases hmem
  · rintro ⟨hkind, hentry⟩
    exact ⟨Or.inr ((mem_entryMethods_iff (h.entry_eq hkind)).2 hentry),
      (EntryPoint.mainMethod_eq_ok hentry.2).1⟩

end Emitter

/-! ## Files with a method main -/

/-- A file is the source file of a unit whose class has a method that a program can start with. -/
def GeneratedFile.HasMain (file : GeneratedFile) (root : Item) (e : Emitter) (main : JavaMethod) :
    Prop :=
  ∃ s ∈ root.units, ∃ c, e.publicClass s.unit = .ok c ∧ file = s.unit.file c
    ∧ main ∈ c.methods ∧ main.IsMain

/-- A file is that of the entry function, and the method calls it. -/
def GeneratedFile.IsEntry (file : GeneratedFile) (root : Item) (e : Emitter) (main : JavaMethod) :
    Prop :=
  ∃ s ∈ root.units, s.item.kind = .function ∧ e.options.entryFunction = some s.fullName
    ∧ e.emit s.unit = .ok file
    ∧ EntryPoint.mainMethod s.item s.fullName e.options.parameters = .ok main

theorem GeneratedFile.hasMain_iff {file : GeneratedFile} {root : Item} {e : Emitter}
    {main : JavaMethod} : file.HasMain root e main ↔ file.IsEntry root e main := by
  constructor
  · rintro ⟨s, hs, c, hclass, rfl, hmem, hmain⟩
    obtain ⟨fields, results, entry, hof⟩ := Emitter.publicClass_eq_ok hclass
    obtain ⟨hkind, hname, hentry⟩ := hof.mem_main_iff.1 ⟨hmem, hmain⟩
    exact ⟨s, hs, hkind, hname, Emitter.emit_eq_ok_iff.2 ⟨c, hclass, rfl⟩, hentry⟩
  · rintro ⟨s, hs, hkind, hname, hemit, hentry⟩
    obtain ⟨c, hclass, rfl⟩ := Emitter.emit_eq_ok_iff.1 hemit
    obtain ⟨fields, results, entry, hof⟩ := Emitter.publicClass_eq_ok hclass
    obtain ⟨hmem, hmain⟩ := hof.mem_main_iff.2 ⟨hkind, hname, hentry⟩
    exact ⟨s, hs, c, hclass, rfl, hmem, hmain⟩

/-! ## The check before the units -/

section

variable {root : Item} {options : Options} {t : SymbolTable} {p : GeneratedProject}

/-- Whatever its policy is, a pass that succeeds has accepted the entry function and accounts for
    all units. -/
theorem exists_accounts (h : compile root options = .ok p) :
    ∃ t, SymbolTable.build root = .ok t ∧ t.checkEntry options = .ok ()
      ∧ p.Accounts root ⟨t, options⟩ := by
  obtain ⟨⟨layout, results⟩, hplanned, rfl, -⟩ := compile_eq_ok_iff.1 h
  simp only [plannedUnits, bind_eq_ok] at hplanned
  obtain ⟨t, ht, ⟨⟩, hentry, l, hlayout, hresult⟩ := hplanned
  cases pure_eq_ok.1 hresult
  exact ⟨t, ht, hentry, generated_accounts ht hlayout rfl⟩

/-- What has been accepted for the whole pass is accepted again for its unit. -/
theorem exists_entryMethods (ht : t.Lists root) (hentry : t.checkEntry options = .ok ())
    {s : Symbol} (hs : s ∈ t.symbols) :
    ∃ entry, Emitter.entryMethods ⟨t, options⟩ s.unit = .ok entry := by
  rw [Emitter.entryMethods]
  split
  · next hname =>
      obtain ⟨found, main, hfind, -, -, hmain⟩ := t.exists_entry hentry hname
      obtain ⟨hfound, hfull⟩ := ht.find?_eq_some_iff.1 hfind
      -- a full name stands for one item, so the check is the same one
      obtain rfl := ht.symbol_unique hfound hs hfull
      exact ⟨[main], bind_eq_ok.2 ⟨main, hmain, rfl⟩⟩
  · exact ⟨[], rfl⟩

theorem emit_not_entry (ht : t.Lists root) (hentry : t.checkEntry options = .ok ()) {s : Symbol}
    (hs : s ∈ t.symbols) :
    FailsWith (fun error => ¬ error.rootCause.IsEntryFault)
      (Emitter.emit ⟨t, options⟩ s.unit) := by
  refine Emitter.emit_fails_of _ (fun _ he => he.not_entry_rootCause) s.unit ?_ fun _ => ?_
  · exact fun name _ => FlowGraph.functionBody_not_entry ht name
  · obtain ⟨entry, hmethods⟩ := exists_entryMethods ht hentry hs
    rw [hmethods]
    exact .ok

theorem mem_symbols_of_units (ht : t.Lists root) {s : Symbol} (hs : s ∈ root.units) :
    s ∈ t.symbols :=
  ht.mem_of_exposes (Item.mem_exposed_iff.1 (List.mem_filter.1 hs).1)

/-- Nothing is left out of a pass because of the entry function. -/
theorem skipped_not_entry (ht : t.Lists root) (hentry : t.checkEntry options = .ok ())
    (h : p.Accounts root ⟨t, options⟩) {error : CompileError} (herror : error ∈ p.skipped) :
    ¬ error.rootCause.IsEntryFault := by
  rw [h.skipped_eq] at herror
  obtain ⟨s, hs, hfailed⟩ := List.mem_filterMap.1 herror
  obtain ⟨cause, hcause, rfl⟩ := Option.map_eq_some_iff.1 hfailed
  exact emit_not_entry ht hentry (mem_symbols_of_units ht hs) cause
    (failure?_eq_some_iff.1 hcause)

/-- There is one entry function, so at most one file is that of the entry function. -/
theorem GeneratedFile.IsEntry.unique {e : Emitter} {file other : GeneratedFile}
    {main main' : JavaMethod} (ht : t.Lists root) (h : file.IsEntry root e main)
    (h' : other.IsEntry root e main') : file = other ∧ main = main' := by
  obtain ⟨s, hs, -, hname, hemit, hmain⟩ := h
  obtain ⟨s', hs', -, hname', hemit', hmain'⟩ := h'
  have hsame : s.fullName = s'.fullName := Option.some_inj.1 (hname.symm.trans hname')
  obtain rfl := ht.symbol_unique (mem_symbols_of_units ht hs) (mem_symbols_of_units ht hs') hsame
  rw [hemit, Except.ok.injEq] at hemit'
  rw [hmain, Except.ok.injEq] at hmain'
  exact ⟨hemit', hmain'⟩

end

/-- An entry function gets its method `main` exactly if the supplied names are those of its
    parameters and each value fits, and the method calls it with these values. A pass that succeeds
    leaves nothing out because of the entry function, and the only file with a method `main` is that
    of the entry function. -/
theorem compile_entry :
    (∀ (function : Item) (fullName : String) (supplied : Bindings),
      (function.parameters.map (·.name)).Nodup →
        EntryPoint.IsExact function fullName supplied)
    ∧ ∀ (root : Item) (options : Options) (p : GeneratedProject),
      compile root options = .ok p →
        (∀ error ∈ p.skipped, ¬ error.rootCause.IsEntryFault)
        ∧ ∃ t, SymbolTable.build root = .ok t
          ∧ (∀ file ∈ p.files, ∀ main, file.HasMain root ⟨t, options⟩ main
            ↔ file.IsEntry root ⟨t, options⟩ main)
          ∧ ∀ file ∈ p.files, ∀ other ∈ p.files, ∀ main main',
            file.HasMain root ⟨t, options⟩ main → other.HasMain root ⟨t, options⟩ main' →
              file = other ∧ main = main' := by
  refine ⟨fun function fullName supplied hnames => EntryPoint.isExact fullName supplied hnames, ?_⟩
  intro root options p h
  obtain ⟨t, ht, hentry, haccounts⟩ := exists_accounts h
  have hlists := SymbolTable.build_eq_ok_iff.1 ht
  refine ⟨fun error herror => skipped_not_entry hlists hentry haccounts herror, t, ht,
    fun file _ main => GeneratedFile.hasMain_iff, ?_⟩
  intro file _ other _ main main' hmain hmain'
  exact (GeneratedFile.hasMain_iff.1 hmain).unique hlists (GeneratedFile.hasMain_iff.1 hmain')

/-! ## An entry function beside a broken one -/

/-- A function with two parameters that are not in the order of their names. -/
def greeterGreet : Item where
  name := "greet"
  kind := .function
  returnType := some "VOID"
  children := [
    { name := "name", kind := .parameter, typeName := some "TEXT" },
    { name := "times", kind := .«variable», typeName := some "NUMBER" },
    { name := "loud", kind := .parameter, typeName := some "BOOLEAN" }]
  blocks := [
    { id := .ofNat 1, kind := .start, content := none
      connections := { bottom := some [⟨.ofNat 2, .top⟩] } },
    { id := .ofNat 2, kind := .stop, content := none, connections := {} }]

/-- A function without blocks. -/
def greeterBroken : Item := { name := "broken", kind := .function, returnType := some "VOID" }

/-- A project with both functions. -/
def greeter : Item where
  name := "Demo"
  kind := .project
  id := some (.ofNat 7)
  children := [greeterGreet, greeterBroken]

/-- A pass that calls the function and leaves broken declarations out. -/
def greeterOptions : Options where
  entryFunction := some "Demo.greet"
  parameters := ⟨[("loud", " true "), ("name", "Ada")], by decide⟩
  failurePolicy := .skipDeclaration

/-- The table of the project. -/
def greeterTable : SymbolTable where
  symbols := greeter.symbols "" none
  blocks := (greeter.symbols "" none).flatMap Symbol.ownedBlocks

theorem greeter_build : SymbolTable.build greeter = .ok greeterTable := rfl

open EntryPoint (Fits Gets mainMethod)

theorem greeter_values :
    List.Forall₂ (Gets greeterOptions.parameters) greeterGreet.parameters
      [.text "Ada", .boolean true] := by
  refine .cons ⟨"Ada", rfl, .text rfl⟩ (.cons ⟨" true ", rfl, .yes rfl ?_⟩ .nil)
  decide +kernel

theorem greeter_sameNames : EntryPoint.SameNames greeterGreet greeterOptions.parameters := by
  intro name
  have hparameters : (∃ parameter ∈ greeterGreet.parameters, parameter.name = name)
      ↔ name ∈ greeterGreet.parameters.map (·.name) := by rw [List.mem_map]
  rw [hparameters]
  show name ∈ ["loud", "name"] ↔ name ∈ ["name", "loud"]
  simp [or_comm]

theorem greeter_main :
    ∃ main, mainMethod greeterGreet "Demo.greet" greeterOptions.parameters = .ok main := by
  have hnames : (greeterGreet.parameters.map (·.name)).Nodup := by decide
  have hexact := EntryPoint.isExact "Demo.greet" greeterOptions.parameters hnames
  refine hexact.isOk_iff.2 ⟨greeter_sameNames, fun parameter hparameter => ?_⟩
  exact (exists_right_of_forall₂ greeter_values hparameter).imp fun _ he => he.2

theorem greeter_checkEntry : greeterTable.checkEntry greeterOptions = .ok () := by
  obtain ⟨main, hmain⟩ := greeter_main
  have hcheck : greeterTable.checkEntry greeterOptions
      = mainMethod greeterGreet "Demo.greet" greeterOptions.parameters >>= fun _ => pure () := rfl
  rw [hcheck, hmain]
  rfl

theorem greeter_compiles : ∃ p, compile greeter greeterOptions = .ok p := by
  have hlays : ∃ l, Layout.ofProject greeter true = .ok l := exists_eq_ok (by decide +kernel)
  obtain ⟨l, hl⟩ := hlays
  have hplanned : plannedUnits greeter greeterOptions
      = .ok (l, l.units.map (Emitter.emitUnit ⟨greeterTable, greeterOptions⟩)) := by
    rw [plannedUnits, greeter_build, ok_bind, greeter_checkEntry, ok_bind]
    show (Layout.ofProject greeter true >>= fun _ => _) = _
    rw [hl]
    rfl
  refine ⟨_, compile_eq_ok_iff.2 ⟨_, hplanned, rfl, fun habort => ?_⟩⟩
  cases habort

/-- The symbol of the function. -/
def greeterSymbol : Symbol := ⟨greeterGreet, "Demo.greet", some .project⟩

theorem greeter_emits :
    ∃ file, Emitter.emit ⟨greeterTable, greeterOptions⟩ greeterSymbol.unit = .ok file := by
  have hlists := SymbolTable.build_eq_ok_iff.1 greeter_build
  have hmethod : ∃ result, Emitter.method ⟨greeterTable, greeterOptions⟩ greeterGreet "Demo.greet"
      true = .ok result := exists_eq_ok (by decide +kernel)
  obtain ⟨result, hresult⟩ := hmethod
  have hmem : greeterSymbol ∈ greeterTable.symbols := List.mem_cons_of_mem _ List.mem_cons_self
  obtain ⟨entry, hentry⟩ := exists_entryMethods hlists greeter_checkEntry hmem
  have hclass : ∃ c, Emitter.publicClass ⟨greeterTable, greeterOptions⟩ greeterSymbol.unit
      = .ok c := ⟨_, bind_eq_ok.2 ⟨result, hresult, bind_eq_ok.2 ⟨entry, hentry, rfl⟩⟩⟩
  obtain ⟨c, hc⟩ := hclass
  exact ⟨_, Emitter.emit_eq_ok_iff.2 ⟨c, hc, rfl⟩⟩

/-- The symbol of the broken function. -/
def greeterBrokenSymbol : Symbol := ⟨greeterBroken, "Demo.broken", some .project⟩

theorem greeter_fails : Emitter.emit ⟨greeterTable, greeterOptions⟩ greeterBrokenSymbol.unit
    = .error (.missingStartBlock "Demo.broken") := rfl

/-- The values are passed in the order of the parameters, and the broken function is left out, but
    for a reason of its own. -/
theorem greeter_entry :
    (∃ main, mainMethod greeterGreet "Demo.greet" greeterOptions.parameters = .ok main
      ∧ main.body = [.expression (.invoke "Demo.greet.greet" [.text "Ada", .boolean true])])
    ∧ ∃ p, compile greeter greeterOptions = .ok p
      ∧ (∃ error ∈ p.skipped, ¬ error.rootCause.IsEntryFault)
      ∧ ∃ file ∈ p.files, ∃ main,
        file.HasMain greeter ⟨greeterTable, greeterOptions⟩ main := by
  have hexact := compile_entry.1 greeterGreet "Demo.greet" greeterOptions.parameters (by decide)
  obtain ⟨main, hmain⟩ := greeter_main
  obtain ⟨-, es, hes, hbody⟩ := hexact.calls main hmain
  rw [List.right_unique_forall₂' Gets.unique hes greeter_values] at hbody
  refine ⟨⟨main, hmain, hbody⟩, ?_⟩
  obtain ⟨p, hp⟩ := greeter_compiles
  obtain ⟨hskipped, t, ht, hiff, -⟩ := compile_entry.2 greeter greeterOptions p hp
  rw [greeter_build, Except.ok.injEq] at ht
  subst ht
  obtain ⟨t, ht, -, haccounts⟩ := exists_accounts hp
  rw [greeter_build, Except.ok.injEq] at ht
  subst ht
  have hunits : greeterSymbol ∈ greeter.units := List.mem_cons_self
  obtain ⟨file, hfile⟩ := greeter_emits
  have hmem := ((haccounts.mem_sources_iff file).2 ⟨greeterSymbol, hunits, hfile⟩).1
  have hbroken : .declaration "Demo.broken" (.missingStartBlock "Demo.broken") ∈ p.skipped := by
    rw [haccounts.skipped_eq]
    refine List.mem_filterMap.2 ⟨greeterBrokenSymbol, ?_, by rw [greeter_fails]; rfl⟩
    exact List.mem_cons_of_mem _ List.mem_cons_self
  exact ⟨p, hp, ⟨_, hbroken, hskipped _ hbroken⟩, file, hmem, main, (hiff file hmem main).2
    ⟨greeterSymbol, hunits, rfl, rfl, hfile, hmain⟩⟩

end Flowchart
