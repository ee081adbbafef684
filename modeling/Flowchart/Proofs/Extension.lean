import Flowchart.Generation.Compilation
import Flowchart.Proofs.Emission

set_option autoImplicit false

/-! # Projects that are extended

A project can be extended by more items, and what its other items do and say can change, as long as
nothing that a unit may refer to is lost or gets another type. Then the unit becomes the same file
as before: no graph, no comments and no position of another item, and no new item, gets into it. -/

namespace Flowchart

/-- The items of a tree occur in another one under the same names, in items of the same kinds, with
    the same kinds and types. Their blocks, comments and positions may be others, and there may be
    more items. -/
def Item.KeptIn (root other : Item) : Prop :=
  ∀ s ∈ root.symbols "" none, ∃ s' ∈ other.symbols "" none, s.SameInterface s'

/-- The item of a unit occurs in a tree by the full name of the unit, declared in an item of some
    kind. -/
def DeclarationUnit.OccursIn (unit : DeclarationUnit) (root : Item)
    (parentKind : Option ItemKind) : Prop :=
  unit.symbol parentKind ∈ root.symbols "" none

section

variable {root other : Item} {t t' : SymbolTable} {options : Options} {unit : DeclarationUnit}
  {parentKind : Option ItemKind}

/-- The table of a project knows what the project keeps of another one. -/
theorem Item.KeptIn.agrees (h : root.KeptIn other) (ht : t.Lists root) (ht' : t'.Lists other) :
    t.Agrees False t' where
  found hfound := by
    obtain ⟨hs, rfl⟩ := ht.find?_eq_some_iff.1 hfound
    rw [ht.symbols_eq] at hs
    obtain ⟨s', hs', hsame⟩ := h _ hs
    rw [← ht'.symbols_eq] at hs'
    exact ⟨s', ht'.find?_eq_some_iff.2 ⟨hs', hsame.fullName_eq⟩, hsame⟩
  missing hexact := hexact.elim

/-- A unit that can be emitted in a project becomes the same file in every project that keeps the
    unit and the interface of the first one. -/
theorem emit_of_keptIn (ht : SymbolTable.build root = .ok t)
    (ht' : SymbolTable.build other = .ok t') (hkept : root.KeptIn other)
    (hunit : unit.OccursIn root parentKind) (hunit' : unit.OccursIn other parentKind)
    {file : GeneratedFile} (hemit : Emitter.emit ⟨t, options⟩ unit = .ok file) :
    Emitter.emit ⟨t', options⟩ unit = .ok file := by
  have hlists := SymbolTable.build_eq_ok_iff.1 ht
  have hlists' := SymbolTable.build_eq_ok_iff.1 ht'
  have hmirrors : Emitter.Mirrors False id Eq ⟨t, options⟩ ⟨t', options⟩ := {
    injective := Function.injective_id
    agrees := hkept.agrees hlists hlists'
    lists := ⟨root, hlists⟩
    lists_right := ⟨other, hlists'⟩
    entryFunction_eq := rfl
    parameters_eq := rfl
    comments_eq := fun heq => by rw [heq] }
  have hcounterparts : Emitter.Counterparts False id Eq ⟨t, options⟩ ⟨t', options⟩
      (unit.symbol parentKind) (unit.symbol parentKind) := {
    mem := hlists.symbols_eq ▸ hunit
    mem_right := hlists'.symbols_eq ▸ hunit'
    corresponds := ⟨rfl, rfl, corresponds_refl (fun _ => rfl) unit.item⟩ }
  exact (hmirrors.follows_emit hcounterparts rfl rfl).eq_ok hemit

end

/-! ## A project that grows -/

/-- A function that calls another one. -/
def bakeryOpen : Item where
  name := "open"
  kind := .function
  comments := "Opens the bakery."
  returnType := some "VOID"
  blocks := [
    { id := .ofNat 1, kind := .start, content := none
      connections := { bottom := some [⟨.ofNat 2, .top⟩] } },
    { id := .ofNat 2, kind := .call, content := some ⟨some (.call [⟨"Demo.bake", []⟩]), none⟩
      connections := { bottom := some [⟨.ofNat 3, .top⟩] } },
    { id := .ofNat 3, kind := .stop, content := none, connections := {} }]

/-- A project with that function. The other function ends in a block that does not exist. -/
def bakery : Item where
  name := "Demo"
  kind := .project
  id := some (.ofNat 7)
  children := [bakeryOpen, {
    name := "bake"
    kind := .function
    returnType := some "VOID"
    blocks := [
      { id := .ofNat 4, kind := .start, content := none
        connections := { bottom := some [⟨.ofNat 5, .top⟩] } }] }]

/-- The project with a new variable, and with another graph and comments of the other function. -/
def grownBakery : Item where
  name := "Demo"
  kind := .project
  id := some (.ofNat 7)
  comments := "Everything for bread."
  children := [{ name := "loaves", kind := .«variable», typeName := some "NUMBER" }, {
      name := "bake"
      kind := .function
      comments := "Bakes bread."
      returnType := some "VOID"
      blocks := [
        { id := .ofNat 4, kind := .start, content := none
          connections := { bottom := some [⟨.ofNat 5, .top⟩] } },
        { id := .ofNat 5, kind := .stop, content := none, connections := {} }] },
    bakeryOpen]

/-- The unit of the function that calls another one. -/
def bakeryUnit : DeclarationUnit where
  item := bakeryOpen
  fullName := "Demo.open"
  package := "Demo"
  directory := ⟨"Demo"⟩

/-- The table of a project of the bakery. -/
def bakeryTable (root : Item) : SymbolTable where
  symbols := root.symbols "" none
  blocks := (root.symbols "" none).flatMap Symbol.ownedBlocks

/-- What the project has is at other places in the extended one: behind the new variable, and the
    other function first. -/
theorem bakery_keptIn : bakery.KeptIn grownBakery := by
  refine List.forall_mem_cons.2 ⟨⟨_, .head _, by constructor <;> rfl⟩, ?_⟩
  refine List.forall_mem_cons.2 ⟨⟨_, .tail _ (.tail _ (.tail _ (.head _))), ?_⟩, ?_⟩
  · constructor <;> rfl
  refine List.forall_mem_cons.2 ⟨⟨_, .tail _ (.tail _ (.head _)), ?_⟩, nofun⟩
  constructor <;> rfl

theorem bakery_emits :
    ∃ file, Emitter.emit ⟨bakeryTable bakery, {}⟩ bakeryUnit = .ok file
      ∧ Emitter.emit ⟨bakeryTable grownBakery, {}⟩ bakeryUnit = .ok file := by
  have hemits : ∃ file, Emitter.emit ⟨bakeryTable bakery, {}⟩ bakeryUnit = .ok file :=
    exists_eq_ok (by decide +kernel)
  obtain ⟨file, hfile⟩ := hemits
  have hbuild : SymbolTable.build bakery = .ok (bakeryTable bakery) := rfl
  have hbuild' : SymbolTable.build grownBakery = .ok (bakeryTable grownBakery) := rfl
  have hunit : bakeryUnit.OccursIn bakery (some .project) := .tail _ (.head _)
  have hunit' : bakeryUnit.OccursIn grownBakery (some .project) :=
    .tail _ (.tail _ (.tail _ (.head _)))
  exact ⟨file, hfile, emit_of_keptIn hbuild hbuild' bakery_keptIn hunit hunit' hfile⟩

end Flowchart
