import Flowchart.Proofs.Passes

set_option autoImplicit false

/-! # Trees in another order

The children of projects and packages and the blocks of functions are listed in some order. It
decides which error comes first, but not what is written: the files are sorted by their paths, and
no two of them have the same path. -/

namespace Flowchart

/-! ## Rearranged trees -/

/-- A tree with the children of any projects and packages and the blocks of any items listed in
    another order, at every node by itself. -/
inductive Item.Rearranged : Item → Item → Prop
  | mk {item : Item} {inside children : List Item} {blocks : List Block}
      (inside_rearranged : List.Forall₂ Rearranged item.children inside)
      (siblings : Reordered (item.kind.isNamespace = true) inside children)
      (blocks_perm : item.blocks.Perm blocks) :
      Rearranged item { item with children, blocks }

/-- A rearranged tree corresponds to the tree, if the order does not count. -/
theorem corresponds_of_rearranged {item other : Item} (h : item.Rearranged other) :
    item.Corresponds True id Eq other := by
  induction item using Item.induction generalizing other with
  | h item ih =>
    cases h with
    | @mk _ inside children blocks inside_rearranged siblings blocks_perm =>
      have hblocks : (item.blocks.map (Block.rename id)).Perm blocks := by
        rwa [map_rename_id]
      have hinside : List.Forall₂ (Item.Corresponds True id Eq) item.children inside :=
        ((List.forall₂_and_left _ _).2 ⟨fun _ hchild => hchild, inside_rearranged⟩).imp
          fun child other ⟨hchild, hother⟩ => ih child hchild hother
      exact .mk ⟨rfl, rfl, rfl, rfl, rfl, rfl, Or.inr ⟨trivial, hblocks⟩⟩ hinside
        (siblings.mono fun hkind => ⟨trivial, hkind⟩)

/-! ## The output -/

/-- If a project can be compiled, then it can be compiled in any other order: with the same
    directories and files, and with the same errors of what was left out, in another order. -/
theorem compile_rearranged {root other : Item} {options : Options} {p : GeneratedProject}
    (h : compile root options = .ok p) (hother : root.Rearranged other) :
    ∃ p', compile other options = .ok p' ∧ p'.name = p.name ∧ p'.directories = p.directories
      ∧ p'.files = p.files ∧ p'.skipped.Perm p.skipped := by
  have hcorresponds := corresponds_of_rearranged hother
  have hid : Function.Injective (id : Uuid → Uuid) := Function.injective_id
  have hoptions := options.sameChoices_refl
  obtain ⟨planned, hplanned, rfl, habort⟩ := compile_eq_ok_iff.1 h
  have hfollows := hcorresponds.follows_plannedUnits hid (nofun : False → ¬ True)
    hoptions.toSameEntry
  obtain ⟨planned', hplanned', t, t', hplans, hplans'⟩ := hfollows.exists_ok hplanned
  have hresults : planned.2.Perm planned'.2 := by
    have hpaired := hcorresponds.results_paired hid hoptions hplans hplans'
    exact (hpaired.imp fun _ _ _ _ hsame => hsame.eq_of_id fun _ _ heq => heq).reordered.perm
  have hdirectories :=
    (hcorresponds.directories_reordered hplans.layout_eq hplans'.layout_eq).perm
  have hlaid := (hcorresponds.files_reordered hoptions.comments_eq hplans.layout_eq
    hplans'.layout_eq).perm
  have hfiles := hlaid.append (hresults.filterMap Except.toOption)
  have hfailures := hresults.filterMap failure?
  refine ⟨_, compile_eq_ok_iff.2 ⟨planned', hplanned', rfl, fun hpolicy => ?_⟩,
    hcorresponds.head.name_eq, ?_, ?_, hfailures.symm⟩
  · exact List.perm_nil.1 (habort hpolicy ▸ hfailures.symm)
  · exact (sortDirectories_eq_of_perm hdirectories hplans.nodup_directories).symm
  · exact (sortFiles_eq_of_perm hfiles hplans.nodup_files).symm

/-! ## A project in two orders -/

/-- A function that never ends. -/
def errandsWait : Item where
  name := "wait"
  kind := .function
  returnType := some "VOID"
  blocks := [
    { id := .ofNat 1, kind := .start, content := none
      connections := { bottom := some [⟨.ofNat 2, .top⟩] } },
    { id := .ofNat 2, kind := .output, content := some ⟨some (.text "still"), none⟩
      connections := { bottom := some [⟨.ofNat 2, .top⟩] } }]

/-- A function without a start. -/
def errandsRest : Item where
  name := "rest"
  kind := .function
  returnType := some "VOID"
  blocks := [{ id := .ofNat 3, kind := .stop, content := none, connections := {} }]

/-- A variable in a package. -/
def errandsList : Item where
  name := "app"
  kind := .package
  comments := "What is left."
  children := [{ name := "count", kind := .«variable», typeName := some "NUMBER" }]

/-- A project with two functions that cannot be compiled, and with a variable. -/
def errands : Item where
  name := "Demo"
  kind := .project
  id := some (.ofNat 7)
  children := [errandsWait, errandsRest, errandsList]

/-- The project in reverse order. -/
def errandsBackwards : Item where
  name := "Demo"
  kind := .project
  id := some (.ofNat 7)
  children := [errandsList, errandsRest, { errandsWait with blocks := errandsWait.blocks.reverse }]

theorem errands_rearranged : errands.Rearranged errandsBackwards := by
  have hwait : errandsWait.Rearranged { errandsWait with blocks := errandsWait.blocks.reverse } :=
    .mk .nil (Or.inl rfl) (List.reverse_perm _).symm
  have hrest : errandsRest.Rearranged errandsRest := .mk .nil (Or.inl rfl) (.refl _)
  have hlist : errandsList.Rearranged errandsList :=
    .mk (.cons (.mk .nil (Or.inl rfl) (.refl _)) .nil) (Or.inl rfl) (.refl _)
  have hreverse := (List.reverse_perm [errandsList, errandsRest,
    { errandsWait with blocks := errandsWait.blocks.reverse }])
  exact .mk (.cons hwait (.cons hrest (.cons hlist .nil))) (Or.inr ⟨rfl, hreverse⟩) (.refl _)

/-- Both functions are left out of the output in both orders. -/
theorem errands_compile :
    ∃ p p', compile errands { failurePolicy := .skipDeclaration } = .ok p ∧ p.skipped.length = 2
      ∧ compile errandsBackwards { failurePolicy := .skipDeclaration } = .ok p'
      ∧ p'.name = p.name ∧ p'.directories = p.directories ∧ p'.files = p.files
      ∧ p'.skipped.Perm p.skipped := by
  have hskipped : (compile errands { failurePolicy := .skipDeclaration }).toOption.any
      (fun p => decide (p.skipped.length = 2)) = true := by
    decide +kernel
  obtain ⟨p, hsome, hlength⟩ := (Option.any_eq_true _ _).1 hskipped
  have hp := toOption_eq_some.1 hsome
  obtain ⟨p', hp', hsame⟩ := compile_rearranged hp errands_rearranged
  exact ⟨p, p', hp, of_decide_eq_true hlength, hp', hsame⟩

end Flowchart
