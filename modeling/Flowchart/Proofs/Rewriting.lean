import Flowchart.Proofs.Passes

set_option autoImplicit false

/-! # Trees with other identifiers of blocks

Identifiers of blocks only tell which block a connection leads to. If they are replaced by others,
so that different identifiers stay different, then a pass ends as before: with the same output, or
with the same error about the block that now has the other identifier. -/

namespace Flowchart

/-! ## Rewritten trees -/

mutual

/-- A tree with other blocks and comments in all items. -/
def Item.rewrite (blocksOf : List Block → List Block) (commentsOf : String → String) : Item → Item
  | { name, kind, id, comments, children, typeName, returnType, blocks } =>
    { name, kind, id, comments := commentsOf comments
      children := Item.rewriteAll blocksOf commentsOf children
      typeName, returnType, blocks := blocksOf blocks }

/-- Several trees with other blocks and comments in all items. -/
def Item.rewriteAll (blocksOf : List Block → List Block) (commentsOf : String → String) :
    List Item → List Item
  | [] => []
  | item :: rest => item.rewrite blocksOf commentsOf :: Item.rewriteAll blocksOf commentsOf rest

end

namespace Item

variable {blocksOf : List Block → List Block} {commentsOf : String → String}

theorem rewriteAll_eq_map (items : List Item) :
    rewriteAll blocksOf commentsOf items = items.map (rewrite blocksOf commentsOf) := by
  induction items with
  | nil => rfl
  | cons item rest ih => rw [rewriteAll, ih, List.map_cons]

theorem rewrite_eq (item : Item) :
    item.rewrite blocksOf commentsOf
      = { item with
          comments := commentsOf item.comments
          children := item.children.map (rewrite blocksOf commentsOf)
          blocks := blocksOf item.blocks } := by
  rw [← rewriteAll_eq_map]
  cases item
  rfl

/-- A rewritten tree corresponds to the tree if its blocks and comments do. -/
theorem corresponds_rewrite {shuffled : Prop} {f : Uuid → Uuid} {C : String → String → Prop}
    (hblocks : ∀ blocks, blocksOf blocks = blocks.map (Block.rename f))
    (hcomments : ∀ comments, C comments (commentsOf comments)) (item : Item) :
    item.Corresponds shuffled f C (item.rewrite blocksOf commentsOf) := by
  induction item using Item.induction with
  | h item ih =>
    rw [rewrite_eq]
    refine .mk ⟨rfl, rfl, rfl, rfl, rfl, hcomments _, Or.inl (hblocks _).symm⟩ ?_ (Or.inl rfl)
    rw [List.forall₂_map_right_iff]
    exact List.forall₂_same.2 ih

/-- The tree with other identifiers of blocks, and with the connections that led to the old ones
    leading to the new ones. -/
def renameBlocks (f : Uuid → Uuid) : Item → Item := rewrite (List.map (Block.rename f)) fun c => c

/-- The tree without any comments. -/
def withoutComments : Item → Item := rewrite (fun blocks => blocks) fun _ => ""

end Item

/-! ## Other identifiers -/

variable {f : Uuid → Uuid}

/-- With other identifiers of blocks a pass has the same output, but for the blocks in the errors of
    units that were left out, or fails with the same error about the renamed blocks. -/
theorem compile_renameBlocks (hf : Function.Injective f) (root : Item) (options : Options) :
    compile (root.renameBlocks f) options
      = match compile root options with
        | .ok p => .ok { p with skipped := p.skipped.map (·.renameBlocks f) }
        | .error e => .error (e.renameBlocks f) := by
  have hcorresponds : root.Corresponds False f Eq (root.renameBlocks f) :=
    Item.corresponds_rewrite (fun _ => rfl) (fun _ => rfl) root
  have hfollows := hcorresponds.follows_compile hf options.sameChoices_refl rfl
  cases hcompile : compile root options with
  | ok p =>
    obtain ⟨p', hp', rfl⟩ := hfollows.exists_ok hcompile
    exact hp'
  | error e => exact hfollows.eq_error trivial hcompile

/-! ## A loop with other identifiers -/

/-- A project with a function that never ends and one that ends at once. -/
def spinning : Item where
  name := "Demo"
  kind := .project
  id := some (.ofNat 7)
  children := [
    { name := "spin"
      kind := .function
      returnType := some "VOID"
      blocks := [
        { id := .ofNat 1, kind := .start, content := none
          connections := { bottom := some [⟨.ofNat 2, .top⟩] } },
        { id := .ofNat 2, kind := .output, content := some ⟨some (.text "again"), none⟩
          connections := { bottom := some [⟨.ofNat 2, .top⟩] } }] },
    { name := "rest"
      kind := .function
      returnType := some "VOID"
      blocks := [
        { id := .ofNat 3, kind := .start, content := none
          connections := { bottom := some [⟨.ofNat 4, .top⟩] } },
        { id := .ofNat 4, kind := .stop, content := none, connections := {} }] }]

/-- The identifier with all bits flipped, which also turns the order of identifiers around. -/
def Uuid.flip (id : Uuid) : Uuid := ⟨~~~ id.bits⟩

theorem Uuid.flip_injective : Function.Injective flip := by
  rintro ⟨a⟩ ⟨b⟩ h
  have hbits : ~~~ a = ~~~ b := congrArg Uuid.bits h
  rw [BitVec.not_inj] at hbits
  rw [hbits]

/-- The loop is found at the same block, which has another identifier. -/
theorem spinning_renamed :
    ∃ p, compile spinning { failurePolicy := .skipDeclaration } = .ok p
      ∧ p.skipped.map CompileError.message = ["Failed to compile 'Demo.spin': Block "
        ++ "'00000000-0000-0000-0000-000000000002' is reachable from itself, loops cannot be "
        ++ "compiled"]
      ∧ compile (spinning.renameBlocks Uuid.flip) { failurePolicy := .skipDeclaration }
        = .ok { p with skipped := p.skipped.map (·.renameBlocks Uuid.flip) } := by
  have hskipped : (compile spinning { failurePolicy := .skipDeclaration }).toOption.any (fun p =>
      decide (p.skipped.map CompileError.message = ["Failed to compile 'Demo.spin': Block "
        ++ "'00000000-0000-0000-0000-000000000002' is reachable from itself, loops cannot be "
        ++ "compiled"])) = true := by
    decide +kernel
  obtain ⟨p, hsome, hmessages⟩ := (Option.any_eq_true _ _).1 hskipped
  have hp := toOption_eq_some.1 hsome
  have hrenamed := compile_renameBlocks Uuid.flip_injective spinning
    { failurePolicy := .skipDeclaration }
  rw [hp] at hrenamed
  exact ⟨p, hp, of_decide_eq_true hmessages, hrenamed⟩

end Flowchart
