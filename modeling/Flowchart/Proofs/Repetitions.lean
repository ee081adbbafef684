import Flowchart.Proofs.Nodes

set_option autoImplicit false

/-! # Repetitions in a tree

A table is keyed by the full names of items and the identifiers of blocks. It can be built exactly
if no two places of the tree have the same key, and then it knows every node and every block by its
key. Otherwise the error names the first key, in the preorder of the tree, that an earlier place
has already. -/

namespace Flowchart

/-! ## The first repetition of a list -/

section

variable {α : Type} [DecidableEq α]

/-- The first element of a list that has been seen before. -/
def firstRepeated (seen : List α) : List α → Option α
  | [] => none
  | a :: rest => if a ∈ seen then some a else firstRepeated (a :: seen) rest

variable {seen seen' l : List α} {a : α}

theorem firstRepeated_eq_none_iff :
    firstRepeated seen l = none ↔ l.Nodup ∧ ∀ a ∈ l, a ∉ seen := by
  induction l generalizing seen with
  | nil => simp [firstRepeated]
  | cons a rest ih =>
    rw [firstRepeated]
    by_cases ha : a ∈ seen
    · simp [ha]
    · rw [if_neg ha, ih, List.nodup_cons]
      simp only [List.mem_cons, not_or, forall_eq_or_imp]
      grind

/-- What is repeated first stands behind distinct elements that were not seen before, and is one of
    them or was seen before. -/
theorem firstRepeated_eq_some_iff :
    firstRepeated seen l = some a
      ↔ ∃ before after, l = before ++ a :: after ∧ (a ∈ seen ∨ a ∈ before)
        ∧ before.Nodup ∧ ∀ b ∈ before, b ∉ seen := by
  induction l generalizing seen with
  | nil => simp [firstRepeated]
  | cons c rest ih =>
    rw [firstRepeated]
    by_cases hc : c ∈ seen
    · rw [if_pos hc, Option.some.injEq]
      constructor
      · rintro rfl
        exact ⟨[], rest, rfl, Or.inl hc, List.nodup_nil, by simp⟩
      · rintro ⟨before, after, heq, -, -, hfresh⟩
        cases before with
        | nil => exact (List.cons.inj heq).1
        | cons b others =>
          obtain ⟨rfl, -⟩ := List.cons.inj heq
          exact absurd hc (hfresh c List.mem_cons_self)
    · rw [if_neg hc, ih]
      constructor
      · rintro ⟨before, after, rfl, hseen, hnodup, hfresh⟩
        refine ⟨c :: before, after, rfl, ?_, ?_, ?_⟩
        · grind
        · grind
        · grind
      · rintro ⟨before, after, heq, hseen, hnodup, hfresh⟩
        cases before with
        | nil =>
          obtain ⟨rfl, -⟩ := List.cons.inj heq
          exact absurd (hseen.resolve_right List.not_mem_nil) hc
        | cons b others =>
          obtain ⟨rfl, rfl⟩ := List.cons.inj heq
          refine ⟨others, after, rfl, ?_, ?_, ?_⟩
          · grind
          · grind
          · grind

theorem firstRepeated_append {l' : List α} :
    firstRepeated seen (l ++ l')
      = (firstRepeated seen l).or (firstRepeated (l.reverse ++ seen) l') := by
  induction l generalizing seen with
  | nil => rfl
  | cons a rest ih =>
    rw [List.cons_append, firstRepeated, firstRepeated]
    by_cases ha : a ∈ seen
    · simp [ha]
    · rw [if_neg ha, if_neg ha, ih]
      simp

/-- Of what was seen before only the elements of the list matter. -/
theorem firstRepeated_congr (h : ∀ a ∈ l, a ∈ seen ↔ a ∈ seen') :
    firstRepeated seen l = firstRepeated seen' l := by
  induction l generalizing seen seen' with
  | nil => rfl
  | cons a rest ih =>
    rw [firstRepeated, firstRepeated]
    have ha := h a List.mem_cons_self
    have hrest : firstRepeated (a :: seen) rest = firstRepeated (a :: seen') rest := by
      refine ih fun b hb => ?_
      simp [h b (List.mem_cons_of_mem _ hb)]
    simp only [ha, hrest]

theorem firstRepeated_map {β : Type} [DecidableEq β] {f : α → β} (hf : Function.Injective f) :
    firstRepeated (seen.map f) (l.map f) = (firstRepeated seen l).map f := by
  induction l generalizing seen with
  | nil => rfl
  | cons a rest ih =>
    have hmem : f a ∈ seen.map f ↔ a ∈ seen := List.mem_map_of_injective hf
    rw [List.map_cons, firstRepeated, firstRepeated, ← List.map_cons, ih]
    by_cases ha : a ∈ seen
    · rw [if_pos (hmem.2 ha), if_pos ha, Option.map_some]
    · rw [if_neg (hmem.not.2 ha), if_neg ha]

end

/-! ## Keys -/

/-- What a table is looked up by: the full name of an item or the identifier of a block. -/
inductive Key where
  | name (fullName : String)
  | block (id : Uuid)
deriving DecidableEq

/-- The error of a key that has been used before. -/
def Key.repeated : Key → CompileError
  | .name fullName => .duplicateName fullName
  | .block id => .duplicateBlock id

/-- The keys of a node: its full name, then its blocks. -/
def Symbol.keys (s : Symbol) : List Key := .name s.fullName :: s.blockIds.map .block

theorem Key.block_injective : Function.Injective Key.block := fun _ _ h => Key.block.inj h

theorem firstRepeatedBlock_eq (used : List Uuid) (blocks : List Block) :
    firstRepeatedBlock used blocks = firstRepeated used (blocks.map (·.id)) := by
  induction blocks generalizing used with
  | nil => rfl
  | cons b rest ih => rw [firstRepeatedBlock, List.map_cons, firstRepeated, ih]

/-- The repetition that a table reports is the first among the keys of all symbols in order. -/
theorem firstRepetition_eq (names : List String) (used : List Uuid) (symbols : List Symbol) :
    firstRepetition names used symbols
      = (firstRepeated (names.map .name ++ used.map .block) (symbols.flatMap Symbol.keys)).map
        Key.repeated := by
  induction symbols generalizing names used with
  | nil => rfl
  | cons s rest ih =>
    rw [firstRepetition, List.flatMap_cons, Symbol.keys, List.cons_append, firstRepeated]
    by_cases hs : s.fullName ∈ names
    · simp [hs, Key.repeated]
    · rw [if_neg hs, if_neg (by simpa using hs), firstRepeated_append]
      -- among the identifiers of blocks the names that were seen do not matter
      have hblocks : firstRepeated (.name s.fullName :: (names.map .name ++ used.map .block))
          (s.blockIds.map Key.block) = (firstRepeatedBlock used s.item.blocks).map .block := by
        rw [firstRepeatedBlock_eq, ← firstRepeated_map Key.block_injective]
        exact firstRepeated_congr (by simp)
      rw [hblocks]
      cases firstRepeatedBlock used s.item.blocks with
      | some id => rfl
      | none =>
        rw [Option.map_none, Option.none_or, ih]
        refine congrArg (Option.map Key.repeated) (firstRepeated_congr fun k _ => ?_)
        simp only [Symbol.blockIds, List.map_append, List.map_cons, List.mem_append, List.mem_cons,
          List.mem_reverse]
        tauto

/-! ## Places -/

/-- A place where a tree has a key: slot 0 of a node is its name, the other slots are its blocks. -/
structure KeyPlace where
  node : Position
  slot : Nat
deriving DecidableEq

/-- The order of the places: in preorder by their nodes; a node has its name before its blocks, and
    both before everything below it. -/
def KeyPlace.Before (p q : KeyPlace) : Prop := p.node < q.node ∨ p.node = q.node ∧ p.slot < q.slot

namespace KeyPlace.Before

variable {p q r : KeyPlace}

theorem irrefl (p : KeyPlace) : ¬ p.Before p := by
  rintro (h | ⟨-, h⟩)
  · exact List.lt_irrefl _ h
  · exact Nat.lt_irrefl _ h

theorem trans (h : p.Before q) (h' : q.Before r) : p.Before r := by
  rcases h with h | ⟨hnode, hslot⟩
  · rcases h' with h' | ⟨hnode', -⟩
    · exact Or.inl (List.lt_trans h h')
    · exact Or.inl (hnode' ▸ h)
  · rcases h' with h' | ⟨hnode', hslot'⟩
    · exact Or.inl (hnode ▸ h')
    · exact Or.inr ⟨hnode.trans hnode', Nat.lt_trans hslot hslot'⟩

end KeyPlace.Before

namespace Item

variable {root : Item}

/-- The key at a place. -/
def key? (root : Item) (p : KeyPlace) : Option Key := (root.at? p.node).bind (·.keys[p.slot]?)

/-- The keys of a tree with their places, in order. -/
def keyed (root : Item) : List (KeyPlace × Key) :=
  (root.nodes "" none).flatMap fun n => n.2.keys.zipIdx.map fun k => (⟨n.1, k.2⟩, k.1)

theorem mem_keyed_iff {p : KeyPlace} {k : Key} : (p, k) ∈ root.keyed ↔ root.key? p = some k := by
  rw [keyed, List.mem_flatMap, key?, Option.bind_eq_some_iff]
  constructor
  · rintro ⟨⟨position, s⟩, hnode, hkey⟩
    obtain ⟨⟨k', slot⟩, hslot, heq⟩ := List.mem_map.1 hkey
    cases heq
    exact ⟨s, mem_nodes_iff.1 hnode, List.mem_zipIdx_iff_getElem?.1 hslot⟩
  · rintro ⟨s, hnode, hslot⟩
    refine ⟨(p.node, s), mem_nodes_iff.2 hnode, List.mem_map.2 ⟨(k, p.slot), ?_, rfl⟩⟩
    exact List.mem_zipIdx_iff_getElem?.2 hslot

theorem map_snd_keyed (root : Item) :
    root.keyed.map Prod.snd = (root.symbols "" none).flatMap Symbol.keys := by
  rw [keyed, List.map_flatMap, ← map_snd_nodes, List.flatMap_map]
  refine List.flatMap_congr fun n _ => ?_
  rw [List.map_map]
  exact List.zipIdx_map_fst 0 n.2.keys

theorem pairwise_keyed (root : Item) : root.keyed.Pairwise fun x y => x.1.Before y.1 := by
  rw [keyed, List.pairwise_flatMap]
  constructor
  · intro n _
    have hslots : n.2.keys.zipIdx.Pairwise fun k k' => k.2 < k'.2 := by
      have hrange := List.pairwise_lt_range' (s := 0) (n := n.2.keys.length)
      rw [← List.zipIdx_map_snd 0 n.2.keys, List.pairwise_map] at hrange
      exact hrange
    exact hslots.map _ fun k k' hlt => Or.inr ⟨rfl, hlt⟩
  · refine pairwise_nodes.imp fun {n m} hlt x hx y hy => ?_
    obtain ⟨k, -, rfl⟩ := List.mem_map.1 hx
    obtain ⟨k', -, rfl⟩ := List.mem_map.1 hy
    exact Or.inl hlt

/-- In the list of keys those of earlier places stand before the key of a place. -/
theorem mem_before_iff {place : KeyPlace} {k : Key} {before after : List (KeyPlace × Key)}
    (h : root.keyed = before ++ (place, k) :: after) {p : KeyPlace} {k' : Key} :
    (p, k') ∈ before ↔ p.Before place ∧ root.key? p = some k' := by
  have hsorted := root.pairwise_keyed
  rw [h] at hsorted
  obtain ⟨-, hbehind, hacross⟩ := List.pairwise_append.1 hsorted
  constructor
  · intro hp
    exact ⟨hacross _ hp _ List.mem_cons_self, mem_keyed_iff.1 (by simp [h, hp])⟩
  · rintro ⟨hp, hk'⟩
    have hin := mem_keyed_iff.2 hk'
    rw [h] at hin
    rcases List.mem_append.1 hin with hin | hin
    · exact hin
    · -- what stands at the place or behind it is not before it
      exfalso
      rcases List.mem_cons.1 hin with heq | hin
      · cases heq
        exact KeyPlace.Before.irrefl _ hp
      · exact KeyPlace.Before.irrefl _ (hp.trans ((List.pairwise_cons.1 hbehind).1 _ hin))

/-- A place and a key that stands there as the first repetition: an earlier place has the key as
    well, and all places before this one have different keys. -/
structure FirstRepetition (root : Item) (place : KeyPlace) (k : Key) : Prop where
  key_eq : root.key? place = some k
  repeats : ∃ earlier : KeyPlace, earlier.Before place ∧ root.key? earlier = some k
  first : ∀ p q : KeyPlace, p.Before place → q.Before p → ∀ k', root.key? p = some k' →
    root.key? q ≠ some k'

/-- The key that is repeated first in the list of keys stands at the place of the first
    repetition. -/
theorem firstRepeated_keyed_iff {k : Key} :
    firstRepeated [] (root.keyed.map Prod.snd) = some k
      ↔ ∃ place, root.FirstRepetition place k := by
  rw [firstRepeated_eq_some_iff]
  constructor
  · rintro ⟨_, _, hsplit, hbefore, hnodup, -⟩
    obtain ⟨before, rest, hkeyed, rfl, hrest⟩ := List.map_eq_append_iff.1 hsplit
    obtain ⟨⟨place, _⟩, after, rfl, rfl, rfl⟩ := List.map_eq_cons_iff.1 hrest
    refine ⟨place, mem_keyed_iff.1 (by simp [hkeyed]), ?_, ?_⟩
    · obtain ⟨⟨earlier, _⟩, hearlier, rfl⟩ :=
        List.mem_map.1 (hbefore.resolve_left List.not_mem_nil)
      exact ⟨earlier, (mem_before_iff hkeyed).1 hearlier⟩
    · intro p q hp hq k' hpk hqk
      have hpmem := (mem_before_iff hkeyed).2 ⟨hp, hpk⟩
      have hqmem := (mem_before_iff hkeyed).2 ⟨hq.trans hp, hqk⟩
      have heq := List.inj_on_of_nodup_map hnodup hpmem hqmem rfl
      cases heq
      exact KeyPlace.Before.irrefl _ hq
  · rintro ⟨place, hplace⟩
    obtain ⟨before, after, hkeyed⟩ := List.append_of_mem (mem_keyed_iff.2 hplace.key_eq)
    refine ⟨before.map Prod.snd, after.map Prod.snd, by simp [hkeyed], Or.inr ?_, ?_, by simp⟩
    · obtain ⟨earlier, hearlier, hkey⟩ := hplace.repeats
      exact List.mem_map.2 ⟨_, (mem_before_iff hkeyed).2 ⟨hearlier, hkey⟩, rfl⟩
    · have hsorted := root.pairwise_keyed
      rw [hkeyed] at hsorted
      rw [List.Nodup, List.pairwise_map]
      refine (List.pairwise_append.1 hsorted).1.imp_of_mem fun {x y} hx hy hxy heq => ?_
      obtain ⟨hyplace, hykey⟩ := (mem_before_iff hkeyed).1 hy
      have hxkey := ((mem_before_iff hkeyed).1 hx).2
      exact hplace.first y.1 x.1 hyplace hxy y.2 hykey (heq ▸ hxkey)

/-! ## Distinct keys -/

/-- No two nodes of the tree have the same full name. -/
def NamesDistinct (root : Item) : Prop :=
  ∀ p q s s', root.at? p = some s → root.at? q = some s' → s.fullName = s'.fullName → p = q

/-- No two blocks of the tree, of one node or of two, have the same identifier. -/
def BlocksDistinct (root : Item) : Prop :=
  ∀ p q (i j : Nat) s s' (b b' : Block), root.at? p = some s → root.at? q = some s' →
    s.item.blocks[i]? = some b → s'.item.blocks[j]? = some b' → b.id = b'.id → p = q ∧ i = j

/-- No two places of the tree have the same key. -/
def KeysDistinct (root : Item) : Prop :=
  ∀ p q k, root.key? p = some k → root.key? q = some k → p = q

theorem key?_eq_some_iff {p : KeyPlace} {k : Key} :
    root.key? p = some k ↔ ∃ s, root.at? p.node = some s
      ∧ (p.slot = 0 ∧ k = .name s.fullName
        ∨ ∃ i b, p.slot = i + 1 ∧ s.item.blocks[i]? = some b ∧ k = .block b.id) := by
  rw [key?, Option.bind_eq_some_iff]
  refine exists_congr fun s => and_congr_right fun _ => ?_
  obtain ⟨node, slot⟩ := p
  cases slot with
  | zero => simp [Symbol.keys, eq_comm]
  | succ i =>
    rw [Symbol.keys, List.getElem?_cons_succ, List.getElem?_map, Symbol.blockIds,
      List.getElem?_map]
    cases hb : s.item.blocks[i]? with
    | none => simp [hb]
    | some b => simp [hb, eq_comm]

theorem keysDistinct_iff : root.KeysDistinct ↔ root.NamesDistinct ∧ root.BlocksDistinct := by
  constructor
  · intro h
    constructor
    · intro p q s s' hp hq hname
      have hp' : root.key? ⟨p, 0⟩ = some (.name s.fullName) :=
        key?_eq_some_iff.2 ⟨s, hp, Or.inl ⟨rfl, rfl⟩⟩
      have hq' : root.key? ⟨q, 0⟩ = some (.name s.fullName) :=
        key?_eq_some_iff.2 ⟨s', hq, Or.inl ⟨rfl, by rw [hname]⟩⟩
      exact congrArg KeyPlace.node (h _ _ _ hp' hq')
    · intro p q i j s s' b b' hp hq hb hb' hid
      have hp' : root.key? ⟨p, i + 1⟩ = some (.block b.id) :=
        key?_eq_some_iff.2 ⟨s, hp, Or.inr ⟨i, b, rfl, hb, rfl⟩⟩
      have hq' : root.key? ⟨q, j + 1⟩ = some (.block b.id) :=
        key?_eq_some_iff.2 ⟨s', hq, Or.inr ⟨j, b', rfl, hb', by rw [hid]⟩⟩
      obtain ⟨hnode, hslot⟩ := KeyPlace.mk.inj (h _ _ _ hp' hq')
      exact ⟨hnode, by omega⟩
  · rintro ⟨hnames, hblocks⟩ ⟨p, slot⟩ ⟨q, slot'⟩ k hp hq
    obtain ⟨s, hs, hp⟩ := key?_eq_some_iff.1 hp
    obtain ⟨s', hs', hq⟩ := key?_eq_some_iff.1 hq
    rcases hp with ⟨rfl, rfl⟩ | ⟨i, b, rfl, hb, rfl⟩
    · rcases hq with ⟨rfl, hname⟩ | ⟨j, b', rfl, -, hname⟩
      · cases hnames p q s s' hs hs' (Key.name.inj hname)
        rfl
      · cases hname
    · rcases hq with ⟨rfl, hid⟩ | ⟨j, b', rfl, hb', hid⟩
      · cases hid
      · obtain ⟨rfl, rfl⟩ := hblocks p q i j s s' b b' hs hs' hb hb' (Key.block.inj hid)
        rfl

theorem nodup_keyed (root : Item) : root.keyed.Nodup := by
  refine root.pairwise_keyed.imp fun h heq => ?_
  rw [heq] at h
  exact KeyPlace.Before.irrefl _ h

theorem nodup_keys_iff : (root.keyed.map Prod.snd).Nodup ↔ root.KeysDistinct := by
  rw [List.nodup_map_iff_inj_on root.nodup_keyed]
  constructor
  · intro h p q k hp hq
    exact congrArg Prod.fst (h _ (mem_keyed_iff.2 hp) _ (mem_keyed_iff.2 hq) rfl)
  · rintro h ⟨p, k⟩ hp ⟨q, _⟩ hq rfl
    rw [h p q k (mem_keyed_iff.1 hp) (mem_keyed_iff.1 hq)]

end Item

/-! ## The table of a tree -/

namespace SymbolTable

variable {t : SymbolTable} {root : Item}

/-- The table knows exactly the nodes of a tree by their full names, with the kinds of their
    parents, and exactly its blocks by their identifiers, with the full names of their owners. -/
structure Indexes (t : SymbolTable) (root : Item) : Prop where
  find?_eq_some_iff : ∀ n s,
    t.find? n = some s ↔ ∃ p, root.at? p = some s ∧ s.fullName = n
  findBlock?_eq_some_iff : ∀ id b,
    t.findBlock? id = some b ↔ ∃ p s, root.at? p = some s ∧ b.block ∈ s.item.blocks
      ∧ b.owner = s.fullName ∧ b.block.id = id
  length_symbols : t.symbols.length = {p : Position | ∃ s, root.at? p = some s}.ncard
  length_blocks : t.blocks.length
    = {place : Position × Nat | ∃ s b, root.at? place.1 = some s
        ∧ s.item.blocks[place.2]? = some b}.ncard

/-- The outcome of building a table, by the first repetition among the keys. -/
theorem build_eq (root : Item) :
    build root = match firstRepeated [] (root.keyed.map Prod.snd) with
      | some k => .error k.repeated
      | none => .ok { symbols := root.symbols "" none
                      blocks := (root.symbols "" none).flatMap Symbol.ownedBlocks } := by
  rw [build, firstRepetition_eq, Item.map_snd_keyed]
  simp only [List.map_nil, List.append_nil]
  cases firstRepeated [] ((root.symbols "" none).flatMap Symbol.keys) with
  | none => rfl
  | some k => rfl

theorem exists_build_iff :
    (∃ t, build root = .ok t) ↔ root.NamesDistinct ∧ root.BlocksDistinct := by
  rw [← Item.keysDistinct_iff, ← Item.nodup_keys_iff, build_eq]
  have hnone := @firstRepeated_eq_none_iff Key _ [] (root.keyed.map Prod.snd)
  simp only [List.not_mem_nil, not_false_eq_true, implies_true, and_true] at hnone
  rw [← hnone]
  cases firstRepeated [] (root.keyed.map Prod.snd) with
  | none => simp
  | some k => simp

theorem build_eq_error_iff {e : CompileError} :
    build root = .error e ↔ ∃ place k, root.FirstRepetition place k ∧ e = k.repeated := by
  rw [exists_comm, build_eq]
  simp only [exists_and_right, ← Item.firstRepeated_keyed_iff]
  cases firstRepeated [] (root.keyed.map Prod.snd) with
  | none => simp
  | some k => simp [eq_comm]

/-- A list without repetitions is as long as there are things in it. -/
theorem length_eq_ncard {α : Type} {l : List α} (h : l.Nodup) {things : Set α}
    (hthings : ∀ a, a ∈ things ↔ a ∈ l) : l.length = things.ncard := by
  classical
  have heq : things = ↑l.toFinset := Set.ext fun a => by simp [hthings]
  rw [heq, Set.ncard_coe_finset, List.toFinset_card_of_nodup h]

theorem Lists.mem_symbols_iff (h : t.Lists root) {s : Symbol} :
    s ∈ t.symbols ↔ ∃ p, root.at? p = some s := by
  rw [h.symbols_eq, ← Item.map_snd_nodes, List.mem_map]
  constructor
  · rintro ⟨⟨p, _⟩, hp, rfl⟩
    exact ⟨p, Item.mem_nodes_iff.1 hp⟩
  · rintro ⟨p, hp⟩
    exact ⟨(p, s), Item.mem_nodes_iff.2 hp, rfl⟩

theorem Lists.findBlock?_eq_some_iff (h : t.Lists root) {id : Uuid} {b : OwnedBlock} :
    t.findBlock? id = some b ↔ b ∈ t.blocks ∧ b.block.id = id := by
  have hids : (t.blocks.map (·.block.id)).Nodup := by
    have heq : t.blocks.map (·.block.id) = t.symbols.flatMap Symbol.blockIds := by
      rw [h.blocks_eq, List.map_flatMap]
      refine List.flatMap_congr fun s _ => ?_
      rw [Symbol.ownedBlocks, Symbol.blockIds, List.map_map]
      rfl
    rw [heq]
    exact h.ids_nodup
  exact find?_key_eq_some_iff hids

theorem nodup_positions (root : Item) : ((root.nodes "" none).map Prod.fst).Nodup := by
  rw [List.Nodup, List.pairwise_map]
  refine Item.pairwise_nodes.imp fun hlt heq => ?_
  rw [heq] at hlt
  exact List.lt_irrefl _ hlt

theorem Lists.length_symbols (h : t.Lists root) :
    t.symbols.length = {p : Position | ∃ s, root.at? p = some s}.ncard := by
  rw [h.symbols_eq, ← Item.map_snd_nodes, List.length_map, ← List.length_map Prod.fst]
  refine length_eq_ncard (nodup_positions root) fun p => ?_
  rw [List.mem_map]
  constructor
  · rintro ⟨s, hs⟩
    exact ⟨(p, s), Item.mem_nodes_iff.2 hs, rfl⟩
  · rintro ⟨⟨_, s⟩, hs, rfl⟩
    exact ⟨s, Item.mem_nodes_iff.1 hs⟩

/-- The places of blocks, node by node. -/
def blockPlaces (root : Item) : List (Position × Nat) :=
  (root.nodes "" none).flatMap fun n =>
    (List.range n.2.item.blocks.length).map fun i => (n.1, i)

theorem mem_blockPlaces_iff {place : Position × Nat} :
    place ∈ blockPlaces root
      ↔ ∃ s b, root.at? place.1 = some s ∧ s.item.blocks[place.2]? = some b := by
  rw [blockPlaces, List.mem_flatMap]
  constructor
  · rintro ⟨⟨p, s⟩, hs, hplace⟩
    obtain ⟨i, hi, rfl⟩ := List.mem_map.1 hplace
    exact ⟨s, _, Item.mem_nodes_iff.1 hs, List.getElem?_eq_getElem (List.mem_range.1 hi)⟩
  · rintro ⟨s, b, hs, hb⟩
    obtain ⟨hlt, -⟩ := List.getElem?_eq_some_iff.1 hb
    exact ⟨(place.1, s), Item.mem_nodes_iff.2 hs,
      List.mem_map.2 ⟨place.2, List.mem_range.2 hlt, rfl⟩⟩

theorem nodup_blockPlaces (root : Item) : (blockPlaces root).Nodup := by
  rw [blockPlaces, List.nodup_flatMap]
  constructor
  · intro n _
    exact List.nodup_range.map fun i j heq => (Prod.mk.inj heq).2
  · have hpositions := nodup_positions root
    rw [List.Nodup, List.pairwise_map] at hpositions
    refine hpositions.imp fun hne place hplace hplace' => hne ?_
    obtain ⟨i, -, rfl⟩ := List.mem_map.1 hplace
    obtain ⟨j, -, heq⟩ := List.mem_map.1 hplace'
    exact (Prod.mk.inj heq).1.symm

theorem Lists.length_blocks (h : t.Lists root) :
    t.blocks.length = {place : Position × Nat | ∃ s b, root.at? place.1 = some s
      ∧ s.item.blocks[place.2]? = some b}.ncard := by
  have hlength : t.blocks.length = (blockPlaces root).length := by
    rw [h.blocks_eq, h.symbols_eq, blockPlaces, ← Item.map_snd_nodes, List.flatMap_map,
      List.length_flatMap, List.length_flatMap]
    simp [Symbol.ownedBlocks]
  rw [hlength]
  exact length_eq_ncard (nodup_blockPlaces root) fun _ => mem_blockPlaces_iff.symm

/-- A table that lists a tree knows its nodes and blocks by their keys. -/
theorem Lists.indexes (h : t.Lists root) : t.Indexes root where
  find?_eq_some_iff n s := by rw [h.find?_eq_some_iff, h.mem_symbols_iff, exists_and_right]
  findBlock?_eq_some_iff id b := by
    rw [h.findBlock?_eq_some_iff, h.blocks_eq, List.mem_flatMap]
    constructor
    · rintro ⟨⟨s, hs, hb⟩, hid⟩
      obtain ⟨p, hp⟩ := h.mem_symbols_iff.1 hs
      obtain ⟨block, hblock, rfl⟩ := List.mem_map.1 hb
      exact ⟨p, s, hp, hblock, rfl, hid⟩
    · rintro ⟨p, s, hp, hblock, howner, hid⟩
      refine ⟨⟨s, h.mem_symbols_iff.2 ⟨p, hp⟩, List.mem_map.2 ⟨b.block, hblock, ?_⟩⟩, hid⟩
      rw [← howner]
  length_symbols := h.length_symbols
  length_blocks := h.length_blocks

/-- A table can be built exactly for the trees that repeat neither a full name nor the identifier of
    a block. It then knows the nodes and blocks of the tree by these; otherwise the error names the
    first repetition in preorder. -/
theorem build_exact (root : Item) :
    ((∃ t, build root = .ok t) ↔ root.NamesDistinct ∧ root.BlocksDistinct)
      ∧ (∀ t, build root = .ok t → t.Indexes root)
      ∧ ∀ e, build root = .error e ↔ ∃ place k, root.FirstRepetition place k ∧ e = k.repeated :=
  ⟨exists_build_iff, fun _ ht => (build_eq_ok_iff.1 ht).indexes, fun _ => build_eq_error_iff⟩

end SymbolTable

/-! ## Names with dots in them -/

/-- A tree with two ways to the same full name, unless the variable `a.b` is called otherwise. -/
def fork (name : String) : Item where
  name := "Demo"
  kind := .project
  children := [
    { name := "a", kind := .package, children := [{ name := "b", kind := .variable }] },
    { name := name, kind := .variable }]

theorem fork_exact :
    (∃ t, SymbolTable.build (fork "a.c") = .ok t ∧ t.Indexes (fork "a.c"))
      ∧ ∃ place k, (fork "a.b").FirstRepetition place k ∧ .duplicateName "Demo.a.b" = k.repeated :=
  ⟨⟨_, rfl, (SymbolTable.build_exact (fork "a.c")).2.1 _ rfl⟩,
    ((SymbolTable.build_exact (fork "a.b")).2.2 _).1 rfl⟩

end Flowchart
