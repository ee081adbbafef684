import Flowchart.Proofs.Documentation
import Flowchart.Proofs.Names
import Flowchart.Proofs.Terminators

set_option autoImplicit false

/-! # Documentation blocks

The file of a unit is the one written without comments, with one block before each declaration that
is documented. Which blocks are comments to the compiler is read off the comments in the tree. -/

namespace Flowchart

namespace Java

/-! ## Blocks of lines -/

theorem closed_append_blank {c : Char} (hc : Text.isBlank c = true) (text rest : List Char) :
    Closed (text ++ c :: rest) ↔ Closed text ∧ Closed rest :=
  neighbours_append_blank (fun _ _ h => h) hc text rest

theorem closed_nil : Closed [] := neighbours_nil

theorem closed_plain_append (plain : List Char) (h : ∀ c ∈ plain, c ≠ '\\' ∧ c ≠ '*')
    (rest : List Char) : Closed (plain ++ rest) ↔ Closed rest := by
  induction plain with
  | nil => rfl
  | cons c plain ih =>
    obtain ⟨hbackslash, hstar⟩ := h c List.mem_cons_self
    have hfirst : ∀ b, ¬ EndsComment (.raw c) b := fun b hends => hstar (endsComment_raw_left hends)
    rw [← ih fun d hd => h d (List.mem_cons_of_mem _ hd), Closed, Closed, Neighbours, Neighbours,
      List.cons_append, inputChars, if_neg hbackslash]
    simp [List.isChain_cons, hfirst]

theorem toList_renderAll (ls : List Line) : (Line.renderAll ls).toList
    = ls.flatMap fun l => List.replicate (4 * l.depth) ' ' ++ (l.text.toList ++ ['\n']) := by
  simp [Line.renderAll, Line.render, List.flatMap_map]

/-- The inner line of a documentation block that a line of documentation becomes. -/
def docLine (depth : Nat) (line : String) : Line :=
  ⟨depth, if line.isEmpty then " *" else " * " ++ line⟩

theorem docLines_eq (depth : Nat) {doc : List String} (hdoc : doc ≠ []) :
    docLines depth doc = ⟨depth, "/**"⟩ :: doc.map (docLine depth) ++ [⟨depth, " */"⟩] := by
  rw [docLines, if_neg (by simpa using hdoc)]
  rfl

theorem closed_docLines (depth : Nat) (doc : List String) (rest : List Char) :
    Closed ((Line.renderAll (doc.map (docLine depth))).toList ++ rest)
      ↔ (∀ line ∈ doc, Closed line.toList) ∧ Closed rest := by
  have hspaces : ∀ c ∈ List.replicate (4 * depth) ' ', c ≠ '\\' ∧ c ≠ '*' := by
    intro c hc
    rw [List.eq_of_mem_replicate hc]
    decide
  have hmark : Closed " *".toList := ⟨" *".toList.map .raw, by decide, by
    simp [List.isChain_cons, EndsComment, InputChar.units, codeUnits]⟩
  induction doc with
  | nil => simp [Line.renderAll]
  | cons line doc ih =>
    have hline : Closed (docLine depth line).text.toList ↔ Closed line.toList := by
      rw [docLine]
      split
      · next hempty =>
        rw [String.isEmpty_iff.1 hempty]
        exact iff_of_true hmark closed_nil
      · have hsplit : (" * " ++ line).toList = " *".toList ++ ' ' :: line.toList := by simp
        rw [hsplit, closed_append_blank (by decide), and_iff_right hmark]
    have hsplit : (Line.renderAll ((line :: doc).map (docLine depth))).toList ++ rest
        = List.replicate (4 * depth) ' ' ++ ((docLine depth line).text.toList ++ '\n' ::
          ((Line.renderAll (doc.map (docLine depth))).toList ++ rest)) := by
      simp [toList_renderAll, docLine]
    rw [hsplit, closed_plain_append _ hspaces, closed_append_blank (by decide), hline,
      List.forall_mem_cons, and_assoc]
    exact and_congr_right fun _ => ih

/-- A documentation block is a comment exactly if none of its lines ends it. -/
theorem isComment_docLines (depth : Nat) {doc : List String} (hdoc : doc ≠ []) :
    IsComment (Line.renderAll (docLines depth doc)) ↔ ∀ line ∈ doc, Closed line.toList := by
  have hblock : (Line.renderAll (docLines depth doc)).toList
      = List.replicate (4 * depth) ' ' ++ '/' :: '*' :: (("*\n".toList
        ++ ((Line.renderAll (doc.map (docLine depth))).toList
          ++ List.replicate (4 * depth) ' ')) ++ " */\n".toList) := by
    rw [docLines_eq depth hdoc]
    simp [toList_renderAll]
  have hopening : ∀ rest, Closed ("*\n".toList ++ rest) ↔ Closed rest := by
    intro rest
    have hsplit : "*\n".toList ++ rest = ['*'] ++ '\n' :: rest := rfl
    have hstar : Closed ['*'] := ⟨[.raw '*'], rfl, .singleton _⟩
    rw [hsplit, closed_append_blank (by decide), and_iff_right hstar]
  have hspaces : Closed (List.replicate (4 * depth) ' ') := by
    have hplain := closed_plain_append (List.replicate (4 * depth) ' ')
      (fun c hc => by rw [List.eq_of_mem_replicate hc]; decide) []
    rw [List.append_nil] at hplain
    exact hplain.2 closed_nil
  have hcomment := isComment_iff_closed (4 * depth) ("*\n".toList
    ++ ((Line.renderAll (doc.map (docLine depth))).toList ++ List.replicate (4 * depth) ' '))
  rw [← hblock, String.ofList_toList] at hcomment
  rw [hcomment, hopening, closed_docLines, and_iff_left hspaces]

end Java

/-! ## The documentation of an item -/

namespace Emitter

variable (e : Emitter)

/-- The documentation lines of an item; those of a function also tell about its parameters. -/
def docOf (item : Item) : List String :=
  e.doc item ++ if item.kind = .function then item.parameters.flatMap e.parameterDoc else []

/-- The comments that the documentation of an item is made of are safe. -/
def Harmless (item : Item) : Prop :=
  Comments.Safe item.comments.toList
    ∧ (item.kind = .function → ∀ p ∈ item.parameters, Comments.Safe p.comments.toList)

theorem closed_doc (hcomments : e.options.includeComments = true) (item : Item) :
    (∀ line ∈ e.doc item, Java.Closed line.toList) ↔ Comments.Safe item.comments.toList := by
  rw [doc, if_pos hcomments, Comments.forall_closed_lines]

theorem closed_parameterDoc (hcomments : e.options.includeComments = true) {p : Item}
    (hname : Java.isIdentifier p.name = true) :
    (∀ line ∈ e.parameterDoc p, Java.Closed line.toList) ↔ Comments.Safe p.comments.toList := by
  rw [parameterDoc, hcomments, Bool.true_and]
  split
  · have hplain : ∀ c ∈ p.name.toList, c ≠ '\\' ∧ c ≠ '*' := by
      intro c hc
      have hpart := Java.isPart_of_mem hname hc
      constructor <;> (rintro rfl; revert hpart; decide)
    have hsplit : ("@param " ++ p.name ++ " "
        ++ String.intercalate " " (Comments.lines p.comments)).toList
        = "@param ".toList ++ (p.name.toList ++ (" ".toList
          ++ [' '].intercalate ((Comments.lines p.comments).map String.toList))) := by
      simp [String.toList_intercalate]
    rw [List.forall_mem_singleton, hsplit, Java.closed_plain_append _ (by simp),
      Java.closed_plain_append _ hplain, Java.closed_plain_append _ (by simp), Java.Closed,
      Java.neighbours_intercalate (fun _ _ h => h) (by decide), List.forall_mem_map]
    exact Comments.forall_closed_lines p.comments
  · next hblank =>
    have hall : ∀ c ∈ p.comments.toList, Text.isBlank c = true := by
      simpa [Text.isAllBlank] using hblank
    have hsafe := Java.neighbours_blanks_append
      (R := fun a b => Java.EndsComment a b → a = .raw '*' ∧ b = .raw '/')
      (fun _ _ hnot h => absurd h hnot) _ [] hall
    rw [List.append_nil] at hsafe
    exact iff_of_true (by simp) (hsafe.2 Java.neighbours_nil)

/-- The documentation of an item whose parameters can be declared ends no comment exactly if the
    comments in the tree are safe. -/
theorem closed_docOf (hcomments : e.options.includeComments = true) {item : Item}
    (hnames : item.kind = .function → ∀ p ∈ item.parameters, Java.isIdentifier p.name = true) :
    (∀ line ∈ e.docOf item, Java.Closed line.toList) ↔ Harmless item := by
  rw [docOf, List.forall_mem_append, e.closed_doc hcomments, Harmless]
  refine and_congr_right fun _ => ?_
  split
  · next hkind =>
    simp only [List.forall_mem_flatMap, hkind, forall_const]
    exact forall₂_congr fun p hp => e.closed_parameterDoc hcomments (hnames hkind p hp)
  · next hkind => simp [hkind]

/-! ## Documentation in emitted classes -/

variable {e}

theorem signature_docs {fullName : String} {items : List Item} {s : Signature}
    (h : e.signature fullName items = .ok s) :
    s.parameterDocs = (items.filter (·.kind = .parameter)).flatMap e.parameterDoc
      ∧ ∀ p ∈ items, Java.isIdentifier p.name = true := by
  induction items generalizing s with
  | nil =>
    cases h
    exact ⟨rfl, by simp⟩
  | cons child rest ih =>
    obtain ⟨⟨⟩, hname, h⟩ := bind_eq_ok.1 h
    have hidentifier := Item.isIdentifier_of_checkName hname
    cases hkind : child.kind with
    | parameter =>
      simp only [hkind, bind_eq_ok, pure_eq_ok] at h
      obtain ⟨type, -, others, hothers, rfl⟩ := h
      obtain ⟨hdocs, hnames⟩ := ih hothers
      exact ⟨by simp [hkind, hdocs], List.forall_mem_cons.2 ⟨hidentifier, hnames⟩⟩
    | «variable» =>
      simp only [hkind, bind_eq_ok, pure_eq_ok] at h
      obtain ⟨type, -, initializer, -, others, hothers, rfl⟩ := h
      obtain ⟨hdocs, hnames⟩ := ih hothers
      exact ⟨by simp [hkind, hdocs], List.forall_mem_cons.2 ⟨hidentifier, hnames⟩⟩
    | project | package | classItem | function => simp [hkind] at h

theorem method_doc {function : Item} (hkind : function.kind = .function) {fullName : String}
    {isStatic : Bool} {m : JavaMethod} {readsInput : Bool}
    (h : e.method function fullName isStatic = .ok (m, readsInput)) :
    m.doc = e.docOf function ∧ ∀ p ∈ function.parameters, Java.isIdentifier p.name = true := by
  rw [method] at h
  cases hreturn : function.returnType with
  | none => simp [hreturn] at h
  | some typeName =>
    simp only [hreturn, bind_eq_ok, pure_eq_ok, Prod.mk.injEq] at h
    obtain ⟨type, -, s, hs, body, -, rfl, -⟩ := h
    obtain ⟨hdocs, hnames⟩ := signature_docs hs
    constructor
    · rw [docOf, if_pos hkind, Item.parameters, Item.childrenOfKind, ← hdocs]
    · intro p hp
      exact hnames p (List.mem_of_mem_filter hp)

theorem field_doc {item : Item} (hkind : item.kind = .variable) {fullName : String}
    {modifiers : List JavaModifier} {f : JavaField}
    (h : e.field item fullName modifiers = .ok f) : f.doc = e.docOf item := by
  simp only [field, bind_eq_ok, pure_eq_ok] at h
  obtain ⟨type, -, initializer, -, rfl⟩ := h
  simp [docOf, hkind]

theorem members_docs {fullName : String} {items : List Item} {m : Members}
    (h : e.members fullName items = .ok m) :
    m.fields.map (·.doc) = (items.filter (·.kind = .variable)).map e.docOf
      ∧ m.methods.map (·.doc) = (items.filter (·.kind = .function)).map e.docOf
      ∧ ∀ item ∈ items, item.kind = .function →
        ∀ p ∈ item.parameters, Java.isIdentifier p.name = true := by
  induction items generalizing m with
  | nil =>
    cases h
    exact ⟨rfl, rfl, by simp⟩
  | cons child rest ih =>
    obtain ⟨⟨⟩, -, h⟩ := bind_eq_ok.1 h
    cases hkind : child.kind with
    | «variable» =>
      simp only [hkind, bind_eq_ok, pure_eq_ok] at h
      obtain ⟨f, hf, others, hothers, rfl⟩ := h
      obtain ⟨hfields, hmethods, hnames⟩ := ih hothers
      refine ⟨by simp [hkind, field_doc hkind hf, hfields], by simp [hkind, hmethods],
        List.forall_mem_cons.2 ⟨fun hfunction => ?_, hnames⟩⟩
      rw [hkind] at hfunction
      cases hfunction
    | function =>
      simp only [hkind, bind_eq_ok, pure_eq_ok] at h
      obtain ⟨⟨method, readsInput⟩, hmethod, others, hothers, rfl⟩ := h
      obtain ⟨hfields, hmethods, hnames⟩ := ih hothers
      obtain ⟨hdoc, hparameters⟩ := method_doc hkind hmethod
      exact ⟨by simp [hkind, hfields], by simp [hkind, hdoc, hmethods],
        List.forall_mem_cons.2 ⟨fun _ => hparameters, hnames⟩⟩
    | project | package | classItem | parameter => simp [hkind] at h

end Emitter

/-- The documentation of a class and of its members in the order of its text, with their depths. -/
def JavaClass.docs (c : JavaClass) : List (Nat × List String) :=
  (0, c.doc) :: (c.fields.map (·.doc) ++ c.methods.map (·.doc)).map fun doc => (1, doc)

/-- The blocks of documentation: where there is none there is no block. -/
def Java.docBlocks (docs : List (Nat × List String)) : List (List Java.Line) :=
  (docs.filter fun d => !d.2.isEmpty).map fun d => Java.docLines d.1 d.2

namespace Emitter

variable (e : Emitter)

/-- The items that are declared in the file of a unit, each with the depth of its declaration: the
    fields of a class stand before its methods. -/
def declarations (unit : DeclarationUnit) : List (Nat × Item) :=
  if unit.item.kind = .classItem then
    (0, unit.item) :: (unit.item.childrenOfKind .variable
      ++ unit.item.childrenOfKind .function).map fun item => (1, item)
  else [(1, unit.item)]

/-- The declarations that are documented. -/
def documented (unit : DeclarationUnit) : List (Nat × Item) :=
  (declarations unit).filter fun d => !(e.docOf d.2).isEmpty

variable {e} {unit : DeclarationUnit} {c : JavaClass}

/-- The method `main` has no documentation. -/
theorem doc_of_mem_entryMethods {entry : List JavaMethod} (h : e.entryMethods unit = .ok entry)
    {m : JavaMethod} (hm : m ∈ entry) : m.doc = [] := by
  have hsilent := e.entryMethods_silent unit
  have hsame : e.silent.entryMethods unit = e.entryMethods unit := rfl
  rw [hsame, h] at hsilent
  have hentry : entry = entry.map JavaMethod.withoutDoc := by simpa [Except.map] using hsilent
  rw [hentry] at hm
  obtain ⟨other, -, rfl⟩ := List.mem_map.1 hm
  rfl

theorem filter_docs (h : e.publicClass unit = .ok c) :
    c.docs.filter (fun d => !d.2.isEmpty)
      = (e.documented unit).map fun d => (d.1, e.docOf d.2) := by
  have hscanner : ∀ readsInput, ((scannerFields readsInput).map
      ((fun doc => (1, doc)) ∘ JavaField.doc)).filter (fun d => !d.2.isEmpty) = [] := by decide
  have hfiltered : (e.documented unit).map (fun d => (d.1, e.docOf d.2))
      = ((declarations unit).map fun d => (d.1, e.docOf d.2)).filter fun d => !d.2.isEmpty := by
    rw [documented, List.filter_map]
    rfl
  rw [hfiltered, JavaClass.docs, declarations]
  cases hkind : unit.item.kind with
  | classItem =>
    simp only [publicClass, hkind, classOf, bind_eq_ok, pure_eq_ok] at h
    obtain ⟨m, hm, rfl⟩ := h
    obtain ⟨hfields, hmethods, -⟩ := members_docs hm
    have hclass : e.docOf unit.item = e.doc unit.item := by simp [docOf, hkind]
    rw [if_pos rfl, List.map_cons, hclass, List.filter_cons, List.filter_cons]
    simp only [List.map_append, List.filter_append, hscanner, hfields, hmethods, List.map_map,
      List.nil_append, Item.childrenOfKind]
    rfl
  | function =>
    simp only [publicClass, hkind, functionClass, bind_eq_ok, pure_eq_ok] at h
    obtain ⟨⟨m, readsInput⟩, hm, entry, hentry, rfl⟩ := h
    have hmain : (entry.map ((fun doc => (1, doc)) ∘ JavaMethod.doc)).filter
        (fun d => !d.2.isEmpty) = [] := by
      simp only [List.filter_eq_nil_iff, List.forall_mem_map]
      intro other hother
      simp [doc_of_mem_entryMethods hentry hother]
    rw [if_neg (by simp)]
    simp [List.filter_cons, (method_doc hkind hm).1, hscanner, hmain]
  | «variable» =>
    simp only [publicClass, hkind, variableClass, bind_eq_ok, pure_eq_ok] at h
    obtain ⟨f, hf, rfl⟩ := h
    simp [field_doc hkind hf]
  | project | package | parameter => simp [publicClass, hkind] at h

theorem isIdentifier_parameter (h : e.publicClass unit = .ok c) {d : Nat × Item}
    (hd : d ∈ declarations unit) (hfunction : d.2.kind = .function) :
    ∀ p ∈ d.2.parameters, Java.isIdentifier p.name = true := by
  rw [declarations] at hd
  cases hkind : unit.item.kind with
  | classItem =>
    simp only [publicClass, hkind, classOf, bind_eq_ok, pure_eq_ok] at h
    obtain ⟨m, hm, rfl⟩ := h
    obtain ⟨-, -, hnames⟩ := members_docs hm
    rw [if_pos hkind, List.mem_cons, List.mem_map] at hd
    obtain rfl | ⟨item, hitem, rfl⟩ := hd
    · rw [hkind] at hfunction
      cases hfunction
    · have hchild : item ∈ unit.item.children := by
        rcases List.mem_append.1 hitem with hitem | hitem
        · exact List.mem_of_mem_filter hitem
        · exact List.mem_of_mem_filter hitem
      exact hnames item hchild hfunction
  | function =>
    simp only [publicClass, hkind, functionClass, bind_eq_ok, pure_eq_ok] at h
    obtain ⟨⟨m, readsInput⟩, hm, entry, hentry, rfl⟩ := h
    rw [if_neg (by simp [hkind]), List.mem_singleton] at hd
    rw [hd]
    exact (method_doc hkind hm).2
  | «variable» =>
    rw [if_neg (by simp [hkind]), List.mem_singleton] at hd
    rw [hd, hkind] at hfunction
    cases hfunction
  | project | package | parameter => simp [publicClass, hkind] at h

end Emitter

/-! ## Blocks in a file -/

/-- Lines that come about if blocks are inserted into code, in this order. -/
inductive Inserted : List (List Java.Line) → List Java.Line → List Java.Line → Prop
  | nil : Inserted [] [] []
  | code {blocks : List (List Java.Line)} {code lines : List Java.Line} (line : Java.Line) :
    Inserted blocks code lines → Inserted blocks (line :: code) (line :: lines)
  | block {blocks : List (List Java.Line)} {code lines : List Java.Line} (block : List Java.Line) :
    Inserted blocks code lines → Inserted (block :: blocks) code (block ++ lines)

namespace Inserted

open Java

variable {blocks blocks' : List (List Line)} {code code' lines lines' : List Line}

theorem refl (code : List Line) : Inserted [] code code := by
  induction code with
  | nil => exact .nil
  | cons line code ih => exact .code line ih

theorem append (h : Inserted blocks code lines) (h' : Inserted blocks' code' lines') :
    Inserted (blocks ++ blocks') (code ++ code') (lines ++ lines') := by
  induction h with
  | nil => exact h'
  | code line _ ih => exact .code line ih
  | block block _ ih =>
    rw [List.append_assoc]
    exact .block block ih

theorem docLines (depth : Nat) (doc : List String) (h : Inserted blocks code lines) :
    Inserted (docBlocks [(depth, doc)] ++ blocks) code (docLines depth doc ++ lines) := by
  cases doc with
  | nil => exact h
  | cons line doc => exact .block _ h

end Inserted

namespace Java

theorem docBlocks_append (docs docs' : List (Nat × List String)) :
    docBlocks (docs ++ docs') = docBlocks docs ++ docBlocks docs' := by
  rw [docBlocks, docBlocks, docBlocks, List.filter_append, List.map_append]

theorem inserted_fields (fields : List JavaField) :
    Inserted (docBlocks (fields.map fun f => (1, f.doc)))
      ((fields.map JavaField.withoutDoc).flatMap (JavaField.lines 1))
      (fields.flatMap (JavaField.lines 1)) := by
  induction fields with
  | nil => exact .nil
  | cons f fields ih =>
    have hfield : Inserted (docBlocks [(1, f.doc)] ++ []) (f.withoutDoc.lines 1) (f.lines 1) :=
      (Inserted.refl _).docLines 1 f.doc
    rw [List.append_nil] at hfield
    exact docBlocks_append [(1, f.doc)] _ ▸ hfield.append ih

theorem inserted_methods (afterMember : Bool) (methods : List JavaMethod) :
    Inserted (docBlocks (methods.map fun m => (1, m.doc)))
      (JavaClass.methodLines afterMember (methods.map JavaMethod.withoutDoc))
      (JavaClass.methodLines afterMember methods) := by
  induction methods generalizing afterMember with
  | nil => exact .nil
  | cons m methods ih =>
    have hmethod : Inserted (docBlocks [(1, m.doc)] ++ []) (m.withoutDoc.lines 1) (m.lines 1) := by
      rw [JavaMethod.lines, JavaMethod.lines, List.append_assoc, List.append_assoc]
      exact (Inserted.refl _).docLines 1 m.doc
    rw [List.append_nil] at hmethod
    have hempty := Inserted.refl (if afterMember then [⟨0, ""⟩] else [])
    exact docBlocks_append [(1, m.doc)] _ ▸ (hempty.append hmethod).append (ih true)

theorem inserted_class (c : JavaClass) :
    Inserted (docBlocks c.docs) c.withoutDocs.lines c.lines := by
  have hdocs : docBlocks c.docs = docBlocks [(0, c.doc)]
      ++ (docBlocks (c.fields.map fun f => (1, f.doc))
        ++ (docBlocks (c.methods.map fun m => (1, m.doc)) ++ [])) := by
    rw [List.append_nil, ← docBlocks_append, ← docBlocks_append, JavaClass.docs]
    simp [Function.comp_def]
  have hfields : (c.fields.map JavaField.withoutDoc).isEmpty = c.fields.isEmpty := by simp
  have hmembers := (inserted_fields c.fields).append
    ((inserted_methods (!c.fields.isEmpty) c.methods).append (.refl [⟨0, "\x7d"⟩]))
  have hclass := (Inserted.code ⟨0, "public class " ++ c.name ++ " \x7b"⟩ hmembers).docLines 0 c.doc
  rw [hdocs, JavaClass.lines, JavaClass.lines]
  simpa [JavaClass.withoutDocs, Java.docLines, hfields] using hclass

end Java

namespace Emitter

open Java

variable {e : Emitter} {unit : DeclarationUnit} {file : GeneratedFile}

/-- The file of a unit is the one written without comments with the documentation blocks of its
    declarations inserted, and such a block is a comment exactly if the comments that it is made of
    are safe. -/
theorem emit_docBlocks (h : e.emit unit = .ok file) :
    ∃ code lines, e.silent.emit unit = .ok { file with contents := Line.renderAll code }
      ∧ file.contents = Line.renderAll lines
      ∧ Inserted ((e.documented unit).map fun d => docLines d.1 (e.docOf d.2)) code lines
      ∧ ∀ d ∈ e.documented unit,
        (IsComment (Line.renderAll (docLines d.1 (e.docOf d.2))) ↔ Harmless d.2) := by
  rw [emit_eq_map] at h
  cases hclass : e.publicClass unit with
  | error error => simp [hclass, Except.map] at h
  | ok c =>
    have hfile : unit.file c = file := by simpa [hclass, Except.map] using h
    subst hfile
    have hinserted : Inserted (docBlocks c.docs)
        (⟨0, "package " ++ unit.package ++ ";"⟩ :: ⟨0, ""⟩ :: c.withoutDocs.lines)
        (⟨0, "package " ++ unit.package ++ ";"⟩ :: ⟨0, ""⟩ :: c.lines) :=
      .code _ (.code _ (inserted_class c))
    rw [docBlocks, filter_docs hclass, List.map_map] at hinserted
    refine ⟨_, _, ?_, rfl, hinserted, ?_⟩
    · rw [emit_eq_map, publicClass_silent, hclass]
      rfl
    · intro d hd
      obtain ⟨hdeclared, hdoc⟩ := List.mem_filter.1 hd
      have hcomments : e.options.includeComments = true := by
        by_contra hsilent
        simp [docOf, doc, parameterDoc, hsilent] at hdoc
      rw [isComment_docLines d.1 (by simpa using hdoc)]
      exact e.closed_docOf hcomments fun hkind => isIdentifier_parameter hclass hdeclared hkind

/-- A class alone, with comments. -/
def drawerUnit (comments : String) : DeclarationUnit where
  item := { name := "Drawer", kind := .classItem, comments }
  fullName := "Demo.Drawer"
  package := "Demo"
  directory := ⟨"Demo"⟩

/-- The emitter of a project that nothing else is declared in. -/
def drawerEmitter : Emitter := ⟨⟨[], []⟩, {}⟩

theorem drawer_mem_documented {comments : String}
    (h : (drawerEmitter.docOf (drawerUnit comments).item).isEmpty = false) :
    (0, (drawerUnit comments).item) ∈ drawerEmitter.documented (drawerUnit comments) := by
  refine List.mem_filter.2 ⟨?_, by simp [h]⟩
  simp [declarations, drawerUnit]

theorem drawer_isComment_iff :
    (∃ file, drawerEmitter.emit (drawerUnit "Left */ right.\nNo \\u002a else.") = .ok file)
      ∧ (IsComment "/**\n * Left *&#47; right.\n * No \\u002a else.\n */\n"
        ↔ Harmless (drawerUnit "Left */ right.\nNo \\u002a else.").item) := by
  have hemits : ∃ file, drawerEmitter.emit (drawerUnit "Left */ right.\nNo \\u002a else.")
      = .ok file := ⟨_, rfl⟩
  refine ⟨hemits, ?_⟩
  obtain ⟨file, hfile⟩ := hemits
  obtain ⟨code, lines, -, -, -, hblocks⟩ := emit_docBlocks hfile
  have hblock := hblocks _ (drawer_mem_documented (by decide +kernel))
  have htext : Line.renderAll (docLines 0 (drawerEmitter.docOf
      (drawerUnit "Left */ right.\nNo \\u002a else.").item))
      = "/**\n * Left *&#47; right.\n * No \\u002a else.\n */\n" := by decide +kernel
  rwa [htext] at hblock

/-- An end that is spelled with an escape is not replaced. -/
theorem openDrawer_not_isComment :
    ∃ file, drawerEmitter.emit (drawerUnit "open *\\u002f closed") = .ok file
      ∧ ∃ d ∈ drawerEmitter.documented (drawerUnit "open *\\u002f closed"),
        ¬ IsComment (Line.renderAll (docLines d.1 (drawerEmitter.docOf d.2))) :=
  ⟨_, rfl, _, drawer_mem_documented (by decide +kernel), by decide +kernel⟩

end Emitter

end Flowchart
