import Flowchart.Java.JavaStmt
import Flowchart.Proofs.Braces

set_option autoImplicit false

/-! # Indentation of statements

The text of statements has one line for each of their lines, whatever their literals say. Every line
is indented by the braces that are open before it, and all braces are closed at its end. So
statements at some depth are written as at depth zero, with spaces in front of every line. -/

namespace Flowchart

namespace Java

variable {words : List String} {text : String} {margin braces left : Nat}

/-! ## Lines and open braces -/

/-- The level of a line with some content, in code at a given level: a closing brace at its start
    belongs to the level around. -/
def contentLevel (level : Nat) (content : List Char) : Nat :=
  if content.head? = some '\x7d' then level - 1 else level

/-- A text that can be read without open braces does not start with a closing one. -/
theorem contentLevel_eq {s : Nesting} {content : List Char} (level : Nat)
    (h : (Nesting.code 0).after content = some s) : contentLevel level content = level := by
  refine if_neg fun hhead => ?_
  obtain ⟨rest, rfl⟩ := List.head?_eq_some_iff.1 hhead
  cases h

namespace Line

/-- The characters of a line, without its line break. -/
def chars (l : Line) : List Char := List.replicate (4 * l.depth) ' ' ++ l.text.toList

theorem toList_renderAll_eq (ls : List Line) :
    (renderAll ls).toList = Text.ofLines (ls.map chars) := by
  simp [renderAll, render, Text.ofLines, chars, List.flatMap_map]

/-- The line moved by some levels. -/
def deeper (depth : Nat) (l : Line) : Line := ⟨depth + l.depth, l.text⟩

theorem chars_deeper (depth : Nat) (l : Line) :
    (l.deeper depth).chars = List.replicate (4 * depth) ' ' ++ l.chars := by
  simp only [chars, deeper, Nat.mul_add, List.replicate_add, List.append_assoc]

/-- A line that starts with some braces open and leaves some open. It is as deep as the braces say
    from a margin on. -/
structure Step (words : List String) (margin braces : Nat) (l : Line) (left : Nat) : Prop where
  breaksIn : BreaksIn words l.text
  after_eq : (Nesting.code braces).after l.text.toList = some (.code left)
  depth_eq : l.depth = contentLevel (margin + braces) l.text.toList

namespace Step

/-- A line that closes no brace that was open before it. -/
theorem of_after (opened : Nat) (hbreaks : BreaksIn words text)
    (h : ∀ n, (Nesting.code n).after text.toList = some (.code (n + opened))) :
    Step words margin braces ⟨margin + braces, text⟩ (braces + opened) where
  breaksIn := hbreaks
  after_eq := h braces
  depth_eq := (contentLevel_eq _ (h 0)).symm

/-- A line that starts with a closing brace. -/
theorem of_closing {rest : List Char} (hbreaks : BreaksIn words text)
    (htext : text.toList = '\x7d' :: rest)
    (h : (Nesting.code braces).after rest = some (.code left)) :
    Step words margin (braces + 1) ⟨margin + braces, text⟩ left where
  breaksIn := hbreaks
  after_eq := by
    rw [htext]
    exact h
  depth_eq := by
    rw [htext]
    exact (if_pos rfl).symm

theorem closing : Step words margin (braces + 1) ⟨margin + braces, "\x7d"⟩ braces :=
  of_closing breaksIn_closingBrace rfl rfl

section

variable (hplain : ∀ w ∈ words, IsPlain w)

include hplain

theorem composed (h : Composed words text) :
    Step words margin braces ⟨margin + braces, text⟩ braces :=
  of_after 0 h.breaksIn (h.after_code hplain)

theorem opening (h : Composed words text) :
    Step words margin braces ⟨margin + braces, text ++ "\x7b"⟩ (braces + 1) := by
  refine of_after 1 (h.breaksIn.append breaksIn_openingBrace) fun n => ?_
  rw [String.toList_append, Nesting.after_append, h.after_code hplain]
  rfl

/-- A line that closes a block and opens another one. -/
theorem between (h : Composed words text) :
    Step words margin (braces + 1) ⟨margin + braces, "\x7d" ++ (text ++ "\x7b")⟩ (braces + 1) := by
  have hopening : Step words margin braces _ _ := opening hplain h
  exact of_closing (breaksIn_closingBrace.append hopening.breaksIn)
    (String.toList_append ..) hopening.after_eq

end

end Step

/-- Lines that follow each other, from some open braces to others. -/
inductive Nested (words : List String) (margin : Nat) : Nat → List Line → Nat → Prop
  | nil (braces : Nat) : Nested words margin braces [] braces
  | cons {braces between left : Nat} {l : Line} {ls : List Line}
      (step : Step words margin braces l between) (rest : Nested words margin between ls left) :
      Nested words margin braces (l :: ls) left

namespace Nested

variable {ls before after : List Line} {l : Line} {between : Nat}

theorem append (h : Nested words margin braces before between)
    (h' : Nested words margin between after left) :
    Nested words margin braces (before ++ after) left := by
  induction h with
  | nil => exact h'
  | cons step rest ih => exact .cons step (ih h')

theorem split (h : Nested words margin braces (before ++ l :: after) left) :
    ∃ n m, Nested words margin braces before n ∧ Step words margin n l m := by
  induction before generalizing braces with
  | nil =>
    cases h with
    | cons step rest => exact ⟨_, _, .nil _, step⟩
  | cons first before ih =>
    cases h with
    | cons step rest =>
      obtain ⟨n, m, hbefore, hl⟩ := ih rest
      exact ⟨n, m, .cons step hbefore, hl⟩

theorem breaksIn (h : Nested words margin braces ls left) : ∀ l ∈ ls, BreaksIn words l.text := by
  induction h with
  | nil => exact List.forall_mem_nil _
  | cons step rest ih => exact List.forall_mem_cons.2 ⟨step.breaksIn, ih⟩

theorem after_eq (h : Nested words margin braces ls left) :
    (Nesting.code braces).after (Text.ofLines (ls.map chars)) = some (.code left) := by
  induction h with
  | nil => rfl
  | @cons braces between left l ls step rest ih =>
    have hspaces : (Nesting.code braces).after (List.replicate (4 * l.depth) ' ')
        = some (.code braces) := Nesting.after_code (fun c hc => by
      rw [List.eq_of_mem_replicate hc]
      decide) braces
    rw [List.map_cons, Text.ofLines_cons, chars, Nesting.after_append, Nesting.after_append,
      hspaces, Option.bind_some, step.after_eq]
    exact ih

/-- No word breaks a line, so the lines of the text are the lines that were written. -/
theorem lines_eq (h : Nested words margin braces ls left) (hplain : ∀ w ∈ words, IsPlain w) :
    Text.lines (renderAll ls).toList = ls.map chars := by
  rw [toList_renderAll_eq]
  refine Text.lines_ofLines (List.forall_mem_map.2 fun l hl hbreak => ?_)
  rw [chars, List.mem_append, List.mem_replicate] at hbreak
  obtain ⟨-, hspace⟩ | hbreak := hbreak
  · cases hspace
  · obtain ⟨w, hw, hmem⟩ := h.breaksIn l hl _ hbreak (Or.inl rfl)
    exact hplain w hw _ hmem (by decide)

/-- Each line of the text is indented by the braces that the lines before it leave open. -/
theorem exists_indented (h : Nested words margin 0 ls left) {before after : List (List Char)}
    {line : List Char} (hsplit : ls.map chars = before ++ line :: after) :
    ∃ l ∈ ls, ∃ braces, (Nesting.code 0).after (Text.ofLines before) = some (.code braces)
      ∧ line = List.replicate (4 * contentLevel (margin + braces) l.text.toList) ' '
        ++ l.text.toList := by
  obtain ⟨first, second, rfl, rfl, hsecond⟩ := List.map_eq_append_iff.1 hsplit
  obtain ⟨l, rest, rfl, rfl, rfl⟩ := List.map_eq_cons_iff.1 hsecond
  obtain ⟨braces, _, hbefore, hstep⟩ := h.split
  refine ⟨l, List.mem_append_right _ List.mem_cons_self, braces, hbefore.after_eq, ?_⟩
  rw [chars, hstep.depth_eq]

theorem exists_of_return_mem (h : Nested words margin braces ls left)
    (hmem : '\r' ∈ (renderAll ls).toList) : ∃ w ∈ words, '\r' ∈ w.toList := by
  rw [toList_renderAll_eq, Text.ofLines, List.mem_flatMap] at hmem
  obtain ⟨_, hline, hmem⟩ := hmem
  obtain ⟨l, hl, rfl⟩ := List.mem_map.1 hline
  simp only [chars, List.mem_append, List.mem_replicate, List.mem_singleton] at hmem
  obtain (⟨-, hspace⟩ | hmem) | hbreak := hmem
  · cases hspace
  · exact h.breaksIn l hl _ hmem (Or.inr rfl)
  · cases hbreak

end Nested

end Line

end Java

/-! ## Words, leads and lengths -/

namespace JavaStmt

open Java Line

mutual

/-- The names, types, operators and methods in a statement. -/
def words : JavaStmt → List String
  | .expression e | .print e | .return (some e) => e.words
  | .return none => []
  | .assign target value => target.words ++ value.words
  | .ifElse condition thenBranch none => condition.words ++ wordsAll thenBranch
  | .ifElse condition thenBranch (some elseBranch) =>
    condition.words ++ (wordsAll thenBranch ++ wordsAll elseBranch)
  | .localVariable type name initializer => type.render :: name :: initializer.words
  | .readInput target method fallback => method :: (target.words ++ fallback.words)

/-- The words of several statements. -/
def wordsAll : List JavaStmt → List String
  | [] => []
  | s :: rest => s.words ++ wordsAll rest

end

mutual

/-- The expressions and types that lines of a statement start with, as they are written. -/
def leads : JavaStmt → List String
  | .expression e => [e.render]
  | .assign target _ | .readInput target _ _ => [target.render]
  | .localVariable type _ _ => [type.render]
  | .return _ | .print _ => []
  | .ifElse _ thenBranch none => leadsAll thenBranch
  | .ifElse _ thenBranch (some elseBranch) => leadsAll thenBranch ++ leadsAll elseBranch

/-- The leads of several statements. -/
def leadsAll : List JavaStmt → List String
  | [] => []
  | s :: rest => s.leads ++ leadsAll rest

end

mutual

/-- The number of lines of a statement; its expressions play no part. -/
def lineCount : JavaStmt → Nat
  | .expression _ | .assign _ _ | .return _ | .localVariable _ _ _ | .print _ => 1
  | .ifElse _ thenBranch none => lineCountAll thenBranch + 2
  | .ifElse _ thenBranch (some elseBranch) => lineCountAll thenBranch + lineCountAll elseBranch + 3
  | .readInput _ _ _ => 9

/-- The number of lines of several statements. -/
def lineCountAll : List JavaStmt → Nat
  | [] => 0
  | s :: rest => s.lineCount + lineCountAll rest

end

theorem lineCount_pos (s : JavaStmt) : 0 < s.lineCount := by
  match s with
  | .expression _ | .assign _ _ | .return _ | .localVariable _ _ _ | .print _ | .readInput _ _ _ =>
    simp [lineCount]
  | .ifElse _ _ none | .ifElse _ _ (some _) => simp [lineCount]

/-! ## Lines of statements -/

mutual

theorem length_lines (depth : Nat) : (s : JavaStmt) → (s.lines depth).length = s.lineCount
  | .expression _ | .assign _ _ | .return none | .return (some _) | .localVariable _ _ _
  | .print _ | .readInput _ _ _ => rfl
  | .ifElse _ thenBranch none => by
    have hthen := length_linesAll (depth + 1) thenBranch
    simp only [lines, lineCount, List.length_append, List.length_cons, List.length_nil]
    omega
  | .ifElse _ thenBranch (some elseBranch) => by
    have hthen := length_linesAll (depth + 1) thenBranch
    have helse := length_linesAll (depth + 1) elseBranch
    simp only [lines, lineCount, List.length_append, List.length_cons, List.length_nil]
    omega

theorem length_linesAll (depth : Nat) :
    (body : List JavaStmt) → (linesAll depth body).length = lineCountAll body
  | [] => rfl
  | s :: rest => by
    rw [linesAll, lineCountAll, List.length_append, length_lines depth s,
      length_linesAll depth rest]

end

mutual

/-- Statements are written deeper by moving each of their lines. -/
theorem lines_add (depth inner : Nat) :
    (s : JavaStmt) → s.lines (depth + inner) = (s.lines inner).map (deeper depth)
  | .expression _ | .assign _ _ | .return none | .return (some _) | .localVariable _ _ _
  | .print _ | .readInput _ _ _ => rfl
  | .ifElse _ thenBranch none => by
    simp only [lines, Nat.add_assoc, linesAll_add depth (inner + 1) thenBranch, List.map_append,
      List.map_cons, List.map_nil, deeper]
  | .ifElse _ thenBranch (some elseBranch) => by
    simp only [lines, Nat.add_assoc, linesAll_add depth (inner + 1) thenBranch,
      linesAll_add depth (inner + 1) elseBranch, List.map_append, List.map_cons, List.map_nil,
      deeper]

theorem linesAll_add (depth inner : Nat) : (body : List JavaStmt) →
    linesAll (depth + inner) body = (linesAll inner body).map (deeper depth)
  | [] => rfl
  | s :: rest => by
    rw [linesAll, linesAll, List.map_append, lines_add depth inner s, linesAll_add depth inner rest]

end

/-! ## Braces of statements -/

section

variable {ws : List String} {margin : Nat}

section

variable (hplain : ∀ w ∈ ws, IsPlain w)

include hplain

theorem step_assign (braces : Nat) {target value : JavaExpr} (htarget : target.words ⊆ ws)
    (hvalue : value.words ⊆ ws) :
    Step ws margin braces ⟨margin + braces, target.render ++ " = " ++ value.render ++ ";"⟩
      braces := by
  have hleft : Composed ws (target.render ++ " = ") :=
    (target.composed_render htarget).followed (by decide)
  exact .composed hplain ((hleft.append (value.composed_render hvalue)).followed (by decide))

/-- The lines of a guarded reading: a block that is tried, and one that holds another block. -/
theorem nested_readInputLines (braces : Nat) {target fallback : JavaExpr} {method : String}
    (htarget : target.words ⊆ ws) (hmethod : method ∈ ws) (hfallback : fallback.words ⊆ ws) :
    Nested ws margin braces (readInputLines (margin + braces) target method fallback) braces := by
  have hleft : Composed ws (target.render ++ " = " ++ inputScanner ++ ".") :=
    (((target.composed_render htarget).followed (by decide)).followed (by decide)).followed
      (by decide)
  have hread : Composed ws (target.render ++ " = " ++ inputScanner ++ "." ++ method ++ "();") :=
    (hleft.append (.word hmethod)).followed (by decide)
  have htry : Composed ws "try " := .inert (by decide)
  have hcatch : Composed ws (" catch (Exception " ++ inputError ++ ") ") := .inert (by decide)
  have hrejected : Composed ws ("if (" ++ inputScanner ++ ".hasNext()) ") := .inert (by decide)
  refine .cons (.opening hplain htry) (.cons (.composed hplain hread) ?_)
  refine .cons (.between hplain hcatch) ?_
  refine .cons (step_assign hplain (braces + 1) htarget hfallback) ?_
  refine .cons (.composed hplain (.enclosed (by decide) (.literal _) (by decide))) ?_
  refine .cons (.opening hplain hrejected) (.cons (.composed hplain (.inert (by decide))) ?_)
  exact .cons .closing (.cons .closing (.nil braces))

theorem nested_condition {braces : Nat} {condition : JavaExpr} (h : condition.words ⊆ ws)
    {ls : List Line} (hls : Nested ws margin (braces + 1) ls (braces + 1)) :
    Nested ws margin braces (⟨margin + braces, "if (" ++ condition.render ++ ") \x7b"⟩ :: ls)
      (braces + 1) := by
  have hline : Composed ws ("if (" ++ condition.render ++ ") ") :=
    .enclosed (by decide) (condition.composed_render h) (by decide)
  have hsplit : ") \x7b" = ") " ++ "\x7b" := rfl
  rw [hsplit, ← String.append_assoc]
  exact .cons (.opening hplain hline) hls

end

mutual

/-- A statement leaves open the braces that were open before it, and its lines are as deep as they
    say. The branches of a statement have one more brace open, and stand one level deeper. -/
theorem nested_lines (hplain : ∀ w ∈ ws, IsPlain w) (braces : Nat) :
    (s : JavaStmt) → s.words ⊆ ws → Nested ws margin braces (s.lines (margin + braces)) braces
  | .expression e, h =>
    .cons (.composed hplain ((e.composed_render h).followed (by decide))) (.nil braces)
  | .assign target value, h => by
    obtain ⟨htarget, hvalue⟩ := List.append_subset.1 h
    exact .cons (step_assign hplain braces htarget hvalue) (.nil braces)
  | .return none, _ => .cons (.composed hplain (.inert (by decide))) (.nil braces)
  | .return (some e), h => by
    have hline : Composed ws ("return " ++ e.render ++ ";") :=
      .enclosed (by decide) (e.composed_render h) (by decide)
    exact .cons (.composed hplain hline) (.nil braces)
  | .localVariable type name initializer, h => by
    obtain ⟨htype, h⟩ := List.cons_subset.1 h
    obtain ⟨hname, hinitializer⟩ := List.cons_subset.1 h
    have htyped : Composed ws (type.render ++ " ") := .followed (.word htype) (by decide)
    have hleft : Composed ws (type.render ++ " " ++ name ++ " = ") :=
      (htyped.append (.word hname)).followed (by decide)
    have hvalue := hleft.append (initializer.composed_render hinitializer)
    exact .cons (.composed hplain (hvalue.followed (by decide))) (.nil braces)
  | .print e, h => by
    have hline : Composed ws ("System.out.println(" ++ e.render ++ ");") :=
      .enclosed (by decide) (e.composed_render h) (by decide)
    exact .cons (.composed hplain hline) (.nil braces)
  | .ifElse condition thenBranch none, h => by
    obtain ⟨hcondition, hthen⟩ := List.append_subset.1 h
    have hopening := nested_condition hplain hcondition
      (nested_linesAll hplain (braces + 1) thenBranch hthen)
    exact hopening.append (.cons .closing (.nil braces))
  | .ifElse condition thenBranch (some elseBranch), h => by
    obtain ⟨hcondition, h⟩ := List.append_subset.1 h
    obtain ⟨hthen, helse⟩ := List.append_subset.1 h
    have hopening := nested_condition hplain hcondition
      (nested_linesAll hplain (braces + 1) thenBranch hthen)
    have hotherwise : Composed ws " else " := .inert (by decide)
    have hbetween := Nested.cons (.between hplain hotherwise)
      (nested_linesAll hplain (braces + 1) elseBranch helse)
    exact (hopening.append hbetween).append (.cons .closing (.nil braces))
  | .readInput target method fallback, h => by
    obtain ⟨hmethod, h⟩ := List.cons_subset.1 h
    obtain ⟨htarget, hfallback⟩ := List.append_subset.1 h
    exact nested_readInputLines hplain braces htarget hmethod hfallback

theorem nested_linesAll (hplain : ∀ w ∈ ws, IsPlain w) (braces : Nat) : (body : List JavaStmt) →
    wordsAll body ⊆ ws → Nested ws margin braces (linesAll (margin + braces) body) braces
  | [], _ => .nil braces
  | s :: rest, h => by
    obtain ⟨hs, hrest⟩ := List.append_subset.1 h
    exact (nested_lines hplain braces s hs).append (nested_linesAll hplain braces rest hrest)

end

end

/-! ## Content of lines -/

/-- A text whose first character, if there is one, is a space. -/
def StartsBlank (text : String) : Prop := ∀ c ∈ text.toList.head?, c = ' '

instance (text : String) : Decidable (StartsBlank text) :=
  decidable_of_iff (text.toList.head?.all (· == ' ')) (by
    simp [StartsBlank, Option.all_eq_true])

theorem StartsBlank.left {first second : String} (h : StartsBlank (first ++ second)) :
    StartsBlank first := by
  intro c hc
  refine h c ?_
  rw [String.toList_append, List.head?_append, hc]
  rfl

/-- Lines that start with a space only where they start with one of some texts. -/
def LedBy (texts : List String) (ls : List Line) : Prop :=
  ∀ l ∈ ls, StartsBlank l.text → ∃ lead ∈ texts, StartsBlank lead

namespace LedBy

variable {texts : List String} {depth : Nat} {text first : String} {ls before after : List Line}

theorem nil : LedBy texts [] := List.forall_mem_nil _

theorem lead (hmem : first ∈ texts) (h : StartsBlank text → StartsBlank first)
    (hls : LedBy texts ls) : LedBy texts (⟨depth, text⟩ :: ls) :=
  List.forall_mem_cons.2 ⟨fun hblank => ⟨first, hmem, h hblank⟩, hls⟩

theorem keyword (h : ¬ StartsBlank text) (hls : LedBy texts ls) :
    LedBy texts (⟨depth, text⟩ :: ls) :=
  List.forall_mem_cons.2 ⟨fun hblank => absurd hblank h, hls⟩

theorem append (hbefore : LedBy texts before) (hafter : LedBy texts after) :
    LedBy texts (before ++ after) :=
  List.forall_mem_append.2 ⟨hbefore, hafter⟩

theorem condition (depth : Nat) (e : JavaExpr) (hls : LedBy texts ls) :
    LedBy texts (⟨depth, "if (" ++ e.render ++ ") \x7b"⟩ :: ls) :=
  .keyword (fun hblank => absurd hblank.left.left (by decide)) hls

theorem closing : LedBy texts [⟨depth, "\x7d"⟩] := .keyword (by decide) .nil

theorem readInputLines {target fallback : JavaExpr} {method : String}
    (h : target.render ∈ texts) : LedBy texts (readInputLines depth target method fallback) := by
  -- each `left` takes the last part of a line away, down to the one that it starts with
  refine .keyword (by decide) (.lead h (fun hblank => hblank.left.left.left.left.left) ?_)
  refine .keyword (by decide) (.lead h (fun hblank => hblank.left.left.left) ?_)
  refine .keyword (fun hblank => absurd hblank.left.left (by decide)) ?_
  exact .keyword (by decide) (.keyword (by decide) (.keyword (by decide) .closing))

end LedBy

mutual

theorem ledBy_lines {texts : List String} (depth : Nat) :
    (s : JavaStmt) → s.leads ⊆ texts → LedBy texts (s.lines depth)
  | .expression e, h => .lead (h (List.mem_singleton_self _)) (fun hblank => hblank.left) .nil
  | .assign target value, h =>
    .lead (h (List.mem_singleton_self _)) (fun hblank => hblank.left.left.left) .nil
  | .return none, _ => .keyword (by decide) .nil
  | .return (some e), _ => .keyword (fun hblank => absurd hblank.left.left (by decide)) .nil
  | .localVariable type name initializer, h =>
    .lead (h (List.mem_singleton_self _)) (fun hblank => hblank.left.left.left.left.left) .nil
  | .print e, _ => .keyword (fun hblank => absurd hblank.left.left (by decide)) .nil
  | .ifElse condition thenBranch none, h => by
    have hopening := LedBy.condition depth condition (ledBy_linesAll (depth + 1) thenBranch h)
    exact hopening.append .closing
  | .ifElse condition thenBranch (some elseBranch), h => by
    obtain ⟨hthen, helse⟩ := List.append_subset.1 h
    have hopening := LedBy.condition depth condition (ledBy_linesAll (depth + 1) thenBranch hthen)
    have hotherwise : LedBy texts
        (⟨depth, "\x7d else \x7b"⟩ :: linesAll (depth + 1) elseBranch) :=
      .keyword (by decide) (ledBy_linesAll (depth + 1) elseBranch helse)
    exact (hopening.append hotherwise).append .closing
  | .readInput target method fallback, h => .readInputLines (h (List.mem_singleton_self _))

theorem ledBy_linesAll {texts : List String} (depth : Nat) : (body : List JavaStmt) →
    leadsAll body ⊆ texts → LedBy texts (linesAll depth body)
  | [], _ => .nil
  | s :: rest, h => by
    obtain ⟨hs, hrest⟩ := List.append_subset.1 h
    exact (ledBy_lines depth s hs).append (ledBy_linesAll depth rest hrest)

end

/-! ## Laid out texts -/

theorem linesAll_ne_nil {body : List JavaStmt} (h : body ≠ []) (depth : Nat) :
    linesAll depth body ≠ [] := by
  obtain ⟨s, rest, rfl⟩ := List.exists_cons_of_ne_nil h
  intro hnil
  have hlength := length_linesAll depth (s :: rest)
  have hpos := s.lineCount_pos
  rw [hnil, lineCountAll, List.length_nil] at hlength
  omega

theorem map_chars_linesAll (depth : Nat) (body : List JavaStmt) :
    (linesAll depth body).map chars
      = ((linesAll 0 body).map chars).map (List.replicate (4 * depth) ' ' ++ ·) := by
  rw [← Nat.add_zero depth, linesAll_add, List.map_map, List.map_map]
  exact List.map_congr_left fun l _ => chars_deeper depth l

/-- The text of statements at a depth is laid out by their blocks. -/
structure IsLaidOut (depth : Nat) (body : List JavaStmt) (text : String) : Prop where
  /-- Each line is that at depth zero behind four spaces for each level of the depth. -/
  shifted : text.toList = Text.ofLines
    ((Text.lines (renderAll 0 body).toList).map (List.replicate (4 * depth) ' ' ++ ·))
  empty : body = [] → text = ""
  ends : body ≠ [] → text.toList.getLast? = some '\n'
  /-- Every line begins outside string literals, and its content stands behind four spaces for each
      level of the depth and for each brace that is open before it, one less if it starts with a
      closing brace. There is a further space only if some statement begins with an expression or a
      type whose text is empty or begins with a space. -/
  indented : ∀ before line after, Text.lines text.toList = before ++ line :: after →
    ∃ braces content, (Nesting.code 0).after (Text.ofLines before) = some (.code braces)
      ∧ line = List.replicate (4 * contentLevel (depth + braces) content) ' ' ++ content
      ∧ (content.head? = some ' ' → ∃ lead ∈ leadsAll body, StartsBlank lead)
  /-- No brace outside string literals is left open, or closed without being open. -/
  closed : (Nesting.code 0).after text.toList = some (.code 0)
  /-- The number of lines does not depend on expressions, so no literal adds one. -/
  lineCount : (Text.lines text.toList).length = lineCountAll body
  /-- The other line terminator only stands where a word has it. -/
  returns : '\r' ∈ text.toList → ∃ w ∈ wordsAll body, '\r' ∈ w.toList

/-- Statements whose words are plain are laid out at every depth, whatever their literals are. -/
theorem renderAll_isLaidOut {body : List JavaStmt} (hplain : ∀ w ∈ wordsAll body, IsPlain w)
    (depth : Nat) : IsLaidOut depth body (renderAll depth body) := by
  have hnested : ∀ margin, Nested (wordsAll body) margin 0 (linesAll margin body) 0 := fun margin =>
    nested_linesAll hplain 0 body (List.Subset.refl _)
  have hlines : ∀ margin, Text.lines (renderAll margin body).toList
      = (linesAll margin body).map chars := fun margin => (hnested margin).lines_eq hplain
  have htext : (renderAll depth body).toList = Text.ofLines ((linesAll depth body).map chars) :=
    toList_renderAll_eq (linesAll depth body)
  constructor
  case shifted => rw [htext, hlines, map_chars_linesAll]
  case empty =>
    rintro rfl
    rfl
  case ends =>
    intro hbody
    rw [htext]
    exact Text.getLast?_ofLines (List.map_eq_nil_iff.not.2 (linesAll_ne_nil hbody depth))
  case indented =>
    intro before line after hsplit
    rw [hlines] at hsplit
    obtain ⟨l, hl, braces, hbefore, hline⟩ := (hnested depth).exists_indented hsplit
    refine ⟨braces, l.text.toList, hbefore, hline, fun hhead => ?_⟩
    have hblank : StartsBlank l.text := by
      intro c hc
      rw [hhead] at hc
      exact (Option.some.inj hc).symm
    exact ledBy_linesAll depth body (List.Subset.refl _) l hl hblank
  case closed =>
    rw [htext]
    exact (hnested depth).after_eq
  case lineCount => rw [hlines, List.length_map, length_linesAll]
  case returns => exact (hnested depth).exists_of_return_mem

/-- At depth one everything is one level deeper. -/
example : renderAll 1 [.ifElse (.boolean true) [.print (.text "\x7d\n")] none]
    = "    if (true) \x7b\n        System.out.println(\"\x7d\\n\");\n    \x7d\n" := by decide

/-- Statements with nested blocks, and with texts that look like the ends of lines and blocks. -/
def quiz : List JavaStmt :=
  [.readInput (.name "answer") "next" (.text "\x7d\n\""),
    .ifElse (.objectsEqual (.name "answer") (.text "\\\x7b"))
      [.ifElse (.boolean true) [.print (.text "\x7b \n \x7b")] none]
      (some [.localVariable .string "hint" (.text "\r\n"), .return none])]

theorem quiz_isLaidOut :
    (∀ w ∈ wordsAll quiz, IsPlain w) ∧ IsLaidOut 2 quiz (renderAll 2 quiz) :=
  ⟨by decide, renderAll_isLaidOut (by decide) 2⟩

end JavaStmt

end Flowchart
