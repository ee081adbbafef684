import Flowchart.Proofs.Actions
import Flowchart.Script.Condition
import Flowchart.Script.Expansion
import Flowchart.Script.Printing

set_option autoImplicit false

/-! # Evaluating is safe

Expressions, conditions, formats and the words of a script are evaluated by recursion over what they
are made of. Evaluating can assign variables, report errors and, in words, run commands; that
running commands is safe is an assumption here. -/

namespace Flowchart

open Flowchart.Action (IsSafe Respects RespectsWith)
open Shell (Becomes)

variable {α : Type}

/-! ## Arithmetic -/

namespace Arithmetic

theorem isSafe_fail (text message : String) : IsSafe (fail text message : Action α) :=
  Action.isSafe_fail _

theorem isSafe_valueOf (name : String) : IsSafe (valueOf name) := by
  refine .get fun s => ?_
  split
  · exact Respects.pure _ s
  · exact Respects.ite (.pure _) (.ite (.pure _) (Action.isSafe_fail _)) s

/-- Reading parts of an expression is safe, as far as there is fuel. -/
structure AllSafe (text : String) (fuel : Nat) : Prop where
  primary : ∀ live, RespectsWith Becomes (primary text fuel live)
  operations : ∀ live limit a, RespectsWith Becomes (operations text fuel live limit a)
  conjunction : ∀ live, RespectsWith Becomes (conjunction text fuel live)
  disjunction : ∀ live, RespectsWith Becomes (disjunction text fuel live)
  choice : ∀ live, RespectsWith Becomes (choice text fuel live)
  assignment : ∀ live, RespectsWith Becomes (assignment text fuel live)

namespace AllSafe

variable {text : String} {fuel : Nat}

theorem refuse (text message : String) :
    RespectsWith Becomes (liftM (fail text message : Action α) : Evaluation α) :=
  .lift (isSafe_fail text message)

theorem zero : AllSafe text 0 := by
  constructor <;> intros <;> exact refuse _ _

theorem primary_succ (h : AllSafe text fuel) (live : Bool) :
    RespectsWith Becomes (Arithmetic.primary text (fuel + 1) live) := by
  refine .bind .get fun tokens => ?_
  split
  · exact (RespectsWith.set _).then (.pure _)
  · refine (RespectsWith.set _).then ?_
    split
    · exact .lift (isSafe_valueOf _)
    · exact .pure _
  · refine (RespectsWith.set _).then ?_
    split
    · refine (h.assignment live).bind fun n => .bind .get fun tokens => ?_
      split
      · exact (RespectsWith.set _).then (.pure _)
      · exact refuse _ _
    · exact h.primary live
    · exact (h.primary live).bind fun _ => .pure _
    · exact (h.primary live).bind fun _ => .pure _
    · exact (h.primary live).bind fun _ => .pure _
    · exact refuse _ _
  · exact refuse _ _

theorem operations_succ (h : AllSafe text fuel) (live : Bool) (limit : Nat) (a : Int) :
    RespectsWith Becomes (Arithmetic.operations text (fuel + 1) live limit a) := by
  refine .bind .get fun tokens => ?_
  split
  · split
    · split
      · refine (RespectsWith.set _).then ((h.primary live).bind fun first => ?_)
        refine (h.operations live _ first).bind fun b => ?_
        split
        · exact h.operations live limit _
        · exact refuse _ _
      · exact .pure _
    · exact .pure _
  · exact .pure _

theorem conjunction_succ (h : AllSafe text fuel) (live : Bool) :
    RespectsWith Becomes (Arithmetic.conjunction text (fuel + 1) live) := by
  refine (h.primary live).bind fun first => (h.operations live 8 first).bind fun a => ?_
  refine .bind .get fun tokens => ?_
  split
  · exact (RespectsWith.set _).then ((h.conjunction _).bind fun _ => .pure _)
  · exact .pure _

theorem disjunction_succ (h : AllSafe text fuel) (live : Bool) :
    RespectsWith Becomes (Arithmetic.disjunction text (fuel + 1) live) := by
  refine (h.conjunction live).bind fun a => .bind .get fun tokens => ?_
  split
  · exact (RespectsWith.set _).then ((h.disjunction _).bind fun _ => .pure _)
  · exact .pure _

theorem choice_succ (h : AllSafe text fuel) (live : Bool) :
    RespectsWith Becomes (Arithmetic.choice text (fuel + 1) live) := by
  refine (h.disjunction live).bind fun a => .bind .get fun tokens => ?_
  split
  · refine (RespectsWith.set _).then ((h.assignment _).bind fun b => .bind .get fun tokens => ?_)
    split
    · exact (RespectsWith.set _).then ((h.choice _).bind fun _ => .pure _)
    · exact refuse _ _
  · exact .pure _

theorem assignment_succ (h : AllSafe text fuel) (live : Bool) :
    RespectsWith Becomes (Arithmetic.assignment text (fuel + 1) live) := by
  refine .bind .get fun tokens => ?_
  split
  · next name sign rest =>
    split
    · refine (RespectsWith.set _).then ((h.assignment live).bind fun b => ?_)
      split
      · have hassign : ∀ n : Int, RespectsWith Becomes (do
            liftM (Action.assign name (toString n) : Action Unit)
            Pure.pure n : Evaluation Int) := fun n =>
          (RespectsWith.lift (Action.isSafe_assign _ _)).then (.pure n)
        split
        · exact (RespectsWith.pure _).bind hassign
        · refine (RespectsWith.lift (isSafe_valueOf _)).bind fun before => ?_
          split
          · exact (RespectsWith.pure _).bind hassign
          · exact (refuse _ _).bind hassign
      · exact .pure _
    · exact h.choice live
  · exact h.choice live

theorem all (text : String) (fuel : Nat) : AllSafe text fuel := by
  -- The parts call each other with less fuel, so that they have to be safe all at once.
  induction fuel with
  | zero => exact zero
  | succ fuel ih =>
    exact {
      primary := ih.primary_succ
      operations := ih.operations_succ
      conjunction := ih.conjunction_succ
      disjunction := ih.disjunction_succ
      choice := ih.choice_succ
      assignment := ih.assignment_succ }

end AllSafe

theorem isSafe_evaluate (text : String) : IsSafe (evaluate text) := by
  refine ((AllSafe.all text _).assignment true _).bind fun result => ?_
  dsimp only
  split
  · exact .pure _
  · exact isSafe_fail _ _

end Arithmetic

/-! ## Conditions -/

namespace Condition

theorem isSafe_number (word : String) : IsSafe (number word) := by
  unfold number
  dsimp only
  exact .ite (Action.isSafe_fail _) (.ite (Action.isSafe_fail _) (.pure _))

theorem isSafe_compare (a name b : String) : IsSafe (compare a name b) := by
  have hnumbers : ∀ f : Int → Int → Bool, IsSafe (do return f (← number a) (← number b)) :=
    fun _ => (isSafe_number a).bind fun _ => (isSafe_number b).bind fun _ => .pure _
  unfold compare
  dsimp only
  split
  iterate 4 exact .pure _
  iterate 6 exact hnumbers _
  · exact .get fun s => Respects.pure _ s
  · exact .pure _

theorem isSafe_inspect (name word : String) : IsSafe (inspect name word) := by
  refine .get fun s => ?_
  dsimp only
  split
  iterate 2 exact Respects.pure _ s
  · exact ((isSafe_number word).then (.pure _)) s
  all_goals exact Respects.pure _ s

/-- Reading parts of a condition is safe, as far as there is fuel. -/
structure AllSafe (fuel : Nat) : Prop where
  anyOf : RespectsWith Becomes (anyOf fuel)
  allOf : RespectsWith Becomes (allOf fuel)
  negated : RespectsWith Becomes (negated fuel)
  primary : RespectsWith Becomes (primary fuel)

namespace AllSafe

variable {fuel : Nat}

theorem refuse (message : String) :
    RespectsWith Becomes (liftM (Action.fail message : Action α) : Evaluation α) :=
  .lift (Action.isSafe_fail message)

theorem take : RespectsWith Becomes take := .modify _

theorem primary_succ (h : AllSafe fuel) : RespectsWith Becomes (Condition.primary (fuel + 1)) := by
  refine .bind .get fun words => ?_
  split
  · exact .pure _
  · refine (RespectsWith.set _).then ?_
    split
    · exact take.then (.pure _)
    · refine h.anyOf.bind fun a => .bind .get fun words => ?_
      split
      · exact (RespectsWith.set _).then (.pure _)
      · exact refuse _
  · split
    · exact (RespectsWith.set _).then (.lift (isSafe_inspect _ _))
    · exact refuse _
  · split
    · split
      · exact (RespectsWith.set _).then (.lift (isSafe_compare _ _ _))
      · exact refuse _
    · exact (RespectsWith.set _).then (.pure _)

theorem all (fuel : Nat) : AllSafe fuel := by
  induction fuel with
  | zero => constructor <;> exact .pure _
  | succ fuel ih =>
    exact {
      anyOf := ih.allOf.bind fun _ => .bind .get fun _ =>
        .ite (take.then (ih.anyOf.bind fun _ => .pure _)) (.pure _)
      allOf := ih.negated.bind fun _ => .bind .get fun _ =>
        .ite (take.then (ih.allOf.bind fun _ => .pure _)) (.pure _)
      negated := .bind .get fun _ =>
        .ite (take.then (ih.negated.bind fun _ => .pure _)) ih.primary
      primary := ih.primary_succ }

end AllSafe

theorem isSafe_whole (words : List String) : IsSafe (whole words) :=
  ((AllSafe.all _).anyOf words).bind fun _ => .ite (.pure _) (Action.isSafe_fail _)

theorem isSafe_evaluate (fuel : Nat) (words : List String) : IsSafe (evaluate fuel words) := by
  induction fuel generalizing words with
  | zero => exact .pure _
  | succ fuel ih =>
    have hnot : ∀ words, IsSafe (do return !(← evaluate fuel words)) :=
      fun words => (ih words).bind fun _ => .pure _
    unfold evaluate
    split
    · exact .pure _
    · exact .ite (isSafe_compare _ _ _) (.ite (ih _) (.ite (hnot _) (isSafe_whole _)))
    · exact .ite (ih _) (.ite (hnot _) (isSafe_whole _))
    · exact isSafe_whole _

end Condition

/-! ## Formats -/

namespace Printing

theorem isSafe_put (cs : List Char) : RespectsWith Becomes (put cs) := .modify _

theorem isSafe_take? : RespectsWith Becomes take? := by
  refine .bind .get fun p => ?_
  split
  · exact (RespectsWith.set _).then (.pure _)
  · exact .pure _

theorem isSafe_complain (argument message : String) :
    RespectsWith Becomes (complain argument message) :=
  (RespectsWith.lift (Action.isSafe_complain _)).then (.lift (Action.isSafe_setStatus 1))

theorem isSafe_checkRest (argument : String) (rest : List Char) :
    RespectsWith Becomes (checkRest argument rest) := .ite (.pure _) (isSafe_complain _ _)

theorem isSafe_checkRange (argument : String) (isOutside : Bool) :
    RespectsWith Becomes (checkRange argument isOutside) := .ite (isSafe_complain _ _) (.pure _)

theorem isSafe_takeNumber (signed : Bool) : RespectsWith Becomes (takeNumber signed) := by
  refine isSafe_take?.bind fun argument => ?_
  dsimp only
  split
  · exact .pure _
  · refine .ite (.ite ((isSafe_complain _ _).then (.pure _)) (.pure _)) ?_
    refine (isSafe_checkRest _ _).then ?_
    exact .ite ((isSafe_checkRange _ _).then (.pure _)) (.pure _)

theorem isSafe_takeDouble : RespectsWith Becomes takeDouble := by
  refine isSafe_take?.bind fun argument => ?_
  dsimp only
  split
  · exact .pure _
  · split
    · exact .ite ((isSafe_complain _ _).then (.pure _)) (.pure _)
    · refine (isSafe_checkRest _ _).then ?_
      exact .ite ((isSafe_checkRange _ _).then (.pure _)) (.pure _)

theorem isSafe_readCount (cs : List Char) : RespectsWith Becomes (readCount cs) := by
  unfold readCount
  split
  · exact (isSafe_takeNumber true).bind fun _ => .pure _
  · exact .pure _

theorem isSafe_readPrecision (cs : List Char) : RespectsWith Becomes (readPrecision cs) := by
  unfold readPrecision
  split
  · exact (isSafe_readCount _).bind fun _ => .pure _
  · exact .pure _

theorem isSafe_convert (layout : Layout) (letter : Char) (directive : List Char) :
    RespectsWith Becomes (convert layout letter directive) := by
  unfold convert
  split
  · exact isSafe_take?.bind fun _ => isSafe_put _
  · refine isSafe_take?.bind fun _ => (isSafe_put _).then ?_
    exact .ite (.modify _) (.pure _)
  · exact isSafe_take?.bind fun _ => isSafe_put _
  iterate 2 exact (isSafe_takeNumber true).bind fun _ => isSafe_put _
  iterate 4 exact (isSafe_takeNumber false).bind fun _ => isSafe_put _
  iterate 6 exact isSafe_takeDouble.bind fun _ => isSafe_put _
  · exact .lift (Action.isSafe_fail _)

theorem isSafe_fill (cs : List Char) : RespectsWith Becomes (fill cs) := by
  refine (isSafe_readCount _).bind fun width => (isSafe_readPrecision _).bind fun precision => ?_
  dsimp only
  split
  · exact .lift (Action.isSafe_fail _)
  · exact (isSafe_convert _ _ _).then (.pure _)

theorem isSafe_once (fuel : Nat) (cs : List Char) : RespectsWith Becomes (once fuel cs) := by
  induction fuel generalizing cs with
  | zero => exact .pure _
  | succ fuel ih =>
    cases cs with
    | nil => exact .pure _
    | cons c rest =>
      refine .bind .get fun p => .ite (.pure _) (.ite ((isSafe_put _).then (ih _)) ?_)
      refine .ite ?_ ((isSafe_put _).then (ih _))
      split
      · exact (isSafe_put _).then (ih _)
      · exact (isSafe_fill _).bind fun _ => ih _

theorem isSafe_again (format : List Char) (fuel : Nat) :
    RespectsWith Becomes (again format fuel) := by
  induction fuel with
  | zero => exact .pure _
  | succ fuel ih =>
    refine (RespectsWith.modify _).then ((isSafe_once _ _).then ?_)
    exact .bind .get fun _ => .ite (.pure _) ih

end Printing

/-! ## Words -/

namespace Expansion

theorem isSafe_check (p : ScriptParameter) : IsSafe (check p) :=
  .get fun s => Respects.ite (Action.isSafe_fail _) (.pure _) s

variable {capture : Capture}

mutual

theorem isSafe_part (hcapture : ∀ c, IsSafe (capture c)) : ∀ p : WordPart, IsSafe (part capture p)
  | .char _ _ => .pure _
  | .nothing => .pure _
  | .output c _ => (hcapture c).bind fun _ => .pure _
  | .arithmetic w _ =>
    (isSafe_parts hcapture w).bind fun _ => (Arithmetic.isSafe_evaluate _).bind fun _ => .pure _
  | .parameter p use w quoted => by
    have hw := isSafe_parts hcapture w
    unfold part
    refine .get fun s => ?_
    split
    · exact ((isSafe_check p).then (.pure _)) s
    · exact ((isSafe_check p).then (.pure _)) s
    · exact Respects.ite (hw.bind fun _ => .pure _) (.pure _) s
    · exact Respects.ite (.pure _) (hw.bind fun _ => .pure _) s
    · refine Respects.ite (hw.bind fun pieces => ?_) (.pure _) s
      dsimp only
      split
      · exact (Action.isSafe_assign _ _).then (.pure _)
      · exact Action.isSafe_fail _
    · refine Respects.ite ?_ (.pure _) s
      have hfail : ∀ message, IsSafe (Action.fail message : Action (List TextPiece)) :=
        fun _ => Action.isSafe_fail _
      exact .ite ((Respects.pure _).bind fun _ => hfail _)
        (hw.bind fun _ => (Respects.pure _).bind fun _ => hfail _)
    · exact ((isSafe_check p).then (hw.bind fun _ => .get fun s => Respects.pure _ s)) s
    · exact ((isSafe_check p).then (hw.bind fun _ => .get fun s => Respects.pure _ s)) s
    · exact Action.isSafe_fail _ s

theorem isSafe_parts (hcapture : ∀ c, IsSafe (capture c)) :
    ∀ w : List WordPart, IsSafe (parts capture w)
  | [] => .pure _
  | p :: rest =>
    (isSafe_part hcapture p).bind fun _ => (isSafe_parts hcapture rest).bind fun _ => .pure _

end

section

variable (hcapture : ∀ c, IsSafe (capture c))

include hcapture

theorem isSafe_document (w : ScriptWord) : IsSafe (document capture w) :=
  (isSafe_parts hcapture w).bind fun _ => .pure _

theorem isSafe_pieces (w : ScriptWord) : IsSafe (pieces capture w) :=
  (isSafe_parts hcapture w).bind fun _ => .get fun s => Respects.pure _ s

theorem isSafe_text (w : ScriptWord) : IsSafe (text capture w) :=
  (isSafe_pieces hcapture w).bind fun _ => .pure _

theorem isSafe_assigned (w : ScriptWord) : IsSafe (assigned capture w) :=
  (isSafe_parts hcapture w).bind fun _ => .get fun s => Respects.pure _ s

theorem isSafe_pattern (w : ScriptWord) : IsSafe (pattern capture w) :=
  (isSafe_pieces hcapture w).bind fun _ => .pure _

theorem isSafe_fields (w : ScriptWord) : IsSafe (fields capture w) :=
  (isSafe_pieces hcapture w).bind fun _ => .get fun s => Respects.pure _ s

theorem isSafe_allFields (words : List ScriptWord) : IsSafe (allFields capture words) := by
  induction words with
  | nil => exact .pure _
  | cons w rest ih => exact (isSafe_fields hcapture w).bind fun _ => ih.bind fun _ => .pure _

end

end Expansion

end Flowchart
