import Flowchart.Script.Grammar

set_option autoImplicit false

/-! # Scripts are read forward

Reading a command takes something away from the front of a script and goes back to nothing that has
been read, as long as no word stands for another text. Lines are counted upwards, the texts below
commands get new numbers, and those that have been read are kept. The readers are taken in the order
in which they are put together; the reader of commands inside words is an assumption until the
grammar ties it to the others, by induction on its fuel. -/

namespace Flowchart

variable {α β : Type}

namespace ScriptReader

variable {r r' r'' : ScriptReader} {rest : List Char}

/-- What a reader can become by reading. -/
structure Precedes (r r' : ScriptReader) : Prop where
  aliases_eq : r'.aliases = r.aliases
  line_le : r.line ≤ r'.line
  nextDocument_le : r.nextDocument ≤ r'.nextDocument
  documents_suffix : r.documents <:+ r'.documents
  rest_suffix : r.aliases = [] → r'.rest <:+ r.rest

namespace Precedes

/-- Only what is read, what has been read and the counts matter. -/
theorem of_eq (hrest : r'.rest = r.rest) (hline : r'.line = r.line)
    (haliases : r'.aliases = r.aliases) (hnumber : r'.nextDocument = r.nextDocument)
    (hdocuments : r'.documents = r.documents) : r.Precedes r' where
  aliases_eq := haliases
  line_le := Nat.le_of_eq hline.symm
  nextDocument_le := Nat.le_of_eq hnumber.symm
  documents_suffix := hdocuments ▸ List.suffix_rfl
  rest_suffix _ := hrest ▸ List.suffix_rfl

theorem refl : r.Precedes r := of_eq rfl rfl rfl rfl rfl

theorem trans (h : r.Precedes r') (h' : r'.Precedes r'') : r.Precedes r'' where
  aliases_eq := h'.aliases_eq.trans h.aliases_eq
  line_le := Nat.le_trans h.line_le h'.line_le
  nextDocument_le := Nat.le_trans h.nextDocument_le h'.nextDocument_le
  documents_suffix := h.documents_suffix.trans h'.documents_suffix
  rest_suffix hnone := (h'.rest_suffix (h.aliases_eq.trans hnone)).trans (h.rest_suffix hnone)

end Precedes

end ScriptReader

namespace Reading

open ScriptReader (Precedes)

variable {r r' : ScriptReader} {rest : List Char} {reading : Reading α} {next : α → Reading β}
  {after : Reading β}

/-! ## Readings that go forward -/

/-- If a reading succeeds from a state, something holds of the state it leads to. -/
def Ensures (P : ScriptReader → Prop) (r : ScriptReader) (reading : Reading α) : Prop :=
  ∀ a r', reading.run r = .ok (a, r') → P r'

/-- A reading that succeeds goes forward. -/
def Advances (reading : Reading α) : Prop := ∀ r, Ensures r.Precedes r reading

namespace Ensures

variable {P Q : ScriptReader → Prop}

theorem bind (h : Ensures Q r reading) (hnext : ∀ a r', Q r' → Ensures P r' (next a)) :
    Ensures P r (reading >>= next) := by
  intro b r'' hrun
  rw [StateT.run_bind] at hrun
  rcases hfirst : reading.run r with e | ⟨a, r'⟩
  · rw [hfirst] at hrun
    cases hrun
  · rw [hfirst] at hrun
    exact hnext a r' (h a r' hfirst) b r'' hrun

theorem ite {c : Prop} [Decidable c] {other : Reading α} (h : Ensures P r reading)
    (hother : Ensures P r other) : Ensures P r (if c then reading else other) := by
  split
  · exact h
  · exact hother

end Ensures

/-- After a reading that goes forward, what was behind still is. -/
theorem Advances.ensures {start : ScriptReader} (h : Advances reading) (hr : start.Precedes r) :
    Ensures start.Precedes r reading := fun a r' hrun => hr.trans (h r a r' hrun)

theorem Ensures.set {P : ScriptReader → Prop} (h : P r') : Ensures P r (set r' : Reading Unit) := by
  rintro a r'' ⟨⟩
  exact h

/-- What comes next goes forward from wherever it starts. -/
theorem Ensures.advances {start : ScriptReader} (h : Ensures start.Precedes r reading)
    (hnext : ∀ a, Advances (next a)) : Ensures start.Precedes r (reading >>= next) :=
  h.bind fun a _ hr' => (hnext a).ensures hr'

namespace Advances

theorem pure (a : α) : Advances (Pure.pure a : Reading α) := by
  rintro r b r' ⟨⟩
  exact .refl

theorem bind (h : Advances reading) (hnext : ∀ a, Advances (next a)) :
    Advances (reading >>= next) := fun r => (h r).advances hnext

/-- What comes next need not make use of a result. -/
theorem «then» (h : Advances reading) (hafter : Advances after) :
    Advances (reading >>= fun _ => after) := h.bind fun _ => hafter

theorem ite {c : Prop} [Decidable c] {other : Reading α} (h : Advances reading)
    (hother : Advances other) : Advances (if c then reading else other) :=
  fun r => .ite (h r) (hother r)

theorem get {next : ScriptReader → Reading β} (h : ∀ r, Ensures r.Precedes r (next r)) :
    Advances (MonadState.get >>= next) := h

theorem modify {f : ScriptReader → ScriptReader} (h : ∀ r : ScriptReader, r.Precedes (f r)) :
    Advances (modify f : Reading Unit) := by
  rintro r a r' ⟨⟩
  exact h r

theorem forM {l : List α} {f : α → Reading Unit} (h : ∀ a, Advances (f a)) :
    Advances (l.forM f) := by
  induction l with
  | nil => exact .pure _
  | cons a rest ih => exact (h a).then ih

end Advances

theorem advances_fail (message : String) : Advances (fail message : Reading α) := by
  rintro r a r' ⟨⟩

theorem advances_refuse (t : ScriptToken) : Advances (refuse t : Reading α) := advances_fail _

theorem advances_refuseFor (t expected : ScriptToken) :
    Advances (refuseFor t expected : Reading α) := advances_fail _

theorem advances_push (t : ScriptToken) : Advances (push t) :=
  .modify fun _ => .of_eq rfl rfl rfl rfl rfl

/-! ## Characters -/

/-- Characters can be taken as far as something is still behind them. -/
theorem Ensures.advance {start : ScriptReader} (hr : start.Precedes r)
    (h : start.aliases = [] → rest <:+ start.rest) (lines : Nat) :
    Ensures start.Precedes r (advance rest lines) := by
  rintro a r' ⟨⟩
  exact { hr with line_le := Nat.le_add_right_of_le hr.line_le, rest_suffix := h }

/-- Reading goes on after some characters have been taken. -/
theorem Ensures.advanceThen (h : rest <:+ r.rest) (lines : Nat) (hafter : Advances after) :
    Ensures r.Precedes r (Reading.advance rest lines >>= fun _ => after) :=
  (Ensures.advance .refl (fun _ => h) lines).advances fun _ => hafter

theorem skipJoins_suffix (lines : Nat) (cs : List Char) : (skipJoins lines cs).1 <:+ cs := by
  fun_induction skipJoins lines cs with
  | case1 lines rest ih => exact ih.trans ((List.suffix_cons _ _).trans (List.suffix_cons _ _))
  | case2 lines cs hnot => exact List.suffix_rfl

theorem skipBlanks_suffix (lines : Nat) (cs : List Char) : (skipBlanks lines cs).1 <:+ cs := by
  fun_induction skipBlanks lines cs with
  | case1 lines rest ih => exact ih.trans ((List.suffix_cons _ _).trans (List.suffix_cons _ _))
  | case2 lines rest ih => exact ih.trans (List.suffix_cons _ _)
  | case3 lines rest ih => exact ih.trans (List.suffix_cons _ _)
  | case4 lines rest => exact (List.dropWhile_suffix _).trans (List.suffix_cons _ _)
  | case5 lines cs => exact List.suffix_rfl

/-- The characters that come next are those that are left. -/
theorem Ensures.ahead {P : ScriptReader → Prop} {next : List Char → Reading β}
    (h : ∀ r', r.Precedes r' → Ensures P r' (next r'.rest)) :
    Ensures P r (Reading.ahead >>= next) := by
  intro b r'' hrun
  exact h _ (Ensures.advance .refl (fun _ => skipJoins_suffix 0 r.rest) _ () _ rfl) b r'' hrun

theorem Advances.ahead {next : List Char → Reading β}
    (h : ∀ r : ScriptReader, Ensures r.Precedes r (next r.rest)) :
    Advances (Reading.ahead >>= next) := fun _ =>
  .ahead fun r' hr' b r'' hrun => hr'.trans (h r' b r'' hrun)

theorem advances_accept (c : Char) : Advances (accept c) := by
  refine .ahead fun r => ?_
  split
  · next d rest hrest =>
    have hsuffix : rest <:+ r.rest := hrest ▸ List.suffix_cons d rest
    exact .ite (.advanceThen hsuffix 0 (.pure _)) (Advances.pure _ r)
  · exact Advances.pure _ r

/-- After a character has been found ahead, it can be taken. -/
theorem suffix_of_rest_eq {c : Char} (h : r.rest = c :: rest) : rest <:+ r.rest :=
  h ▸ List.suffix_cons c rest

/-! ## Parameters -/

theorem advances_readSingle : Advances readSingle := by
  refine .get fun r => ?_
  dsimp only
  have hsuffix := List.drop_suffix (r.rest.takeWhile (· ≠ '\x27')).length r.rest
  split
  · next c rest hrest =>
    have hrest' : rest <:+ r.rest := (List.suffix_cons c rest).trans (hrest ▸ hsuffix)
    exact .advanceThen hrest' _ (.pure _)
  · exact .advanceThen (List.nil_suffix) _ (advances_fail _)

theorem advances_readName (continues : Char → Bool) (fuel : Nat) :
    Advances (readName continues fuel) := by
  induction fuel with
  | zero => exact .pure _
  | succ fuel ih =>
    refine .ahead fun r => ?_
    split
    · next hrest =>
      refine .ite (.advanceThen (suffix_of_rest_eq hrest) 0 ?_) (Advances.pure _ r)
      exact ih.bind fun _ => .pure _
    · exact Advances.pure _ r

theorem advances_readParameter : Advances readParameter := by
  refine .ahead fun r => ?_
  split
  · next hrest =>
    refine .ite ((advances_readName _ _).bind (fun _ => .pure _) r) ?_
    refine .ite ((advances_readName _ _).bind (fun _ => .pure _) r) ?_
    split
    · exact .advanceThen (suffix_of_rest_eq hrest) 0 (.pure _)
    · exact Advances.pure _ r
  · exact Advances.pure _ r

theorem advances_readUse : Advances readUse := by
  refine (advances_accept ':').bind fun nulls => .ahead fun r => ?_
  split
  · next hrest =>
    refine .advanceThen (suffix_of_rest_eq hrest) 0 ?_
    split
    · exact .pure _
    · exact .pure _
    · exact .pure _
    · exact .pure _
    · exact .pure _
    · exact .ite (.pure _) ((advances_accept _).bind fun _ => .pure _)
    · exact .ite (.pure _) ((advances_accept _).bind fun _ => .pure _)
    · exact .pure _
  · exact Advances.pure _ r

/-- A number sign that turns out to be the parameter itself is read once more. -/
theorem advances_readPlain : Advances readPlain := by
  refine advances_readParameter.bind fun p => ?_
  split
  · exact advances_readUse.bind fun _ => .pure _
  · exact .pure _

theorem advances_readBraced : Advances readBraced := by
  refine .get fun start => ?_
  refine (advances_accept '#' start).bind fun found r hr => ?_
  refine .ite (.ahead fun r' hr' => ?_) (advances_readPlain.ensures hr)
  replace hr' := hr.trans hr'
  split
  · exact advances_readPlain start
  · next c rest _ hrest =>
    have hbrace : start.aliases = [] → ('\x7d' :: rest) <:+ start.rest := fun hnone =>
      (suffix_of_rest_eq hrest).trans (hr'.rest_suffix hnone)
    refine .ite ((advances_readParameter.ensures hr').bind fun p r'' hr'' => ?_) ?_
    · split
      · refine (Ensures.advance hr'' (fun hnone => ?_) 0).advances fun _ => .pure _
        exact (List.suffix_cons _ _).trans (hbrace hnone)
      · exact (Advances.pure _).ensures hr''
    · exact (Ensures.advance hr' hbrace 0).advances fun _ => .pure _
  · refine .ite ?_ (advances_readPlain start)
    refine (advances_readParameter.ensures hr').advances fun p => ?_
    split
    · exact (advances_accept _).bind fun _ => .pure _
    · exact .pure _
  · exact advances_readPlain start

/-! ## Texts inside texts -/

theorem advances_within (text : List Char) (line : Nat) (h : Advances reading) :
    Advances (within text line reading) := by
  refine .get fun outer => ?_
  refine (Ensures.set (P := Precedes _) .refl).bind fun _ r hr => ?_
  refine (h.ensures hr).bind fun a r' hr' => ?_
  rintro b r'' ⟨⟩
  exact { hr' with line_le := Nat.le_refl _, rest_suffix := fun _ => List.suffix_rfl }

theorem advances_closeDocuments : Advances closeDocuments := .modify fun _ =>
  { Precedes.refl with documents_suffix := List.suffix_append _ _ }

section

variable {commands : Reading ScriptCommand} (hcommands : Advances commands)

theorem takeBackquoted_suffix (quoted : Bool) (cs : List Char) :
    ∀ found ∈ takeBackquoted quoted cs, found.2 <:+ cs := by
  fun_induction takeBackquoted quoted cs with
  | case1 =>
    rintro found ⟨⟩
  | case2 rest =>
    rintro found ⟨⟩
    exact List.suffix_cons _ _
  | case3 c rest ih =>
    intro found hfound
    obtain ⟨⟨inside, after⟩, hafter, rfl⟩ := Option.map_eq_some_iff.1 hfound
    have hsuffix := (ih _ hafter).trans ((List.suffix_cons c rest).trans (List.suffix_cons '\\' _))
    dsimp only
    split
    · exact hsuffix
    · split
      · exact hsuffix
      · exact hsuffix
  | case4 c rest _ _ ih =>
    intro found hfound
    obtain ⟨⟨inside, after⟩, hafter, rfl⟩ := Option.map_eq_some_iff.1 hfound
    exact (ih _ hafter).trans (List.suffix_cons c rest)

include hcommands

theorem advances_readBackquoted (context : WordContext) :
    Advances (readBackquoted commands context) := by
  refine .get fun r => ?_
  split
  · exact .advanceThen List.nil_suffix _ (advances_fail _)
  · next inside rest hfound =>
    refine .advanceThen (takeBackquoted_suffix _ _ _ hfound) _ ?_
    refine (advances_within _ _ ?_).bind fun _ => .pure _
    exact hcommands.bind fun _ => advances_closeDocuments.then (.pure _)

theorem advances_readParenthesized (quoted : Bool) :
    Advances (readParenthesized commands quoted) := by
  have hmodify : ∀ awaited : List AwaitedDocument, Advances (modify fun r => { r with awaited }) :=
    fun _ => .modify fun _ => .of_eq rfl rfl rfl rfl rfl
  refine .get fun r => ?_
  refine ((hmodify []).then (hcommands.bind fun c => advances_closeDocuments.then ?_)) r
  refine .get fun r => ?_
  split
  · refine Advances.then (.modify fun _ => ?_) (.pure _) r
    exact .of_eq rfl rfl rfl rfl rfl
  · exact ((advances_refuseFor _ _).then (.pure _)) r
  · exact ((advances_fail _).then (.pure _)) r

omit hcommands in
theorem advances_atEnd (context : WordContext) : Advances (atEnd context) := by
  unfold atEnd
  split
  iterate 3 exact .pure _
  iterate 5 exact advances_fail _

section

variable {again : WordContext → Reading (List WordPart)} (hagain : ∀ context, Advances (again context))

include hagain

omit hcommands in
theorem ensures_readLiteral (h : rest <:+ r.rest) (quoted : Bool) (c : Char) (next : WordContext) :
    Ensures r.Precedes r (readLiteral again quoted c rest next) :=
  .advanceThen h _ ((hagain _).bind fun _ => .pure _)

omit hcommands in
theorem ensures_readEscaped (h : rest <:+ r.rest) (context : WordContext) :
    Ensures r.Precedes r (readEscaped again context rest) := by
  unfold readEscaped
  split
  · exact .advanceThen List.nil_suffix _ ((hagain _).bind fun _ => .pure _)
  · next c rest =>
    refine .advanceThen ((List.suffix_cons c rest).trans h) _ ((hagain _).bind fun _ => ?_)
    exact .ite (.pure _) (.pure _)

theorem advances_readDollar (context : WordContext) :
    Advances (readDollar commands again context) := by
  refine .ahead fun r => ?_
  split
  · next hrest =>
    refine .advanceThen (suffix_of_rest_eq hrest) _ ((advances_accept _).bind fun _ => ?_)
    refine .ite ((hagain _).bind fun _ => .pure _) ?_
    exact (advances_readParenthesized hcommands _).bind fun _ => .pure _
  · next hrest =>
    refine .advanceThen (suffix_of_rest_eq hrest) _ (advances_readBraced.bind fun _ => ?_)
    exact .ite (.pure _) ((hagain _).bind fun _ => .pure _)
  · next hrest =>
    refine .ite (advances_readParameter.bind (fun p => ?_) r) ?_
    · split
      · exact .pure _
      · exact .pure _
    · split
      · exact .advanceThen (suffix_of_rest_eq hrest) _ (.pure _)
      · exact Advances.pure _ r
  · exact Advances.pure _ r

omit hcommands in
theorem ensures_readMarked (h : rest <:+ r.rest) (context : WordContext) (c : Char) :
    Ensures r.Precedes r (readMarked again context c rest) := by
  have hliteral := ensures_readLiteral hagain h context.isQuoted c
  unfold readMarked
  dsimp only
  split
  -- quotes that begin or end something
  iterate 3
    refine .advanceThen h _ (advances_readSingle.bind fun _ => ?_)
    exact (hagain _).bind fun _ => .pure _
  iterate 3
    exact .advanceThen h _ ((hagain _).bind fun _ => (hagain _).bind fun _ => .pure _)
  · exact .advanceThen h _ (.pure _)
  · exact .advanceThen h _ (hagain _)
  -- braces and parentheses
  iterate 2 exact .advanceThen h _ (.pure _)
  iterate 2 exact hliteral _
  · refine .advanceThen h _ ((advances_accept _).bind fun _ => ?_)
    exact .ite (.pure _) ((hagain _).bind fun _ => .pure _)
  -- characters that stand for themselves
  iterate 2 exact .ite (Advances.pure _ r) (hliteral _)
  · exact hliteral _

end

/-- Reading a word goes forward wherever it stands. -/
theorem advances_readParts (fuel : Nat) (context : WordContext) :
    Advances (readParts commands fuel context) := by
  induction fuel generalizing context with
  | zero => exact .pure _
  | succ fuel ih =>
    unfold readParts
    refine .ahead fun r => ?_
    split
    · exact advances_atEnd context r
    · next hrest => exact ensures_readEscaped ih (suffix_of_rest_eq hrest) context
    · next hrest =>
      have hsuffix := suffix_of_rest_eq hrest
      refine .ite (ensures_readLiteral ih hsuffix _ _ _) (.advanceThen hsuffix _ ?_)
      exact (advances_readDollar hcommands ih _).bind fun _ => (ih _).bind fun _ => .pure _
    · next hrest =>
      have hsuffix := suffix_of_rest_eq hrest
      refine .ite (ensures_readLiteral ih hsuffix _ _ _) (.advanceThen hsuffix _ ?_)
      exact (advances_readBackquoted hcommands _).bind fun _ => (ih _).bind fun _ => .pure _
    · next hrest => exact ensures_readMarked ih (suffix_of_rest_eq hrest) context _

/-! ## Texts below commands -/

omit hcommands in
theorem takeDocument_suffix (d : AwaitedDocument) (fuel : Nat) (joined : Bool) (cs : List Char) :
    (takeDocument d fuel joined cs).2 <:+ cs := by
  induction fuel generalizing joined cs with
  | zero => exact List.suffix_rfl
  | succ fuel ih =>
    have hnext : ((cs.drop (cs.takeWhile (· ≠ '\n')).length).drop 1) <:+ cs :=
      (List.drop_suffix _ _).trans (List.drop_suffix _ _)
    unfold takeDocument
    dsimp only
    split
    · exact List.nil_suffix
    · split
      · split
        · exact hnext
        · exact (ih _ _).trans hnext
      · split
        · exact hnext
        · exact (ih _ _).trans hnext

theorem advances_readDocument (d : AwaitedDocument) : Advances (readDocument commands d) := by
  refine .get fun r => ?_
  have hsuffix := takeDocument_suffix d (r.rest.length + 1) false r.rest
  rcases hfound : takeDocument d (r.rest.length + 1) false r.rest with ⟨body, rest⟩
  rw [hfound] at hsuffix
  have hlast : ∀ (w : ScriptWord) (r' : ScriptReader), r.Precedes r' → Ensures r.Precedes r' (do
      advance rest (lineEnds (r.rest.take (r.rest.length - rest.length)))
      modify fun r => { r with documents := (d.number, w) :: r.documents }) := by
    intro w r' hr'
    refine (Ensures.advance hr' (fun _ => hsuffix) _).advances fun _ => .modify fun _ => ?_
    exact { Precedes.refl with documents_suffix := List.suffix_cons _ _ }
  dsimp only
  split
  · exact (advances_within _ _ (advances_readParts hcommands _ _) r).bind hlast
  · exact Ensures.bind (Advances.pure _ r) hlast

theorem advances_readDocuments : Advances (readDocuments commands) := by
  refine .get fun r => ?_
  refine Advances.then (.modify fun _ => ?_) (.forM fun _ => advances_readDocument hcommands _) _
  exact .of_eq rfl rfl rfl rfl rfl

/-! ## Tokens -/

omit hcommands in
theorem advances_readSign (first : Char) : Advances (readSign first) := by
  have haccept : ∀ (c : Char) (yes : RedirectionSign) {no : Reading RedirectionSign},
      Advances no → Advances (do
        if ← accept c then return yes else no) :=
    fun _ _ _ hno => (advances_accept _).bind fun _ => .ite (.pure _) hno
  refine .ite (haccept _ _ (haccept _ _ (haccept _ _ (.pure _)))) ?_
  refine (advances_accept _).bind fun _ => .ite ((advances_accept _).bind fun _ => .pure _) ?_
  exact haccept _ _ (haccept _ _ (.pure _))

theorem advances_readWord (context : WordContext) : Advances (readWord commands context) := by
  refine .get fun r => ?_
  refine ((advances_readParts hcommands _ _).bind fun w => .get fun r => ?_) r
  dsimp only
  have hredirection : ∀ {c : Char} {rest : List Char} (descriptor : Nat), r.rest = c :: rest →
      Ensures r.Precedes r (do
        advance rest 0
        let sign ← readSign c
        return ScriptToken.redirection descriptor sign) := fun _ hrest =>
    .advanceThen (suffix_of_rest_eq hrest) _ ((advances_readSign _).bind fun _ => .pure _)
  split
  · next hrest => exact hredirection _ hrest
  · next hrest => exact hredirection _ hrest
  · next hrest => exact .ite (hredirection _ hrest) (Advances.pure _ r)
  · next hrest => exact .ite (hredirection _ hrest) (Advances.pure _ r)
  · exact Advances.pure _ r

theorem advances_readFresh (context : WordContext) : Advances (readFresh commands context) := by
  refine .get fun r => ?_
  have hsuffix := skipBlanks_suffix 0 r.rest
  rcases hskipped : skipBlanks 0 r.rest with ⟨rest, lines⟩
  rw [hskipped] at hsuffix
  have hmark : ∀ {r' : ScriptReader} {c : Char} {after : List Char} {lines : Nat}
      {reading : Reading ScriptToken}, r.Precedes r' → rest = c :: after → Advances reading →
        Ensures r.Precedes r' (advance after lines >>= fun _ => reading) := by
    intro r' c after lines reading hr' heq hreading
    refine (Ensures.advance hr' (fun _ => ?_) _).advances fun _ => hreading
    exact (List.suffix_cons c after).trans (heq ▸ hsuffix)
  dsimp only
  refine (Ensures.advance .refl (fun _ => hsuffix) lines).bind fun _ r' hr' => ?_
  split
  · exact (Advances.pure _).ensures hr'
  · exact hmark hr' rfl (.pure _)
  iterate 3 exact hmark hr' rfl ((advances_accept _).bind fun _ => .pure _)
  · exact hmark hr' rfl (.pure _)
  · exact hmark hr' rfl (.pure _)
  · exact (advances_readWord hcommands _).ensures hr'

theorem advances_readToken (context : WordContext) : Advances (readToken commands context) := by
  refine .get fun r => ?_
  split
  · refine Advances.then (.modify fun _ => ?_) (.pure _) r
    exact .of_eq rfl rfl rfl rfl rfl
  · exact advances_readFresh hcommands context r

theorem advances_skipLines (fuel : Nat) (t : ScriptToken) :
    Advances (skipLines commands fuel t) := by
  fun_induction skipLines commands fuel t with
  | case1 fuel ih =>
    exact (advances_readDocuments hcommands).then ((advances_readToken hcommands _).bind ih)
  | case2 => exact .pure _

omit hcommands in
/-- Only where a word stands for a text, something is put in front of what is left. -/
theorem advances_replaceWord {again : Reading ScriptToken} (hagain : Advances again)
    (w : ScriptWord) : Advances (replaceWord again w) := by
  refine .get fun r => ?_
  split
  · next name text hfound =>
    have hsome : r.aliases ≠ [] := by
      intro hnone
      obtain ⟨_, -, hreplaced⟩ := Option.bind_eq_some_iff.1 hfound
      simp [replacement?, hnone] at hreplaced
    refine (Ensures.set ?_).advances fun _ => hagain
    exact { Precedes.refl with rest_suffix := fun hnone => absurd hnone hsome }
  · exact Advances.pure _ r

omit hcommands in
theorem advances_readMeaning {again : Reading ScriptToken} (hagain : Advances again)
    (words : Bool) (t : ScriptToken) : Advances (readMeaning again words t) := by
  refine .ite (.pure _) ?_
  split
  · exact advances_replaceWord hagain _
  · exact .pure _

theorem advances_nextWithin (lines words : Bool) (fuel : Nat) :
    Advances (nextWithin commands lines words fuel) := by
  induction fuel with
  | zero => exact advances_fail _
  | succ fuel ih =>
    refine (advances_readToken hcommands _).bind fun t => .ite (.get fun r => ?_) ?_
    · exact ((advances_skipLines hcommands _ _).bind (advances_readMeaning ih words)) r
    · exact (Advances.pure _).bind (advances_readMeaning ih words)

theorem advances_next (lines words : Bool) : Advances (Reading.next commands lines words) :=
  .get fun r => advances_nextWithin hcommands lines words _ r

/-! ## Parts of commands -/

theorem advances_readRedirection (d : Nat) (sign : RedirectionSign) :
    Advances (readRedirection commands d sign) := by
  refine (advances_readToken hcommands _).bind fun t => ?_
  split
  · split
    · exact .pure _
    · exact .pure _
    · refine .get fun r => ?_
      refine Ensures.advances (?_ : Ensures r.Precedes r (modify _)) fun _ => .pure _
      rintro _ _ ⟨⟩
      exact { Precedes.refl with nextDocument_le := Nat.le_succ _ }
  · exact advances_refuse _

theorem advances_readRedirections (fuel : Nat) (words : Bool) :
    Advances (readRedirections commands fuel words) := by
  induction fuel generalizing words with
  | zero => exact .pure _
  | succ fuel ih =>
    refine (advances_next hcommands _ _).bind fun t => ?_
    split
    · exact (advances_readRedirection hcommands _ _).bind fun _ => (ih _).bind fun _ => .pure _
    · exact (advances_push _).then (.pure _)

theorem advances_readPieces (fuel : Nat) (p : Pieces) : Advances (readPieces commands fuel p) := by
  induction fuel generalizing p with
  | zero => exact .pure _
  | succ fuel ih =>
    refine (advances_next hcommands _ _).bind fun t => ?_
    split
    · split
      · exact ih _
      · exact ih _
    · exact (advances_readRedirection hcommands _ _).bind fun _ => ih _
    · exact (advances_push _).then (.pure _)

theorem advances_readWords (fuel : Nat) : Advances (readWords commands fuel) := by
  induction fuel with
  | zero => exact advances_fail _
  | succ fuel ih =>
    refine (advances_next hcommands _ _).bind fun t => ?_
    split
    · exact ih.bind fun _ => .pure _
    · exact .pure _

theorem advances_readPatterns (fuel : Nat) (t : ScriptToken) :
    Advances (readPatterns commands fuel t) := by
  induction fuel generalizing t with
  | zero => exact advances_refuse _
  | succ fuel ih =>
    refine (advances_next hcommands _ _).bind fun t => ?_
    split
    · exact (advances_next hcommands _ _).bind fun _ => (ih _).bind fun _ => .pure _
    · exact .pure _
    · exact advances_refuseFor _ _

theorem advances_expect (lines : Bool) (name : String) : Advances (expect commands lines name) := by
  refine (advances_next hcommands _ _).bind fun t => ?_
  split
  · exact .ite (.pure _) (advances_refuseFor _ _)
  · exact advances_refuseFor _ _

omit hcommands in
theorem advances_bound : Advances bound := .get fun r => Advances.pure _ r

theorem advances_withRedirections (line : Nat) (c : ScriptCommand) :
    Advances (withRedirections commands line c) :=
  advances_bound.bind fun _ => (advances_readRedirections hcommands _ _).bind fun _ => .pure _

theorem advances_readVariable : Advances (readVariable commands) := by
  refine (advances_next hcommands _ _).bind fun t => ?_
  split
  · split
    · exact .ite (.pure _) (advances_fail _)
    · exact advances_fail _
  · exact advances_fail _

theorem advances_readValues : Advances (readValues commands) := by
  refine (advances_next hcommands _ _).bind fun t => ?_
  split
  · refine advances_bound.bind fun _ => (advances_readWords hcommands _).bind fun found => ?_
    split
    · exact (advances_push _).then (.pure _)
    · exact .pure _
    · exact advances_refuse _
  · exact .pure _
  · exact (advances_push _).then (.pure _)

theorem advances_skipParenthesis (t : ScriptToken) : Advances (skipParenthesis commands t) := by
  unfold skipParenthesis
  split
  · exact advances_next hcommands _ _
  · exact .pure _

end

/-! ## Commands -/

/-- All readers of commands go forward, as far as there is fuel. -/
structure AllAdvance (fuel : Nat) : Prop where
  list : ∀ extent before, Advances (readList fuel extent before)
  chain : ∀ join, Advances (readChain fuel join)
  pipeline : ∀ lines, Advances (readPipeline fuel lines)
  stages : ∀ t, Advances (readStages fuel t)
  command : ∀ t, Advances (readCommand fuel t)
  branches : Advances (readBranches fuel)
  loop : ∀ line, Advances (readFor fuel line)
  cases : Advances (readCases fuel)
  simple : ∀ line, Advances (readSimple fuel line)

namespace AllAdvance

variable {fuel : Nat}

theorem zero : AllAdvance 0 where
  list _ _ := advances_fail _
  chain _ := advances_fail _
  pipeline _ := advances_fail _
  stages t := advances_refuse t
  command t := advances_refuse t
  branches := advances_fail _
  loop _ := advances_fail _
  cases := advances_fail _
  simple _ := advances_fail _

variable (h : AllAdvance fuel)

include h

theorem list_succ (extent : ListExtent) (before : Option ScriptCommand) :
    Advances (readList (fuel + 1) extent before) := by
  have hcommands := h.list .optional none
  have hdocuments := advances_readDocuments hcommands
  refine (advances_next hcommands _ _).bind fun t => ?_
  dsimp only
  split
  · exact hdocuments.then (.pure _)
  · exact hdocuments.then ((advances_push _).then (.pure _))
  · refine (advances_push _).then (.ite (.pure _) ?_)
    refine (h.chain _).bind fun c => (advances_next hcommands _ _).bind fun t => ?_
    split
    · exact h.list _ _
    · exact h.list _ _
    · exact (advances_push _).then (h.list _ _)
    · exact hdocuments.then ((advances_push _).then (.pure _))
    · refine .ite ((advances_refuse _).then ?_) ?_
      · exact (advances_push _).then (.pure _)
      · exact (advances_push _).then (.pure _)

theorem chain_succ (join : Option (ScriptCommand → ScriptCommand)) :
    Advances (readChain (fuel + 1) join) := by
  have hcommands := h.list .optional none
  refine (h.pipeline _).bind fun c => (advances_next hcommands _ _).bind fun t => ?_
  split
  · exact h.chain _
  · exact h.chain _
  · exact (advances_push _).then (.pure _)

theorem pipeline_succ (lines : Bool) : Advances (readPipeline (fuel + 1) lines) := by
  have hcommands := h.list .optional none
  refine (advances_next hcommands _ _).bind fun t => ?_
  split
  · exact (advances_next hcommands _ _).bind fun _ => (h.stages _).bind fun _ => .pure _
  · exact (h.stages _).bind fun _ => .pure _

theorem stages_succ (t : ScriptToken) : Advances (readStages (fuel + 1) t) := by
  have hcommands := h.list .optional none
  refine (h.command _).bind fun c => (advances_next hcommands _ _).bind fun t => ?_
  split
  · exact (advances_next hcommands _ _).bind fun _ => (h.stages _).bind fun _ => .pure _
  · exact (advances_push _).then (.pure _)

theorem command_succ (t : ScriptToken) : Advances (readCommand (fuel + 1) t) := by
  have hcommands := h.list .optional none
  have hredirect := fun line c => advances_withRedirections hcommands line c
  refine .get fun r => ?_
  split
  · exact h.branches.bind (fun _ => hredirect _ _) r
  iterate 2
    refine ((h.list _ _).bind fun _ => (advances_expect hcommands _ _).then ?_) r
    exact (h.list _ _).bind fun _ => (advances_expect hcommands _ _).then (hredirect _ _)
  · exact (h.loop _).bind (fun _ => hredirect _ _) r
  · refine ((advances_next hcommands _ _).bind fun t => ?_) r
    split
    · exact (advances_expect hcommands _ _).then (h.cases.bind fun _ => hredirect _ _)
    · exact advances_refuseFor _ _
  · refine ((h.list _ _).bind fun c => (advances_next hcommands _ _).bind fun t => ?_) r
    split
    · refine advances_bound.bind fun _ => ?_
      exact (advances_readRedirections hcommands _ _).bind fun _ => .pure _
    · exact advances_refuseFor _ _
  · refine ((h.list _ _).bind fun c => (advances_expect hcommands _ _).then ?_) r
    exact hredirect _ _
  · exact ((advances_push _).then (h.simple _)) r
  · exact ((advances_push _).then (h.simple _)) r
  · exact advances_refuse _ r

theorem branches_succ : Advances (readBranches (fuel + 1)) := by
  have hcommands := h.list .optional none
  refine (h.list _ _).bind fun condition => (advances_expect hcommands _ _).then ?_
  refine (h.list _ _).bind fun yes => (advances_next hcommands _ _).bind fun t => ?_
  split
  · exact h.branches.bind fun _ => .pure _
  · exact (h.list _ _).bind fun _ => (advances_expect hcommands _ _).then (.pure _)
  · exact .pure _
  · exact advances_refuseFor _ _

theorem loop_succ (line : Nat) : Advances (readFor (fuel + 1) line) := by
  have hcommands := h.list .optional none
  refine (advances_readVariable hcommands).bind fun name => ?_
  refine (advances_readValues hcommands).bind fun values => (advances_expect hcommands _ _).then ?_
  exact (h.list _ _).bind fun _ => (advances_expect hcommands _ _).then (.pure _)

theorem cases_succ : Advances (readCases (fuel + 1)) := by
  have hcommands := h.list .optional none
  refine (advances_next hcommands _ _).bind fun t => ?_
  split
  · exact .pure _
  · refine (advances_skipParenthesis hcommands _).bind fun t => advances_bound.bind fun _ => ?_
    refine (advances_readPatterns hcommands _ _).bind fun patterns => ?_
    refine (h.list _ _).bind fun body => (advances_next hcommands _ _).bind fun t => ?_
    split
    · exact .pure _
    · exact h.cases.bind fun _ => .pure _
    · exact advances_refuseFor _ _

theorem simple_succ (line : Nat) : Advances (readSimple (fuel + 1) line) := by
  have hcommands := h.list .optional none
  refine advances_bound.bind fun _ => (advances_readPieces hcommands _ _).bind fun p => ?_
  dsimp only
  split
  · refine (advances_next hcommands _ _).bind fun t => ?_
    split
    · refine (advances_next hcommands _ _).bind fun t => ?_
      split
      · refine .ite ((advances_fail _).then ?_) ?_
        iterate 2
          exact (advances_next hcommands _ _).bind fun _ => (h.command _).bind fun _ => .pure _
      · exact advances_refuseFor _ _
    · exact (advances_push _).then (.pure _)
  · exact .pure _

end AllAdvance

theorem allAdvance (fuel : Nat) : AllAdvance fuel := by
  induction fuel with
  | zero => exact .zero
  | succ fuel ih =>
    exact {
      list := ih.list_succ
      chain := ih.chain_succ
      pipeline := ih.pipeline_succ
      stages := ih.stages_succ
      command := ih.command_succ
      branches := ih.branches_succ
      loop := ih.loop_succ
      cases := ih.cases_succ
      simple := ih.simple_succ }

/-- What is left of a script after a line of commands is an end of what was left before, if no word
    stands for another text. -/
theorem advances_readLine? : Advances readLine? := by
  have hcommands : ∀ fuel, Advances (readList fuel .optional none) := fun fuel =>
    (allAdvance fuel).list _ _
  refine Advances.then (.modify fun _ => ?_) (.get fun r => ?_)
  · exact .of_eq rfl rfl rfl rfl rfl
  · refine ((advances_next (hcommands _) _ _).bind fun t => ?_) r
    split
    · exact .pure _
    · exact (advances_push _).then (((allAdvance _).list _ _).bind fun _ => .pure _)

end Reading

end Flowchart
