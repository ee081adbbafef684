import Flowchart.Proofs.Paths
import Mathlib.Data.List.TakeWhile

set_option autoImplicit false

/-! # Paths above and below other paths

What counts of a path are its steps: the segments between its slashes that are neither empty nor a
dot. The path above a path has one step less and is written in front of it, and a path that is
joined to another one has the steps of both. So although these operations work on texts, following a
path goes through the same steps whatever the texts look like. -/

namespace Flowchart

/-! ## Steps of a path -/

theorem not_mem_of_mem_splitOn {α : Type} [BEq α] [LawfulBEq α] {a : α} {l part : List α}
    (h : part ∈ l.splitOn a) : a ∉ part := by
  rw [List.splitOn] at h
  induction l generalizing part with
  | nil =>
    rw [List.splitOnP_nil, List.mem_singleton] at h
    rw [h]
    exact List.not_mem_nil
  | cons b l ih =>
    rw [List.splitOnP_cons_eq_if_modifyHead] at h
    split at h
    · rcases List.mem_cons.1 h with rfl | h
      · exact List.not_mem_nil
      · exact ih h
    · next hb =>
      obtain ⟨first, rest, hsplit⟩ := List.exists_cons_of_ne_nil (List.splitOnP_ne_nil (· == a) l)
      rw [hsplit] at h ih
      rcases List.mem_cons.1 h with rfl | h
      · have hfirst := ih List.mem_cons_self
        rw [List.mem_cons, not_or]
        exact ⟨fun heq => hb (by simp [heq]), hfirst⟩
      · exact ih (List.mem_cons_of_mem _ h)

namespace Path

/-- The segments of a path that lead anywhere. -/
def steps (p : Path) : List String := p.segments.filter (!isIdle ·)

/-- A path that a file system takes for one. -/
def IsProper (p : Path) : Prop := Char.ofNat 0 ∉ p.text.toList

instance (p : Path) : Decidable p.IsProper := inferInstanceAs (Decidable (_ ∉ _))

/-- A path whose last segment is a step. -/
structure EndsWith (p : Path) (outer : List String) (last : String) : Prop where
  segments_eq : p.segments = outer ++ [last]
  not_idle : isIdle last = false

variable {p q : Path} {outer parts parts' : List String} {last : String}

theorem ofNames_segments (p : Path) : ofNames p.segments = p := by
  have htext : (ofNames p.segments).text = p.text := by
    rw [← String.toList_inj, ofNames, String.toList_intercalate, Path.segments, List.map_map]
    have hparts : String.toList ∘ String.ofList = id := funext fun l => String.toList_ofList
    rw [hparts, List.map_id]
    exact List.intercalate_splitOn '/'
  cases p
  exact congrArg Path.mk htext

/-- Segments have no slashes in them. -/
theorem slash_not_mem_segments {segment : String} (h : segment ∈ p.segments) :
    '/' ∉ segment.toList := by
  obtain ⟨part, hpart, rfl⟩ := List.mem_map.1 h
  rw [String.toList_ofList]
  exact not_mem_of_mem_splitOn hpart

theorem segments_ofNames (hne : parts ≠ []) (h : ∀ s ∈ parts, '/' ∉ s.toList) :
    (ofNames parts).segments = parts := by
  have hslash : ∀ l ∈ parts.map String.toList, '/' ∉ l := by simpa using h
  rw [segments, ofNames, String.toList_intercalate]
  show ((['/'].intercalate _).splitOn '/').map String.ofList = parts
  rw [List.splitOn_intercalate '/' hslash (by simpa using hne), List.map_map]
  simp [Function.comp_def]

/-- A path that goes on has the first one in front. -/
theorem ofNames_starts (h : parts <+: parts') :
    (ofNames parts).text.toList <+: (ofNames parts').text.toList := by
  obtain ⟨more, rfl⟩ := h
  by_cases hne : parts = []
  · rw [hne]
    exact List.nil_prefix
  · by_cases hmore : more = []
    · simp only [hmore, List.append_nil, List.prefix_rfl]
    · rw [ofNames, ofNames, String.intercalate_append_of_ne_nil hne hmore]
      simp [List.append_assoc]

namespace EndsWith

variable (h : p.EndsWith outer last)

include h

theorem steps_eq : p.steps = outer.filter (!isIdle ·) ++ [last] := by
  rw [steps, h.segments_eq, List.filter_append]
  simp [h.not_idle]

theorem dropLast_steps : p.steps.dropLast = outer.filter (!isIdle ·) := by
  rw [h.steps_eq, List.dropLast_concat]

theorem dropLast_append_last : p.steps.dropLast ++ [last] = p.steps := by
  rw [h.dropLast_steps, h.steps_eq]

theorem last_ne_empty : last ≠ "" := fun heq => absurd h.not_idle (by simp [heq, isIdle])

theorem last_ne_current : last ≠ "." := fun heq => absurd h.not_idle (by simp [heq, isIdle])

theorem steps_ne_nil : p.steps ≠ [] := by
  rw [h.steps_eq]
  simp

theorem text_ne_empty : p.text ≠ "" := by
  rintro hempty
  have hsegments : p.segments = [""] := by rw [segments, hempty]; rfl
  have hsteps := h.steps_ne_nil
  rw [steps, hsegments] at hsteps
  exact hsteps rfl

end EndsWith

/-! ## Parents -/

/-- A path that nothing idle stands at the end of, unless it is as short as can be. -/
inductive IsTrim (p : Path) : Prop
  | empty (text_eq : p.text = "")
  | top (text_eq : p.text = "/")
  | current (text_eq : p.text = ".")
  | ends {outer : List String} {last : String} (endsWith : p.EndsWith outer last)

theorem trimIdle_starts (segments : List String) : trimIdle segments <+: segments := by
  have hsuffix := List.dropWhile_suffix (p := isIdle) (l := segments.reverse)
  have hprefix := List.reverse_prefix.2 hsuffix
  rwa [List.reverse_reverse] at hprefix

/-- What is left of trimmed segments is nothing, or ends with a step. -/
theorem trimIdle_cases (segments : List String) :
    trimIdle segments = []
      ∨ ∃ init last, trimIdle segments = init ++ [last] ∧ isIdle last = false := by
  cases hdrop : segments.reverse.dropWhile isIdle with
  | nil => exact Or.inl (by rw [trimIdle, hdrop]; rfl)
  | cons last rest =>
    refine Or.inr ⟨rest.reverse, last, by rw [trimIdle, hdrop, List.reverse_cons], ?_⟩
    have hne : segments.reverse.dropWhile isIdle ≠ [] := by simp [hdrop]
    have hhead := List.head_dropWhile_not isIdle hne
    simpa [hdrop] using hhead

/-- Trimming takes no steps away. -/
theorem filter_trimIdle (segments : List String) :
    (trimIdle segments).filter (!isIdle ·) = segments.filter (!isIdle ·) := by
  have hsplit := List.takeWhile_append_dropWhile (p := isIdle) (l := segments.reverse)
  have hidle : (segments.reverse.takeWhile isIdle).reverse.filter (!isIdle ·) = [] := by
    rw [List.filter_eq_nil_iff]
    intro s hs
    have htrue := List.mem_takeWhile_imp (List.mem_reverse.1 hs)
    simp [htrue]
  conv_rhs => rw [← List.reverse_reverse segments, ← hsplit, List.reverse_append,
    List.filter_append, hidle, List.append_nil]
  rfl

theorem split_eq (p : Path) :
    p.split = match p.segments with
      | [] => ("", [])
      | first :: rest =>
        if first = "" ∧ rest ≠ [] then ("/", rest) else if first = "." then (".", rest)
        else ("", first :: rest) := by
  rw [split, segments]
  cases p.text.toList.splitOn '/' with
  | nil => rfl
  | cons first rest =>
    have hempty : String.ofList first = "" ↔ first = [] := by
      rw [← String.toList_inj, String.toList_ofList]
      rfl
    have hcurrent : String.ofList first = "." ↔ first = ['.'] := by
      rw [← String.toList_inj, String.toList_ofList]
      rfl
    simp [hempty, hcurrent]

/-- The path above a path that ends with a step: one step less, and written in front of it. -/
structure IsAbove (q p : Path) (outer : List String) : Prop where
  trim : q.IsTrim
  starts : q.text.toList <+: p.text.toList
  isAbsolute_eq : q.isAbsolute = p.isAbsolute
  steps_eq : q.steps = outer.filter (!isIdle ·)

/-- A path that is not empty starts at the top exactly if a path in front of it does. -/
theorem isAbsolute_eq_of_starts (h : q.text.toList <+: p.text.toList) (hne : q.text ≠ "") :
    q.isAbsolute = p.isAbsolute := by
  obtain ⟨rest, hrest⟩ := h
  rw [isAbsolute, isAbsolute, ← hrest]
  cases htext : q.text.toList with
  | nil => exact absurd (String.toList_eq_nil_iff.1 htext) hne
  | cons c cs => rfl

/-- Trimmed segments of a path make up a path above it. -/
theorem isAbove_ofNames {kept init : List String} {s : String} (h : p.EndsWith outer last)
    (hkept : kept <+: outer) (hsteps : kept.filter (!isIdle ·) = outer.filter (!isIdle ·))
    (hends : kept = init ++ [s]) (hidle : isIdle s = false) : (ofNames kept).IsAbove p outer := by
  have hne : kept ≠ [] := by simp [hends]
  have hslash : ∀ t ∈ kept, '/' ∉ t.toList := by
    intro t ht
    refine slash_not_mem_segments (p := p) ?_
    rw [h.segments_eq]
    exact List.mem_append_left _ (hkept.subset ht)
  have hsegments := segments_ofNames hne hslash
  have hendsWith : (ofNames kept).EndsWith init s := ⟨hsegments.trans hends, hidle⟩
  have hstarts : (ofNames kept).text.toList <+: p.text.toList := by
    conv_rhs => rw [← ofNames_segments p, h.segments_eq]
    exact ofNames_starts (hkept.trans (List.prefix_append _ _))
  exact ⟨.ends hendsWith, hstarts, isAbsolute_eq_of_starts hstarts hendsWith.text_ne_empty,
    by rw [steps, hsegments, hsteps]⟩

theorem trimIdle_concat {init : List String} (hlast : isIdle last = false) :
    trimIdle (init ++ [last]) = init ++ [last] := by
  rw [trimIdle, List.reverse_concat, List.dropWhile_cons, if_neg (by simp [hlast]),
    List.reverse_cons, List.reverse_reverse]

theorem parent?_eq {lead : String} (init : List String) (hsplit : p.split = (lead, init ++ [last]))
    (hlast : isIdle last = false) : p.parent? = some (unsplit lead (trimIdle init)) := by
  rw [parent?, hsplit]
  simp [trimIdle_concat hlast]

/-- The text of a path with something in front of its segments. -/
theorem ofNames_cons (first : String) (hne : parts ≠ []) :
    (ofNames (first :: parts)).text = first ++ "/" ++ (ofNames parts).text :=
  String.intercalate_cons_of_ne_nil hne

/-- The path above one that starts at the top, or with a dot. -/
theorem isAbove_unsplit {lead first : String} {mid : List String}
    (h : p.EndsWith (first :: mid) last)
    (hlead : lead = "/" ∧ first = "" ∨ lead = "." ∧ first = ".") :
    (unsplit lead (trimIdle mid)).IsAbove p (first :: mid) := by
  have hidle : isIdle first = true := by rcases hlead with ⟨-, rfl⟩ | ⟨-, rfl⟩ <;> rfl
  have hfilter : ∀ l : List String, (first :: l).filter (!isIdle ·) = l.filter (!isIdle ·) :=
    fun l => by simp [hidle]
  rcases trimIdle_cases mid with hnil | ⟨init, s, hends, hs⟩
  · -- only the beginning is left
    have htext : (unsplit lead (trimIdle mid)).text = lead := by
      rw [hnil]
      rcases hlead with ⟨rfl, rfl⟩ | ⟨rfl, rfl⟩ <;> rfl
    have hstarts : (unsplit lead (trimIdle mid)).text.toList <+: p.text.toList := by
      rw [htext, ← ofNames_segments p, h.segments_eq, List.cons_append,
        ofNames_cons first (by simp)]
      rcases hlead with ⟨rfl, rfl⟩ | ⟨rfl, rfl⟩
      · simp
      · simp
    have hne : (unsplit lead (trimIdle mid)).text ≠ "" := by
      rw [htext]
      rcases hlead with ⟨rfl, -⟩ | ⟨rfl, -⟩ <;> decide
    refine ⟨?_, hstarts, isAbsolute_eq_of_starts hstarts hne, ?_⟩
    · rcases hlead with ⟨rfl, -⟩ | ⟨rfl, -⟩
      · exact .top htext
      · exact .current htext
    · rw [hfilter, ← filter_trimIdle mid, steps, segments, htext, hnil]
      rcases hlead with ⟨rfl, -⟩ | ⟨rfl, -⟩ <;> rfl
  · have hne : trimIdle mid ≠ [] := by simp [hends]
    have hnames : unsplit lead (trimIdle mid) = ofNames (first :: trimIdle mid) := by
      have htext := ofNames_cons first hne
      rcases hlead with ⟨rfl, rfl⟩ | ⟨rfl, rfl⟩
      · exact congrArg Path.mk htext.symm
      · rw [unsplit, if_neg (by simpa using hne)]
        exact congrArg Path.mk htext.symm
    rw [hnames]
    have hcons : first :: trimIdle mid = (first :: init) ++ [s] := by rw [hends]; rfl
    refine isAbove_ofNames h ?_ ?_ hcons hs
    · exact List.cons_prefix_cons.2 ⟨rfl, trimIdle_starts mid⟩
    · rw [hfilter, hfilter, filter_trimIdle]

/-- If a path ends with a step, there is a path above it. -/
theorem exists_parent (h : p.EndsWith outer last) :
    ∃ q, p.parent? = some q ∧ q.IsAbove p outer := by
  have hsplit := p.split_eq
  rw [h.segments_eq] at hsplit
  cases outer with
  | nil =>
    have hhead : p.isAbsolute = false := by
      have htext : p = ofNames [last] := by rw [← ofNames_segments p, h.segments_eq]; rfl
      have hslash : '/' ∉ last.toList := slash_not_mem_segments (p := p) (by simp [h.segments_eq])
      rw [htext, isAbsolute, ofNames, beq_eq_false_iff_ne]
      intro hhead
      exact hslash (List.mem_of_head? (by simpa using hhead))
    have hsplit : p.split = ("", [] ++ [last]) := by simpa [h.last_ne_current] using hsplit
    exact ⟨_, parent?_eq [] hsplit h.not_idle, .empty rfl, List.nil_prefix, hhead.symm, rfl⟩
  | cons first mid =>
    have hrest : mid ++ [last] ≠ [] := by simp
    simp only [List.cons_append, ne_eq, hrest, not_false_eq_true, and_true] at hsplit
    split at hsplit
    · next hfirst =>
      exact ⟨_, parent?_eq mid hsplit h.not_idle, isAbove_unsplit h (.inl ⟨rfl, hfirst⟩)⟩
    split at hsplit
    · next hfirst =>
      exact ⟨_, parent?_eq mid hsplit h.not_idle, isAbove_unsplit h (.inr ⟨rfl, hfirst⟩)⟩
    · next hempty hcurrent =>
      have hfirst : isIdle first = false := by simp [isIdle, hempty, hcurrent]
      refine ⟨_, parent?_eq (first :: mid) hsplit h.not_idle, ?_⟩
      rcases trimIdle_cases (first :: mid) with hnil | ⟨init, s, hends, hs⟩
      · have hfilter := filter_trimIdle (first :: mid)
        rw [hnil] at hfilter
        simp [hfirst] at hfilter
      · exact isAbove_ofNames h (trimIdle_starts _) (filter_trimIdle _) hends hs

/-- The path above another one is shorter. -/
theorem IsAbove.length_lt (h : q.IsAbove p outer) (hends : p.EndsWith outer last) :
    q.text.length < p.text.length := by
  have hle := h.starts.length_le
  rw [String.length_toList, String.length_toList] at hle
  refine lt_of_le_of_ne hle fun heq => ?_
  have htext := h.starts.eq_of_length (by rw [String.length_toList, String.length_toList, heq])
  have hsteps := h.steps_eq
  rw [steps, segments, htext, ← segments, ← steps, hends.steps_eq] at hsteps
  simp at hsteps

theorem ancestorsWithin_empty (fuel : Nat) : ancestorsWithin fuel ⟨""⟩ = [⟨""⟩] := by
  cases fuel <;> rfl

/-- There is always fuel enough for the paths above a path. -/
theorem ancestorsWithin_eq {fuel : Nat} (h : p.IsTrim) (hfuel : p.text.length ≤ fuel) :
    ancestorsWithin fuel p = p.ancestors := by
  -- on the length, since the path above is shorter
  induction hlength : p.text.length using Nat.strong_induction_on generalizing p fuel with
  | h length ih =>
    subst hlength
    rw [ancestors]
    cases h with
    | empty htext =>
      obtain ⟨text⟩ := p
      cases htext
      rw [ancestorsWithin_empty, ancestorsWithin_empty]
    | top htext =>
      obtain ⟨text⟩ := p
      cases htext
      cases fuel <;> rfl
    | current htext =>
      obtain ⟨text⟩ := p
      cases htext
      obtain ⟨fuel, rfl⟩ := Nat.exists_eq_succ_of_ne_zero (Nat.one_le_iff_ne_zero.1 hfuel)
      show _ :: ancestorsWithin fuel ⟨""⟩ = [⟨"."⟩, ⟨""⟩]
      rw [ancestorsWithin_empty]
    | ends hends =>
      obtain ⟨q, hq, habove⟩ := exists_parent hends
      have hlt := habove.length_lt hends
      obtain ⟨n, hn⟩ := Nat.exists_eq_succ_of_ne_zero (Nat.ne_zero_of_lt hlt)
      obtain ⟨fuel, rfl⟩ := Nat.exists_eq_succ_of_ne_zero
        (Nat.ne_zero_of_lt (Nat.lt_of_lt_of_le hlt hfuel))
      rw [hn, Nat.succ_eq_add_one, Nat.succ_eq_add_one, ancestorsWithin, ancestorsWithin]
      simp only [hq]
      rw [ih _ hlt habove.trim (by omega) rfl, ih _ hlt habove.trim (by omega) rfl]

theorem ancestors_eq (h : p.EndsWith outer last) (hparent : p.parent? = some q)
    (habove : q.IsAbove p outer) : p.ancestors = p :: q.ancestors := by
  have hlt := habove.length_lt h
  obtain ⟨n, hn⟩ := Nat.exists_eq_succ_of_ne_zero (Nat.ne_zero_of_lt hlt)
  rw [ancestors, hn, Nat.succ_eq_add_one, ancestorsWithin]
  simp only [hparent]
  rw [ancestorsWithin_eq habove.trim (by omega)]

/-- What goes from a path to the one below it goes to all trimmed paths. -/
theorem IsTrim.induction {P : Path → Prop} (hempty : P ⟨""⟩) (htop : P ⟨"/"⟩)
    (hcurrent : P ⟨"."⟩)
    (hends : ∀ p q outer last, p.EndsWith outer last → q.IsAbove p outer →
      p.ancestors = p :: q.ancestors → P q → P p) (h : p.IsTrim) : P p := by
  induction hlength : p.text.length using Nat.strong_induction_on generalizing p with
  | h length ih =>
    subst hlength
    cases h with
    | empty htext =>
      obtain ⟨text⟩ := p
      cases htext
      exact hempty
    | top htext =>
      obtain ⟨text⟩ := p
      cases htext
      exact htop
    | current htext =>
      obtain ⟨text⟩ := p
      cases htext
      exact hcurrent
    | ends hendsWith =>
      obtain ⟨q, hq, habove⟩ := exists_parent hendsWith
      exact hends p q _ _ hendsWith habove (ancestors_eq hendsWith hq habove)
        (ih _ (habove.length_lt hendsWith) habove.trim rfl)

/-! ## Paths below another one -/

section

variable {names : List String}

theorem isAbsolute_ofNames (hne : names ≠ []) (hsteps : ∀ n ∈ names, IsStep n) :
    (ofNames names).isAbsolute = false := by
  obtain ⟨first, rest, rfl⟩ := List.exists_cons_of_ne_nil hne
  have hfirst := hsteps first List.mem_cons_self
  have hstarts : first.toList <+: (ofNames (first :: rest)).text.toList :=
    @ofNames_starts [first] _ (List.cons_prefix_cons.2 ⟨rfl, List.nil_prefix⟩)
  rw [isAbsolute, beq_eq_false_iff_ne]
  obtain ⟨c, cs, hcs⟩ := List.exists_cons_of_ne_nil
    (mt String.toList_eq_nil_iff.1 hfirst.ne_empty)
  obtain ⟨more, hmore⟩ := hstarts
  rw [← hmore, hcs]
  rintro ⟨⟩
  exact hfirst.slash_not_mem (by rw [hcs]; exact List.mem_cons_self)

/-- How a path is written with names below it. -/
theorem join_text_cases (out : Path) (hne : names ≠ []) (hsteps : ∀ n ∈ names, IsStep n) :
    out.text = "" ∧ (out.join (ofNames names)).text = (ofNames names).text
      ∨ (∃ front, out.text = front ++ "/")
        ∧ (out.join (ofNames names)).text = out.text ++ (ofNames names).text
      ∨ out.text ≠ ""
        ∧ (out.join (ofNames names)).text = out.text ++ "/" ++ (ofNames names).text := by
  rw [join, isAbsolute_ofNames hne hsteps, if_neg (by simp)]
  by_cases hempty : out.text = ""
  · exact Or.inl ⟨hempty, by simp [hempty]⟩
  · by_cases hslash : out.text.toList.getLast? = some '/'
    · refine Or.inr (Or.inl ⟨?_, by simp [hslash]⟩)
      obtain ⟨front, hfront⟩ := List.getLast?_eq_some_iff.1 hslash
      refine ⟨String.ofList front, ?_⟩
      rw [← String.toList_inj, hfront, String.toList_append, String.toList_ofList]
      rfl
    · exact Or.inr (Or.inr ⟨hempty, by simp [hempty, hslash]⟩)

theorem segments_append (front rest : String) :
    segments ⟨front ++ "/" ++ rest⟩ = segments ⟨front⟩ ++ segments ⟨rest⟩ := by
  simp only [segments, String.toList_append]
  rw [List.append_assoc, show "/".toList ++ rest.toList = '/' :: rest.toList from rfl,
    List.splitOn, List.splitOnP_append_cons _ _ (by simp), List.map_append]
  rfl

/-- The path of names below another one goes through the segments of that one, and then through the
    names. -/
theorem exists_segments_join (out : Path) (hne : names ≠ []) (hsteps : ∀ n ∈ names, IsStep n) :
    ∃ front, (out.join (ofNames names)).segments = front ++ names
      ∧ front.filter (!isIdle ·) = out.steps := by
  have hnames : (ofNames names).segments = names :=
    segments_ofNames hne fun n hn => (hsteps n hn).slash_not_mem
  rcases join_text_cases out hne hsteps with ⟨hempty, htext⟩ | ⟨⟨front, hfront⟩, htext⟩ | ⟨-, htext⟩
  · refine ⟨[], by rw [segments, htext, ← segments, hnames]; rfl, ?_⟩
    rw [steps, segments, hempty]
    rfl
  · refine ⟨segments ⟨front⟩, ?_, ?_⟩
    · rw [segments, htext, hfront]
      exact (segments_append front _).trans (by rw [hnames])
    · have hout : out = ⟨front ++ "/" ++ ""⟩ := by
        rw [String.append_empty, ← hfront]
      rw [hout, steps, segments_append, List.filter_append]
      exact (List.append_nil _).symm
  · refine ⟨out.segments, ?_, rfl⟩
    rw [segments, htext]
    exact (segments_append out.text _).trans (by rw [hnames])

variable {name : String}

theorem steps_join (out : Path) (hne : names ≠ []) (hsteps : ∀ n ∈ names, IsStep n) :
    (out.join (ofNames names)).steps = out.steps ++ names := by
  obtain ⟨front, hsegments, hfront⟩ := exists_segments_join out hne hsteps
  rw [steps, hsegments, List.filter_append, hfront, List.append_right_inj, List.filter_eq_self]
  exact fun n hn => by simp [(hsteps n hn).not_idle]

theorem exists_endsWith_join (out : Path) (hsteps : ∀ n ∈ names ++ [name], IsStep n) :
    ∃ outer, (out.join (ofNames (names ++ [name]))).EndsWith outer name := by
  obtain ⟨front, hsegments, -⟩ := exists_segments_join out (by simp) hsteps
  refine ⟨front ++ names, ?_, (hsteps name (by simp)).not_idle⟩
  rw [hsegments, List.append_assoc]

theorem isAbsolute_join (out : Path) (hne : names ≠ []) (hsteps : ∀ n ∈ names, IsStep n) :
    (out.join (ofNames names)).isAbsolute = out.isAbsolute := by
  rcases join_text_cases out hne hsteps with
    ⟨hempty, htext⟩ | ⟨⟨front, hfront⟩, htext⟩ | ⟨hout, htext⟩
  · have hself := isAbsolute_ofNames hne hsteps
    rw [isAbsolute] at hself ⊢
    rw [htext, hself, isAbsolute, hempty]
    rfl
  · refine (isAbsolute_eq_of_starts ?_ ?_).symm
    · rw [htext, String.toList_append]
      exact List.prefix_append _ _
    · rw [hfront]
      simp
  · refine (isAbsolute_eq_of_starts ?_ hout).symm
    rw [htext, String.toList_append, String.toList_append, List.append_assoc]
    exact List.prefix_append _ _

theorem isProper_join (out : Path) (hne : names ≠ []) (hsteps : ∀ n ∈ names, IsStep n)
    (hnames : (ofNames names).IsProper) : (out.join (ofNames names)).IsProper ↔ out.IsProper := by
  rw [IsProper] at hnames
  rw [IsProper, IsProper]
  rcases join_text_cases out hne hsteps with ⟨hempty, htext⟩ | ⟨-, htext⟩ | ⟨-, htext⟩
  · rw [htext, hempty]
    exact iff_of_true hnames (by decide)
  · rw [htext, String.toList_append, List.mem_append, or_iff_left hnames]
  · rw [htext, String.toList_append, String.toList_append, List.mem_append, List.mem_append,
      or_iff_left hnames, or_iff_left (by decide)]

end

end Path

end Flowchart
