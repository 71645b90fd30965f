import Lifecycle.Proofs.Steady

namespace Lifecycle

def Segment.source : Segment → List Char
  | .literal c => [c]
  | .placeholder name => '\x7b' :: (name ++ ['\x7d'])

theorem Segment.source_ne_nil (p : Segment) : p.source ≠ [] := by
  cases p <;> simp [source]

namespace Template

def IsName (name : List Char) : Prop := name ≠ [] ∧ ∀ c ∈ name, Text.isWord c = true

/-- A text cut at its placeholders. Nothing of it is lost, what is cut out is a name in brackets, and
wherever a name stands in brackets it is cut out. -/
structure IsCut (cs : List Char) (pieces : List Segment) : Prop where
  source : pieces.flatMap Segment.source = cs
  isName : ∀ name, .placeholder name ∈ pieces → IsName name
  all : ∀ before name after, IsName name →
    cs = before ++ ((Segment.placeholder name).source ++ after) →
    ∃ front back, pieces = front ++ .placeholder name :: back ∧
      front.flatMap Segment.source = before

/-- A placeholder begins in one text and is completed by the text that follows. -/
def Straddles (a b : List Char) : Prop :=
  ∃ before first second after, IsName (first ++ second) ∧ a = before ++ '\x7b' :: first ∧
    b = second ++ '\x7d' :: after

variable {cs rest name : List Char} {pieces : List Segment} {c : Char}

section Names

theorem not_isWord_open : Text.isWord '\x7b' = false := by decide

theorem not_isWord_close : Text.isWord '\x7d' = false := by decide

theorem IsName.open_not_mem (h : IsName name) : '\x7b' ∉ name := by
  intro hm
  have hw := h.2 _ hm
  rw [not_isWord_open] at hw
  contradiction

theorem placeholder?_eq_some_iff :
    placeholder? cs = some (name, rest) ↔ IsName name ∧ cs = name ++ '\x7d' :: rest := by
  unfold placeholder?
  constructor
  · intro h
    have hcut := List.takeWhile_append_dropWhile (p := Text.isWord) (l := cs)
    split at h
    next r hr =>
      split at h
      · cases h
      next hne =>
        cases h
        rw [hr] at hcut
        refine ⟨⟨by simpa using hne, ?_⟩, hcut.symm⟩
        intro c hc
        exact List.all_eq_true.mp List.all_takeWhile c hc
    next => cases h
  · rintro ⟨⟨hne, hall⟩, rfl⟩
    -- the bracket that closes is no letter, so the name is taken whole and no more
    have htake : (name ++ '\x7d' :: rest).takeWhile Text.isWord = name := by
      rw [List.takeWhile_append_of_pos hall, List.takeWhile_cons, not_isWord_close]
      simp
    have hdrop : (name ++ '\x7d' :: rest).dropWhile Text.isWord = '\x7d' :: rest := by
      rw [List.dropWhile_append_of_pos hall, List.dropWhile_cons, not_isWord_close]
      simp
    simp [htake, hdrop, hne]

theorem IsName.eq_of_append_eq {name' rest' : List Char} (h : IsName name) (h' : IsName name')
    (he : name ++ '\x7d' :: rest = name' ++ '\x7d' :: rest') : name = name' ∧ rest = rest' := by
  have hfirst : placeholder? (name ++ '\x7d' :: rest) = some (name, rest) :=
    placeholder?_eq_some_iff.mpr ⟨h, rfl⟩
  have hsecond := placeholder?_eq_some_iff.mpr ⟨h', he⟩
  rw [hfirst] at hsecond
  cases hsecond
  exact ⟨rfl, rfl⟩

theorem IsName.append_of_open {before after : List Char} (h : IsName name)
    (he : name ++ '\x7d' :: rest = before ++ '\x7b' :: after) :
    ∃ between, before = name ++ '\x7d' :: between ∧ rest = between ++ '\x7b' :: after := by
  rcases List.append_eq_append_iff.mp he with ⟨l, rfl, hl⟩ | ⟨l, rfl, hl⟩
  · cases l with
    | nil => cases hl
    | cons b l =>
      obtain ⟨rfl, rfl⟩ := List.cons.inj hl
      exact ⟨l, rfl, rfl⟩
  · cases l with
    | nil => cases hl
    | cons b l =>
      obtain ⟨rfl, _⟩ := List.cons.inj hl
      exact absurd (by simp) h.open_not_mem

end Names

theorem segments_placeholder (h : IsName name) :
    segments ((Segment.placeholder name).source ++ rest) = .placeholder name :: segments rest := by
  have hp : placeholder? (name ++ '\x7d' :: rest) = some (name, rest) :=
    placeholder?_eq_some_iff.mpr ⟨h, rfl⟩
  simp only [Segment.source, List.cons_append, List.append_assoc, List.nil_append]
  rw [segments, if_pos rfl]
  split
  next found => rw [hp] at found; cases found; rfl
  next hnone => rw [hp] at hnone; cases hnone

theorem segments_literal
    (h : ∀ name after, IsName name → c :: rest ≠ (Segment.placeholder name).source ++ after) :
    segments (c :: rest) = .literal c :: segments rest := by
  rw [segments]
  split
  next hc =>
    split
    next name after found =>
      obtain ⟨hname, rfl⟩ := placeholder?_eq_some_iff.mp found
      refine absurd ?_ (h name after hname)
      simp [hc, Segment.source]
    next => rfl
  next => rfl

namespace IsCut

theorem nil : IsCut [] [] where
  source := rfl
  isName name h := by cases h
  all before name after _ h := by
    cases before <;> cases h

theorem literal (h : IsCut cs pieces)
    (hc : ∀ name after, IsName name → c :: cs ≠ (Segment.placeholder name).source ++ after) :
    IsCut (c :: cs) (.literal c :: pieces) where
  source := by
    rw [List.flatMap_cons, h.source]
    rfl
  isName name hm := by
    rcases List.mem_cons.mp hm with hm | hm
    · cases hm
    · exact h.isName name hm
  all before name after hn he := by
    cases before with
    | nil => exact absurd he (hc name after hn)
    | cons b before =>
      obtain ⟨rfl, hcs⟩ := List.cons.inj he
      obtain ⟨front, back, rfl, hfront⟩ := h.all before name after hn hcs
      exact ⟨.literal c :: front, back, rfl, by rw [List.flatMap_cons, hfront]; rfl⟩

theorem placeholder (h : IsCut cs pieces) (hn : IsName name) :
    IsCut ((Segment.placeholder name).source ++ cs) (.placeholder name :: pieces) where
  source := by rw [List.flatMap_cons, h.source]
  isName other hm := by
    rcases List.mem_cons.mp hm with hm | hm
    · cases hm
      exact hn
    · exact h.isName other hm
  all before other after ho he := by
    simp only [Segment.source, List.cons_append, List.append_assoc, List.nil_append] at he
    cases before with
    | nil =>
      obtain ⟨rfl, rfl⟩ := hn.eq_of_append_eq ho (List.cons.inj he).2
      exact ⟨[], pieces, rfl, rfl⟩
    | cons b before =>
      obtain ⟨rfl, hinside⟩ := List.cons.inj he
      -- the brackets of two placeholders do not cross
      obtain ⟨between, rfl, hcs⟩ := hn.append_of_open hinside
      obtain ⟨front, back, rfl, rfl⟩ := h.all between other after ho (by simp [hcs, Segment.source])
      exact ⟨.placeholder name :: front, back, rfl, by simp [Segment.source]⟩

theorem tail {p : Segment} (h : IsCut cs (p :: pieces)) :
    IsCut (pieces.flatMap Segment.source) pieces where
  source := rfl
  isName name hm := h.isName name (List.mem_cons_of_mem _ hm)
  all before name after hn he := by
    have hcs : cs = (p.source ++ before) ++ ((Segment.placeholder name).source ++ after) := by
      rw [← h.source, List.flatMap_cons, he, List.append_assoc]
    obtain ⟨front, back, hp, hfront⟩ := h.all _ name after hn hcs
    cases front with
    | nil =>
      have hempty := List.append_eq_nil_iff.mp hfront.symm
      exact absurd hempty.1 p.source_ne_nil
    | cons q front =>
      obtain ⟨rfl, rfl⟩ := List.cons.inj hp
      rw [List.flatMap_cons] at hfront
      exact ⟨front, back, rfl, List.append_cancel_left hfront⟩

end IsCut

theorem isCut_segments (cs : List Char) : IsCut cs (segments cs) := by
  fun_induction segments cs with
  | case1 => exact .nil
  | case2 rest name after found ih =>
    obtain ⟨hname, rfl⟩ := placeholder?_eq_some_iff.mp found
    have hcut := ih.placeholder hname
    simpa [Segment.source] using hcut
  | case3 rest hnone ih =>
    apply ih.literal
    intro name after hname he
    have hsome : placeholder? rest = some (name, after) :=
      placeholder?_eq_some_iff.mpr ⟨hname, by simpa [Segment.source] using he⟩
    rw [hnone] at hsome
    contradiction
  | case4 c rest hc ih =>
    apply ih.literal
    intro name after _ he
    exact hc (List.cons.inj he).1

/-- There is one cut of a text, the one that is made from the left. -/
theorem isCut_iff : IsCut cs pieces ↔ pieces = segments cs := by
  constructor
  · intro h
    -- on the pieces: the first of any cut is the one that is made from the left
    induction pieces generalizing cs with
    | nil =>
      rw [← h.source, List.flatMap_nil, segments]
    | cons p pieces ih =>
      have hrest := ih h.tail
      rw [← h.source, List.flatMap_cons]
      cases p with
      | placeholder name =>
        rw [segments_placeholder (h.isName name List.mem_cons_self), ← hrest]
      | literal c =>
        -- a placeholder that begins here would be a piece of the cut, in the place of this character
        have hfree : ∀ name after, IsName name →
            c :: pieces.flatMap Segment.source ≠ (Segment.placeholder name).source ++ after := by
          intro name after hname he
          have hcs : cs = [] ++ ((Segment.placeholder name).source ++ after) := by
            rw [← h.source, List.nil_append, ← he]
            rfl
          obtain ⟨front, back, hp, hfront⟩ := h.all [] name after hname hcs
          cases front with
          | nil => cases hp
          | cons q front =>
            rw [List.flatMap_cons] at hfront
            exact absurd (List.append_eq_nil_iff.mp hfront).1 q.source_ne_nil
        have hsource : (Segment.literal c).source ++ pieces.flatMap Segment.source =
            c :: pieces.flatMap Segment.source := rfl
        rw [hsource, segments_literal hfree, ← hrest]
  · rintro rfl
    exact isCut_segments cs

/-- A placeholder of two texts together lies in one of them, unless it straddles them. -/
theorem placeholder_of_append {a b before after : List Char} (h : ¬ Straddles a b)
    (hn : IsName name) (he : a ++ b = before ++ ((Segment.placeholder name).source ++ after)) :
    (∃ more, a = before ++ ((Segment.placeholder name).source ++ more)) ∨
      ∃ less, before = a ++ less ∧ b = less ++ ((Segment.placeholder name).source ++ after) := by
  rcases List.append_eq_append_iff.mp he with ⟨less, hbefore, hb⟩ | ⟨m, ha, hm⟩
  · exact .inr ⟨less, hbefore, hb⟩
  rcases List.append_eq_append_iff.mp hm with ⟨more, hmore, _⟩ | ⟨k, hk, hb⟩
  · exact .inl ⟨more, by rw [ha, hmore]⟩
  -- the end of the one text and the start of the other are the placeholder
  cases m with
  | nil => exact .inr ⟨[], by simpa using ha.symm, by rw [hb, hk]; rfl⟩
  | cons d first =>
    obtain ⟨rfl, hname⟩ := List.cons.inj hk
    rcases List.eq_nil_or_concat k with rfl | ⟨second, e, rfl⟩
    · refine .inl ⟨[], ?_⟩
      rw [ha, hk]
      simp
    · rw [List.concat_eq_append] at hname hb
      obtain ⟨rfl, hclose⟩ := List.append_inj' (hname.trans (List.append_assoc ..).symm) rfl
      cases hclose
      exact absurd ⟨before, first, second, after, hn, ha, by simpa using hb⟩ h

/-- Where a text goes on with what cannot stand in a placeholder, none straddles the cut before it. -/
theorem not_straddles_of_head? {a b : List Char} (hb : b.head? = some c)
    (hword : Text.isWord c = false) (hclose : c ≠ '\x7d') : ¬ Straddles a b := by
  rintro ⟨before, first, second, after, hname, _, rfl⟩
  cases second with
  | nil =>
    cases hb
    exact hclose rfl
  | cons d second =>
    cases hb
    have hd : Text.isWord c = true := hname.2 c (by simp)
    rw [hword] at hd
    contradiction

theorem segments_append {a b : List Char} (h : ¬ Straddles a b) :
    segments (a ++ b) = segments a ++ segments b := by
  have hcut : IsCut (a ++ b) (segments a ++ segments b) := by
    have ha := isCut_segments a
    have hb := isCut_segments b
    refine ⟨by rw [List.flatMap_append, ha.source, hb.source], ?_, ?_⟩
    · intro name hm
      rcases List.mem_append.mp hm with hm | hm
      · exact ha.isName name hm
      · exact hb.isName name hm
    · intro before name after hn he
      rcases placeholder_of_append h hn he with ⟨more, hmore⟩ | ⟨less, rfl, hless⟩
      · obtain ⟨front, back, hf, rfl⟩ := ha.all before name more hn hmore
        exact ⟨front, back ++ segments b, by rw [hf]; simp, rfl⟩
      · obtain ⟨front, back, hf, rfl⟩ := hb.all less name after hn hless
        refine ⟨segments a ++ front, back, by rw [hf]; simp, ?_⟩
        rw [List.flatMap_append, ha.source]
  exact (isCut_iff.mp hcut).symm

section Rendering

variable {display : Value → Except Fault String} {keys : Table} {p : Segment}
  {r : Except Fault String}

/-- What comes of a piece of a template by itself: a value as it is displayed, the bare name of what there
is no value for, or any other character. -/
inductive Shows (display : Value → Except Fault String) (keys : Table) :
    Segment → Except Fault String → Prop
  | literal (c : Char) : Shows display keys (.literal c) (.ok (String.singleton c))
  | value {name : List Char} {v : Value}
    (h : Table.lookup? keys (.text (String.ofList name)) = some v) :
    Shows display keys (.placeholder name) (display v)
  | bare {name : List Char} (h : Table.lookup? keys (.text (String.ofList name)) = none) :
    Shows display keys (.placeholder name) (.ok (String.ofList name))

/-- What comes of pieces one after the other, up to the first of which nothing can be shown. -/
inductive Renders (display : Value → Except Fault String) (keys : Table) :
    List Segment → Except Fault String → Prop
  | nil : Renders display keys [] (.ok "")
  | cons {p : Segment} {pieces : List Segment} {text : String} {r : Except Fault String}
    (h : Shows display keys p (.ok text)) (hr : Renders display keys pieces r) :
    Renders display keys (p :: pieces) (r.map (text ++ ·))
  | stop {p : Segment} {pieces : List Segment} {f : Fault}
    (h : Shows display keys p (.error f)) : Renders display keys (p :: pieces) (.error f)

theorem shows_iff : Shows display keys p r ↔ r = segmentText display keys p := by
  cases p with
  | literal c =>
    constructor
    · rintro ⟨⟩
      rfl
    · rintro rfl
      exact .literal c
  | placeholder name =>
    rw [segmentText, fill]
    constructor
    · rintro (_ | h | h)
      · rw [h]
      · rw [h]
        rfl
    · rintro rfl
      split
      next h => exact .bare h
      next h => exact .value h

theorem renders_iff :
    Renders display keys pieces r ↔ r = String.join <$> pieces.mapM (segmentText display keys) := by
  induction pieces generalizing r with
  | nil =>
    constructor
    · rintro ⟨⟩
      rfl
    · rintro rfl
      exact .nil
  | cons p pieces ih =>
    -- what is shown first stands before what becomes of the others, also if that is a failure
    have hcons : ∀ text, segmentText display keys p = .ok text →
        String.join <$> (p :: pieces).mapM (segmentText display keys) =
          (String.join <$> pieces.mapM (segmentText display keys)).map (text ++ ·) := by
      intro text ht
      rw [List.mapM_cons, ht]
      cases pieces.mapM (segmentText display keys) with
      | error f => rfl
      | ok texts =>
        show Except.ok (String.join (text :: texts)) = Except.ok (text ++ String.join texts)
        rw [String.join_cons]
    constructor
    · rintro (_ | ⟨h, hr⟩ | h)
      · rw [hcons _ (shows_iff.mp h).symm, ih.mp hr]
      · rw [List.mapM_cons, ← shows_iff.mp h]
        rfl
    · rintro rfl
      cases ht : segmentText display keys p with
      | error f =>
        rw [List.mapM_cons, ht]
        exact .stop (shows_iff.mpr ht.symm)
      | ok text =>
        rw [hcons text ht]
        exact .cons (shows_iff.mpr ht.symm) (ih.mpr rfl)

theorem render_eq (template : String) : render display template keys =
    String.join <$> (segments template.toList).mapM (segmentText display keys) := by
  rw [render, map_eq_pure_bind]

end Rendering

theorem render_append {m : Type → Type} [Monad m] [LawfulMonad m]
    (display : Value → m String) (keys : Table) {a b : String}
    (h : ¬ Straddles a.toList b.toList) : render display (a ++ b) keys = (do
      let x ← render display a keys
      let y ← render display b keys
      return x ++ y) := by
  unfold render
  rw [String.toList_append, segments_append h, List.mapM_append]
  simp

end Template

namespace Act

/-- A message is its template cut at the placeholders, in the one way there is, with each replaced by
what it stands for and not looked at again. It fails where a value that it shows cannot be shown, and
for nothing else. So templates that no placeholder straddles may be put together before they are
rendered, or after. -/
theorem render_cuts (keys : Table) :
    (∀ (template : String) (w : World), ∃ pieces r w',
      (∀ others, Template.IsCut template.toList others ↔ others = pieces) ∧
        Template.Renders w.displayed keys pieces r ∧
          (render template keys).run.run w = (r, w') ∧ w'.Like w) ∧
    ∀ a b : String, ¬ Template.Straddles a.toList b.toList → render (a ++ b) keys = (do
      let x ← render a keys
      let y ← render b keys
      return x ++ y) := by
  refine ⟨?_, fun a b h => Template.render_append display keys h⟩
  intro template w
  obtain ⟨w', hrun, hw'⟩ := steady_render template keys w (.refl w)
  rw [Template.render_eq] at hrun
  exact ⟨_, _, w', fun others => Template.isCut_iff, Template.renders_iff.mpr rfl, hrun, hw'⟩

/-- A value and the token that look like placeholders are shown as they are, between brackets that open
none. -/
theorem render_cuts_nested :
    let keys : Table := [(.text "old", .text "\x7bnew\x7d"), (.text "new", .none)]
    let w : World := { cached := some { validator := { absentToken := "\x7bold\x7d" } } }
    let a := "\x7b\x7bold\x7d\x7d"
    let b := " to \x7bnew\x7d or \x7bnope\x7d"
    ¬ Template.Straddles a.toList b.toList ∧
      (∃ w', (render (a ++ b) keys).run.run w =
        (.ok "\x7b\x7bnew\x7d\x7d to \x7bold\x7d or nope", w') ∧ w'.Like w) ∧
      render (a ++ b) keys = (do
        let x ← render a keys
        let y ← render b keys
        return x ++ y) := by
  intro keys w a b
  have hspace : b.toList.head? = some ' ' := by decide +kernel
  have hapart : ¬ Template.Straddles a.toList b.toList :=
    Template.not_straddles_of_head? hspace (by decide) (by decide)
  obtain ⟨hcuts, hjoin⟩ := render_cuts keys
  refine ⟨hapart, ?_, hjoin a b hapart⟩
  obtain ⟨pieces, r, w', hcut, hr, hrun, hlike⟩ := hcuts (a ++ b) w
  obtain rfl := (hcut _).mp (Template.isCut_segments _)
  rw [Template.renders_iff.mp hr] at hrun
  have htext : (String.join <$> (Template.segments (a ++ b).toList).mapM
      (Template.segmentText w.displayed keys)).toOption =
        some "\x7b\x7bnew\x7d\x7d to \x7bold\x7d or nope" := by
    decide +kernel
  generalize String.join <$> (Template.segments (a ++ b).toList).mapM
    (Template.segmentText w.displayed keys) = outcome at htext hrun
  cases outcome with
  | error f => cases htext
  | ok text =>
    cases htext
    exact ⟨w', hrun, hlike⟩

/-- A class that declares its records' text to be nothing makes a message with one of them fail. -/
theorem render_undisplayed :
    let v : Value := .record 1 (.mk 2 "Todo" [("__str__", .plain .none)]) []
    let w : World := { cached := some {} }
    (render "\x7bold\x7d" [(.text "old", v)]).run.run w =
      (.error (.misuse (.notCallable "NoneType")), w) := by
  intro v w
  have hcut : Template.segments "\x7bold\x7d".toList = [.placeholder ['o', 'l', 'd']] := by
    decide +kernel
  rw [render, Template.render, hcut]
  rfl

end Act

end Lifecycle
