import Lifecycle.Log.Console
import Lifecycle.Log.Entry
import Lifecycle.Proofs.Fields

namespace Lifecycle.Log

/-- A name is another one, or that and a dot are what it begins with. -/
def IsWithin (top name : String) : Prop := name = top ∨ (top ++ ".").toList <+: name.toList

instance (top name : String) : Decidable (IsWithin top name) := inferInstanceAs (Decidable (_ ∨ _))

theorem mem_beforeDots {p cs : List Char} : p ∈ beforeDots cs ↔ p ++ ['.'] <+: cs := by
  induction cs generalizing p with
  | nil => simp [beforeDots]
  | cons c cs ih =>
    rw [beforeDots, List.mem_append, List.mem_map]
    cases p with
    | nil => by_cases hc : c = '.' <;> simp [hc, eq_comm]
    | cons d p =>
      have hlast : d :: p ∉ (if c = '.' then [[]] else [] : List (List Char)) := by
        split <;> simp
      rw [or_iff_left hlast, List.cons_append, List.cons_prefix_cons, ← ih]
      constructor
      · rintro ⟨q, hq, hqp⟩
        obtain ⟨rfl, rfl⟩ := List.cons.inj hqp
        exact ⟨rfl, hq⟩
      · rintro ⟨rfl, hp⟩
        exact ⟨p, hp, rfl⟩

/-- At the end of a lineage, and only there, stands the top logger. The others are those that the name
is within. -/
theorem lineage_eq (name : String) : ∃ below, lineage name = below ++ [topName] ∧
    ∀ n, n ∈ below ↔ n ≠ topName ∧ name ≠ "root" ∧ IsWithin n name := by
  unfold lineage
  split
  next htop =>
    refine ⟨[], rfl, fun n => iff_of_false List.not_mem_nil ?_⟩
    rintro ⟨hn, hroot, hwithin⟩
    obtain rfl : name = topName := htop.resolve_right hroot
    rcases hwithin with rfl | hwithin
    · exact hn rfl
    · simp [topName] at hwithin
  next hname =>
    rw [not_or] at hname
    refine ⟨_, rfl, fun n => ?_⟩
    -- what stands before a dot of the name, if that is anything, is a name that it is within
    have hbefore : n ∈ ((beforeDots name.toList).filter (· ≠ [])).map String.ofList ↔
        n ≠ topName ∧ (n ++ ".").toList <+: name.toList := by
      simp only [List.mem_map, List.mem_filter, mem_beforeDots, decide_eq_true_eq]
      constructor
      · rintro ⟨p, ⟨hp, hne⟩, rfl⟩
        refine ⟨fun h => hne ?_, by simpa using hp⟩
        simpa [topName] using h
      · rintro ⟨hne, hn⟩
        refine ⟨n.toList, ⟨by simpa using hn, fun h => hne ?_⟩, String.ofList_toList⟩
        simpa [topName] using h
    rw [List.mem_cons, hbefore, IsWithin]
    constructor
    · rintro (rfl | ⟨hn, hp⟩)
      · exact ⟨hname.1, hname.2, .inl rfl⟩
      · exact ⟨hn, hname.2, .inr hp⟩
    · rintro ⟨hn, _, rfl | hp⟩
      · exact .inl rfl
      · exact .inr ⟨hn, hp⟩

namespace Hierarchy

variable {h : Hierarchy} {s : Setup} {name : String}

theorem logger_update (h : Hierarchy) (name : String) (f : Logger → Logger) (other : String) :
    (h.update name f).logger other = if other = name then f (h.logger name) else h.logger other := by
  unfold update logger
  rw [field?_putField]
  split <;> rfl

theorem logger_configure (h : Hierarchy) (s : Setup) (name : String) :
    (h.configure s).logger name =
      if name = topName then { level := some .warning, handlers := [s.form] }
      else if name = libraryName then { h.logger name with level := some s.libraryLevel }
      else if name = databaseName then { h.logger name with level := some .warning }
      else h.logger name := by
  have hlibrary : libraryName ≠ topName := by decide
  have hdatabase : databaseName ≠ topName := by decide
  have hother : databaseName ≠ libraryName := by decide
  have hfresh : ({ h with structured := true } : Hierarchy).logger = h.logger := rfl
  simp only [configure, setLevel, addHandler, clearHandlers, logger_update, hfresh]
  -- the three loggers are different ones, so none of the changes is made over another
  by_cases htop : name = topName
  · simp [htop, hlibrary.symm, hdatabase.symm]
  · by_cases hl : name = libraryName
    · simp [hl, hlibrary, hother.symm]
    · by_cases hd : name = databaseName
      · simp [hd, hdatabase, hother]
      · simp [htop, hl, hd]

/-- No logger but the top one has handlers, and none but three has a level. -/
structure IsPlain (h : Hierarchy) : Prop where
  handlers : ∀ name, name ≠ topName → (h.logger name).handlers = []
  level : ∀ name, name ∉ [topName, libraryName, databaseName] → (h.logger name).level = none

/-- What setting up leaves, whatever was set up before. -/
structure IsSetUp (h : Hierarchy) (s : Setup) : Prop extends h.IsPlain where
  top : h.logger topName = { level := some .warning, handlers := [s.form] }
  library : (h.logger libraryName).level = some s.libraryLevel
  database : (h.logger databaseName).level = some .warning
  structured : h.structured = true

theorem isPlain_initial : ({} : Hierarchy).IsPlain := by
  have hlogger : ∀ name, ({} : Hierarchy).logger name =
      if topName = name ∨ databaseName = name then { level := some .warning } else {} := by
    intro name
    simp only [logger, field?_cons]
    by_cases htop : topName = name
    · simp [htop]
    · by_cases hd : databaseName = name
      · simp [hd]
      · simp [htop, hd, field?]
  constructor
  · intro name _
    rw [hlogger]
    split <;> rfl
  · intro name hname
    simp only [List.mem_cons, List.not_mem_nil, or_false, not_or] at hname
    rw [hlogger, if_neg fun h => h.elim (hname.1 ·.symm) (hname.2.2 ·.symm)]

theorem IsPlain.isSetUp_configure (hp : h.IsPlain) (s : Setup) : (h.configure s).IsSetUp s where
  handlers := by
    intro name htop
    rw [logger_configure, if_neg htop]
    split
    · exact hp.handlers name htop
    · split
      · exact hp.handlers name htop
      · exact hp.handlers name htop
  level := by
    intro name hname
    have hother := hp.level name hname
    simp only [List.mem_cons, List.not_mem_nil, or_false, not_or] at hname
    rw [logger_configure, if_neg hname.1, if_neg hname.2.1, if_neg hname.2.2, hother]
  top := by rw [logger_configure, if_pos rfl]
  library := by rw [logger_configure, if_neg (by decide), if_pos rfl]
  database := by rw [logger_configure, if_neg (by decide), if_neg (by decide), if_pos rfl]
  structured := rfl

end Hierarchy

def Setup.threshold (s : Setup) (name : String) : Level :=
  if s.verbose ∧ IsWithin libraryName name then .debug else .warning

def Setup.written (s : Setup) (e : Event) : List Line :=
  if (s.threshold e.logger).rank ≤ e.level.rank then [if s.json then .json e else .console e] else []

theorem IsWithin.beginning {top name : String} (h : IsWithin top name) :
    top.toList <+: name.toList := by
  rcases h with rfl | h
  · exact List.prefix_rfl
  · rw [String.toList_append] at h
    exact (List.prefix_append _ _).trans h

theorem not_isWithin_database {name : String} (h : IsWithin libraryName name) :
    ¬ IsWithin databaseName name := by
  intro hd
  have hboth := List.prefix_of_prefix_length_le hd.beginning h.beginning (by decide)
  exact absurd hboth (by decide)

theorem findSome?_eq_some_of_forall {α β : Type} {f : α → Option β} {xs : List α} {b : β}
    (hall : ∀ x ∈ xs, f x = none ∨ f x = some b) (hex : ∃ x ∈ xs, f x = some b) :
    xs.findSome? f = some b := by
  obtain ⟨x, hx, hb⟩ := hex
  cases hfind : xs.findSome? f with
  | none =>
    rw [List.findSome?_eq_none_iff.mp hfind x hx] at hb
    cases hb
  | some c =>
    obtain ⟨y, hy, hc⟩ := List.exists_of_findSome?_eq_some hfind
    rcases hall y hy with h | h
    · rw [h] at hc
      cases hc
    · exact hc.symm.trans h

namespace Hierarchy

variable {h : Hierarchy} {s : Setup}

theorem IsSetUp.handlers_eq (hs : h.IsSetUp s) (name : String) : h.handlers name = [s.form] := by
  obtain ⟨below, hlineage, hbelow⟩ := lineage_eq name
  have hnone : below.flatMap (fun n => (h.logger n).handlers) = [] := by
    rw [List.flatMap_eq_nil_iff]
    exact fun n hn => hs.handlers n ((hbelow n).mp hn).1
  rw [handlers, hlineage, List.flatMap_append, hnone, List.flatMap_singleton, hs.top]
  rfl

theorem IsSetUp.level?_eq (hs : h.IsSetUp s) (name : String) :
    h.level? name = some (s.threshold name) := by
  obtain ⟨below, hlineage, hbelow⟩ := lineage_eq name
  have hplain : ∀ n ∈ below, n ≠ libraryName → n ≠ databaseName → (h.logger n).level = none := by
    intro n hn hl hd
    refine hs.level n ?_
    simp [((hbelow n).mp hn).1, hl, hd]
  rw [level?, hlineage]
  -- No name is within both, so on the way up from one that is within the library the only level before
  -- the top is the library's.
  by_cases hwithin : IsWithin libraryName name
  · have hmem : libraryName ∈ below := by
      refine (hbelow _).mpr ⟨by decide, ?_, hwithin⟩
      rintro rfl
      exact absurd hwithin (by decide)
    have hfind : below.findSome? (fun n => (h.logger n).level) = some s.libraryLevel := by
      apply findSome?_eq_some_of_forall
      · intro n hn
        by_cases hl : n = libraryName
        · exact .inr (hl ▸ hs.library)
        · refine .inl (hplain n hn hl ?_)
          rintro rfl
          exact not_isWithin_database hwithin ((hbelow _).mp hn).2.2
      · exact ⟨libraryName, hmem, hs.library⟩
    rw [List.findSome?_append, hfind, Setup.threshold, Setup.libraryLevel]
    simp [hwithin]
  · rw [Setup.threshold, if_neg fun hv => hwithin hv.2]
    apply findSome?_eq_some_of_forall
    · intro n hn
      rcases List.mem_append.mp hn with hn | hn
      · by_cases hd : n = databaseName
        · exact .inr (hd ▸ hs.database)
        · refine .inl (hplain n hn ?_ hd)
          rintro rfl
          exact hwithin ((hbelow _).mp hn).2.2
      · rw [List.mem_singleton.mp hn, hs.top]
        exact .inr rfl
    · exact ⟨topName, by simp, by rw [hs.top]⟩

theorem IsSetUp.reaches_iff (hs : h.IsSetUp s) (name : String) (level : Level) :
    h.reaches name level = true ↔ (s.threshold name).rank ≤ level.rank := by
  rw [reaches, hs.level?_eq]
  exact decide_eq_true_iff

end Hierarchy

/-- What can happen to a log: it is set up anew, or an event is written. -/
inductive Happening where
  | setUp (s : Setup)
  | event (e : Event)

namespace Sink

def happen (k : Sink) : Happening → Sink
  | .setUp s => k.configure s
  | .event e => k.write e

/-- Writes what has become of a call of a logger, if there is anything to write. -/
def send (k : Sink) (e? : Option Event) : Sink := e?.elim k k.write

/-- Whatever happens to a log, only levels and handlers of the known loggers change. -/
theorem isPlain_happenings (past : List Happening) :
    (past.foldl happen {}).setup.IsPlain := by
  suffices ∀ k : Sink, k.setup.IsPlain → (past.foldl happen k).setup.IsPlain from
    this {} Hierarchy.isPlain_initial
  induction past with
  | nil => exact fun k hk => hk
  | cons b past ih =>
    intro k hk
    apply ih
    cases b with
    | setUp s => exact (hk.isSetUp_configure s).toIsPlain
    | event e => exact hk

theorem setup_foldl_write (k : Sink) (events : List Event) :
    (events.foldl write k).setup = k.setup := by
  induction events generalizing k with
  | nil => rfl
  | cons e events ih => exact ih (k.write e)

theorem isSetUp_last (past : List Happening) (s : Setup) (events : List Event) :
    (events.foldl write ((past.foldl happen {}).configure s)).setup.IsSetUp s := by
  rw [setup_foldl_write]
  exact (isPlain_happenings past).isSetUp_configure s

theorem linesOf_eq {h : Hierarchy} {s : Setup} (hs : h.IsSetUp s) (e : Event) :
    linesOf h e = s.written e := by
  unfold linesOf Setup.written
  by_cases hreach : (s.threshold e.logger).rank ≤ e.level.rank
  · rw [if_pos ((hs.reaches_iff _ _).mpr hreach), if_pos hreach, hs.handlers_eq]
    simp only [List.map_cons, List.map_nil, Setup.form]
    split <;> rfl
  · rw [if_neg fun h => hreach ((hs.reaches_iff _ _).mp h), if_neg hreach]

theorem lines_write {k : Sink} {s : Setup} (hs : k.setup.IsSetUp s) (e : Event) :
    (k.write e).lines = k.lines ++ s.written e := by
  rw [write, linesOf_eq hs]

end Sink

theorem plainEntry_eq {h : Hierarchy} {s : Setup} (hs : h.IsSetUp s) {logger method : String}
    {level : Level} {template message : String} {args : List Value}
    (hmethod : Level.ofMethod? method = some level) (hmessage : message? template args = some message) :
    plainEntry h logger method template args =
      .ok (if (s.threshold logger).rank ≤ level.rank then some {
        front := .plain, logger, level, message, tellsFailure := method = "exception" } else none) := by
  unfold plainEntry
  rw [hmethod]
  by_cases hreach : (s.threshold logger).rank ≤ level.rank
  · simp only [(hs.reaches_iff logger level).mpr hreach, if_pos hreach, if_true, hmessage]
    rfl
  · have hno : h.reaches logger level = false :=
      Bool.eq_false_iff.mpr fun h => hreach ((hs.reaches_iff logger level).mp h)
    simp only [hno, if_neg hreach]
    rfl

theorem needFreeNames_eq_ok {callee : String} {taken : List String} {named : List (String × Value)}
    (h : ∀ n ∈ named, n.1 ∉ taken) : needFreeNames callee taken named = .ok () := by
  have hnone : named.find? (fun n => taken.contains n.1) = none := by
    simpa using h
  rw [needFreeNames, hnone]

theorem structuredEntry_eq {h : Hierarchy} (hs : h.structured = true) {logger method : String}
    {level : Level} {message : String} {keywords : List (String × Value)}
    (hmethod : Level.ofMethod? method = some level)
    (hkeywords : ∀ k ∈ keywords, k.1 ∉ ["self", "event", "method_name", "_record"]) :
    structuredEntry h logger method message keywords = .ok (some {
      front := .structured, logger, level, message
      keywords := (withFailure method keywords).filter isShown }) := by
  have hevent : ∀ k ∈ keywords, k.1 ∉ ["self", "event"] :=
    fun k hk hmem => hkeywords k hk (List.mem_append_left ["method_name", "_record"] hmem)
  have hproxy : ∀ k ∈ keywords, k.1 ∉ ["method_name"] := by
    intro k hk hmem
    exact hkeywords k hk (by simp [List.mem_singleton.mp hmem])
  have hrecord : field? "_record" keywords = none := by
    rw [← Option.not_isSome_iff_eq_none, field?_isSome_iff]
    intro hmem
    obtain ⟨k, hk, hname⟩ := List.mem_map.mp hmem
    exact hkeywords k hk (by simp [hname])
  unfold structuredEntry
  simp only [hs, hmethod, needFreeNames_eq_ok hevent, needFreeNames_eq_ok hproxy, hrecord]
  rfl

namespace Sink

/-- However often a log has been set up, an event that is sent to a logger of any name afterwards, by
either way in, is written once if its level is reached, in the form last asked for, and else not at all. -/
theorem send_routed (past : List Happening) (s : Setup) (events : List Event) (logger : String) :
    let k := events.foldl write ((past.foldl happen {}).configure s)
    (∀ method level template args message, Level.ofMethod? method = some level →
      message? template args = some message →
      ∃ e?, plainEntry k.setup logger method template args = .ok e? ∧
        (k.send e?).lines = k.lines ++ s.written {
          front := .plain, logger, level, message, tellsFailure := method = "exception" }) ∧
    ∀ method level message keywords, Level.ofMethod? method = some level →
      (∀ k ∈ keywords, k.1 ∉ ["self", "event", "method_name", "_record"]) →
      ∃ e?, structuredEntry k.setup logger method message keywords = .ok e? ∧
        (k.send e?).lines = k.lines ++ s.written {
          front := .structured, logger, level, message
          keywords := (withFailure method keywords).filter isShown } := by
  intro k
  have hs := isSetUp_last past s events
  constructor
  · intro method level template args message hmethod hmessage
    refine ⟨_, plainEntry_eq hs hmethod hmessage, ?_⟩
    by_cases hreach : (s.threshold logger).rank ≤ level.rank
    · rw [if_pos hreach]
      exact lines_write hs _
    · rw [if_neg hreach, Setup.written, if_neg hreach]
      exact (List.append_nil _).symm
  · intro method level message keywords hmethod hkeywords
    exact ⟨_, structuredEntry_eq hs.structured hmethod hkeywords, lines_write hs _⟩

/-- Set up a second time, now to be verbose and for programs, the log has one entry for an event that
tells of details within the library, and none for one of the database. -/
theorem send_routed_twice :
    let past : List Happening := [.setUp ⟨false, false⟩]
    let s : Setup := ⟨true, true⟩
    let k := (past.foldl happen {}).configure s
    let details : Event := {
      front := .plain, logger := "statetransit.domain.rules", level := .debug, message := "3 pairs" }
    (Level.ofMethod? "debug" = some .debug ∧ message? "%d pairs" [.int 3] = some "3 pairs" ∧
      ∃ e?, plainEntry k.setup "statetransit.domain.rules" "debug" "%d pairs" [.int 3] = .ok e? ∧
        (k.send e?).lines = [.json details]) ∧
    Level.ofMethod? "info" = some .info ∧
      (∀ k ∈ [("rows", Value.int 1)], k.1 ∉ ["self", "event", "method_name", "_record"]) ∧
      ∃ e?, structuredEntry k.setup "sqlalchemy.engine" "info" "begin" [("rows", .int 1)] = .ok e? ∧
        (k.send e?).lines = [] := by
  intro past s k details
  have hmessage : message? "%d pairs" [.int 3] = some "3 pairs" := by decide +kernel
  have hkeywords : ∀ k ∈ [("rows", Value.int 1)],
      k.1 ∉ ["self", "event", "method_name", "_record"] := by simp
  refine ⟨⟨rfl, hmessage, ?_⟩, rfl, hkeywords, ?_⟩
  · obtain ⟨e?, hentry, hlines⟩ := (send_routed past s [] "statetransit.domain.rules").1
      "debug" .debug "%d pairs" [.int 3] "3 pairs" rfl hmessage
    exact ⟨e?, hentry, hlines⟩
  · obtain ⟨e?, hentry, hlines⟩ := (send_routed past s [] "sqlalchemy.engine").2
      "info" .info "begin" [("rows", .int 1)] rfl hkeywords
    exact ⟨e?, hentry, hlines⟩

end Sink

end Lifecycle.Log
