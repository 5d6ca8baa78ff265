import Mathlib.Data.List.Infix
import RobotClient.Context.Event

set_option autoImplicit false

/-! # What a log tells

The events that are about the life of a context or about the signal handlers are left at different
moments of the changes that they report: handlers are installed in the middle of an initialization,
a shutdown is on record only after all callbacks have run, and a context that is freed is on record
before its handlers are taken out. `Chronicle` is the grammar of the logs that come of this, each
rule with the change that goes with it. What a log tells is read off the grammar alone, without a
look at the program: an event that still `Stands` says what is true now. -/

namespace RobotClient

namespace Event

/-- Whether an event ends the life of a context. -/
def ends (id : Nat) : Event → Bool
  | .shutDown j | .droppedInitialized j => j = id
  | _ => false

/-- Whether an event is about the life of a context: its initialization or its end. -/
def concerns (id : Nat) : Event → Bool
  | .initialized j _ | .shutDown j | .droppedInitialized j => j = id
  | _ => false

/-- Whether an event puts the signal handlers in or takes them out. -/
def turnsHandlers : Event → Bool
  | .handlersInstalled .. | .handlersUninstalled _ => true
  | _ => false

/-- Whether an event is about the life of a context, the handlers or a signal that was dealt
    with. -/
def tells : Event → Bool
  | .initialized .. | .shutDown _ | .droppedInitialized _ => true
  | .handlersInstalled .. | .handlersUninstalled _ | .signalReceived .. => true
  | _ => false

variable {e : Event} {id : Nat}

theorem concerns_of_ends (h : e.ends id = true) : e.concerns id = true := by
  cases e <;> first | exact h | exact absurd h (by simp [ends])

theorem concerns_of_tells (h : e.tells = false) : e.concerns id = false := by
  cases e <;> first | rfl | exact absurd h (by simp [tells])

theorem turnsHandlers_of_tells (h : e.tells = false) : e.turnsHandlers = false := by
  cases e <;> first | rfl | exact absurd h (by simp [tells])

end Event

/-! ## Events that stand -/

/-- Whether a log has an event that is followed by none that revokes it. -/
def Stands (revokes : Event → Bool) (e : Event) (log : List Event) : Prop :=
  ∃ front back, log = front ++ e :: back ∧ ∀ e' ∈ back, revokes e' = false

section Stands

variable {revokes keeps : Event → Bool} {e x : Event} {log : List Event}

@[simp] theorem stands_nil : ¬ Stands revokes e [] := by
  rintro ⟨front, back, hlog, -⟩
  simp at hlog

@[simp] theorem stands_cons :
    Stands revokes e (x :: log) ↔
      x = e ∧ (∀ e' ∈ log, revokes e' = false) ∨ Stands revokes e log := by
  constructor
  · rintro ⟨front, back, hlog, hback⟩
    rcases List.cons_eq_append_iff.1 hlog with ⟨-, hcons⟩ | ⟨front', -, hlog⟩
    · obtain ⟨rfl, rfl⟩ := List.cons.inj hcons
      exact .inl ⟨rfl, hback⟩
    · exact .inr ⟨front', back, hlog, hback⟩
  · rintro (⟨rfl, hlog⟩ | ⟨front, back, rfl, hback⟩)
    · exact ⟨[], log, rfl, hlog⟩
    · exact ⟨x :: front, back, rfl, hback⟩

/-- Whether an event stands depends on no events but those of its kind. -/
theorem stands_filter (he : keeps e = true)
    (hrevokes : ∀ e', revokes e' = true → keeps e' = true) :
    Stands revokes e (log.filter keeps) ↔ Stands revokes e log := by
  induction log with
  | nil => simp
  | cons x log ih =>
    have hrest : (∀ e' ∈ log.filter keeps, revokes e' = false) ↔
        ∀ e' ∈ log, revokes e' = false := by
      refine ⟨fun h e' hmem => ?_, fun h e' hmem => h e' (List.mem_of_mem_filter hmem)⟩
      by_cases hkeep : keeps e' = true
      · exact h e' (List.mem_filter.2 ⟨hmem, hkeep⟩)
      · exact Bool.eq_false_iff.2 fun hr => hkeep (hrevokes e' hr)
    by_cases hx : keeps x = true
    · rw [List.filter_cons_of_pos hx, stands_cons, stands_cons, ih, hrest]
    · have hne : x ≠ e := fun h => hx (h ▸ he)
      rw [List.filter_cons_of_neg hx, stands_cons, ih]
      simp [hne]

/-- Among events that all revoke each other only the last one stands. -/
theorem stands_iff_getLast? (h : ∀ e' ∈ log, revokes e' = true) :
    Stands revokes e log ↔ log.getLast? = some e := by
  constructor
  · rintro ⟨front, back, rfl, hback⟩
    have hnil : back = [] := List.eq_nil_iff_forall_not_mem.2 fun e' hmem => by
      have hrevokes := h e' (by simp [hmem])
      rw [hback e' hmem] at hrevokes
      exact absurd hrevokes (by decide)
    simp [hnil]
  · intro hlast
    obtain ⟨front, rfl⟩ := List.getLast?_eq_some_iff.1 hlast
    exact ⟨front, [], rfl, by simp⟩

end Stands

/-! ## The grammar of logs -/

/-- What is true after a log. -/
structure Account where
  /-- The sessions of the contexts that are initialized. -/
  session? : Nat → Option Session := fun _ => none
  /-- The contexts whose shutdown has begun and is not on record yet, the last one first. -/
  closing : List Nat := []
  /-- The owner of the signal handlers, with what is handled. -/
  handlers : Option (Nat × HandlerOptions) := none

/-- Binds a context to a session, or to none. -/
def Account.bind (a : Account) (id : Nat) (s? : Option Session) : Account :=
  { a with session? := Function.update a.session? id s? }

/-- The logs that a process leaves, each with what is true after it. -/
inductive Chronicle : List Event → Account → Prop where
  | start : Chronicle [] {}
  | quiet {log : List Event} {a : Account} {e : Event} (h : Chronicle log a)
      (he : e.tells = false) : Chronicle (log ++ [e]) a
  /-- A signal was dealt with, which changes nothing by itself. -/
  | received {log : List Event} {a : Account} (h : Chronicle log a) (signal : Signal)
      (count : Nat) : Chronicle (log ++ [.signalReceived signal count]) a
  | opened {log : List Event} {a : Account} {id : Nat} {s : Session} (h : Chronicle log a)
      (hnew : ∀ s', .initialized id s' ∉ log) (howns : s.ownsHandlers = false) :
      Chronicle (log ++ [.initialized id s]) (a.bind id (some s))
  /-- An initialization that installs handlers tells so first. -/
  | openedOwner {log : List Event} {a : Account} {id : Nat} {s : Session} (h : Chronicle log a)
      (hnew : ∀ s', .initialized id s' ∉ log) (howns : s.ownsHandlers = true)
      (hfree : a.handlers = none) :
      Chronicle (log ++ [.handlersInstalled id s.handlers, .initialized id s])
        { a.bind id (some s) with handlers := some (id, s.handlers) }
  | uninstalled {log : List Event} {a : Account} {id : Nat} {options : HandlerOptions}
      (h : Chronicle log a) (howner : a.handlers = some (id, options)) :
      Chronicle (log ++ [.handlersUninstalled id]) { a with handlers := none }
  /-- A shutdown leaves no event of its kind when it begins. -/
  | begun {log : List Event} {a : Account} {id : Nat} {s : Session} (h : Chronicle log a)
      (hs : a.session? id = some s) :
      Chronicle log { a.bind id none with closing := id :: a.closing }
  | shutDown {log : List Event} {a : Account} {id : Nat} {rest : List Nat} (h : Chronicle log a)
      (hclosing : a.closing = id :: rest) :
      Chronicle (log ++ [.shutDown id]) { a with closing := rest }
  | dropped {log : List Event} {a : Account} {id : Nat} {s : Session} (h : Chronicle log a)
      (hs : a.session? id = some s) :
      Chronicle (log ++ [.droppedInitialized id]) (a.bind id none)

namespace Account

variable {a b : Account} {id j : Nat} {s : Session} {s? : Option Session}
  {log events : List Event}

@[simp] theorem session?_bind : (a.bind id s?).session? j = if j = id then s? else a.session? j :=
  Function.update_apply ..

@[simp] theorem closing_bind : (a.bind id s?).closing = a.closing := rfl

@[simp] theorem handlers_bind : (a.bind id s?).handlers = a.handlers := rfl

/-! ## The lives of contexts -/

/-- The events about a context, with where the context is in its life. -/
inductive Life (a : Account) (id : Nat) : List Event → Prop where
  | unopened (hs : a.session? id = none) (hc : id ∉ a.closing) : Life a id []
  | opened (s : Session) (hs : a.session? id = some s) (hc : id ∉ a.closing) :
      Life a id [.initialized id s]
  | closing (s : Session) (hs : a.session? id = none) (hc : id ∈ a.closing) :
      Life a id [.initialized id s]
  | ended (s : Session) {last : Event} (hlast : last.ends id = true)
      (hs : a.session? id = none) (hc : id ∉ a.closing) : Life a id [.initialized id s, last]

theorem Life.congr (h : a.Life id events) (hs : b.session? id = a.session? id)
    (hc : id ∈ b.closing ↔ id ∈ a.closing) : b.Life id events := by
  cases h with
  | unopened hs' hc' => exact .unopened (hs.trans hs') (mt hc.1 hc')
  | opened s hs' hc' => exact .opened s (hs.trans hs') (mt hc.1 hc')
  | closing s hs' hc' => exact .closing s (hs.trans hs') (hc.2 hc')
  | ended s hlast hs' hc' => exact .ended s hlast (hs.trans hs') (mt hc.1 hc')

/-- Events about others change nothing. -/
theorem Life.others (h : a.Life id (log.filter (Event.concerns id)))
    (hevents : ∀ e ∈ events, e.concerns id = false) (hs : b.session? id = a.session? id)
    (hc : id ∈ b.closing ↔ id ∈ a.closing) :
    b.Life id ((log ++ events).filter (Event.concerns id)) := by
  have hnone : events.filter (Event.concerns id) = [] :=
    List.filter_eq_nil_iff.2 fun e he => by simp [hevents e he]
  rw [List.filter_append, hnone, List.append_nil]
  exact h.congr hs hc

/-- A context that was never initialized is now. -/
theorem Life.opens (h : a.Life id (log.filter (Event.concerns id)))
    (hnew : ∀ s', Event.initialized id s' ∉ log) (events : List Event)
    (hevents : ∀ e ∈ events, e.concerns id = false)
    (hs : b.session? id = some s) (hc : id ∈ b.closing ↔ id ∈ a.closing) :
    b.Life id ((log ++ (events ++ [Event.initialized id s])).filter (Event.concerns id)) := by
  have hmem : ∀ s', Event.initialized id s' ∉ log.filter (Event.concerns id) := fun s' hmem =>
    hnew s' (List.mem_of_mem_filter hmem)
  have hnone : events.filter (Event.concerns id) = [] :=
    List.filter_eq_nil_iff.2 fun e he => by simp [hevents e he]
  have hself : [Event.initialized id s].filter (Event.concerns id) = [.initialized id s] := by
    simp [Event.concerns]
  rw [List.filter_append, List.filter_append, hnone, hself, List.nil_append]
  generalize log.filter (Event.concerns id) = before at h hmem
  cases h with
  | unopened _ hc' => exact .opened s hs (mt hc.1 hc')
  | opened | closing | ended => exact absurd List.mem_cons_self (hmem _)

theorem Life.of_session (h : a.Life id events) (hs : a.session? id = some s) :
    events = [.initialized id s] ∧ id ∉ a.closing := by
  cases h with
  | opened s' hs' hc =>
    obtain rfl : s = s' := Option.some.inj (hs.symm.trans hs')
    exact ⟨rfl, hc⟩
  | unopened hs' | closing _ hs' | ended _ _ hs' => exact absurd (hs'.symm.trans hs) (by simp)

theorem Life.of_closing (h : a.Life id events) (hc : id ∈ a.closing) :
    ∃ s, events = [.initialized id s] ∧ a.session? id = none := by
  cases h with
  | closing s hs => exact ⟨s, rfl, hs⟩
  | unopened _ hc' | opened _ _ hc' | ended _ _ _ hc' => exact absurd hc hc'

/-- No context is initialized twice. -/
theorem Life.initialized_once (h : a.Life id events) {s s' : Session} :
    ¬ [Event.initialized id s, .initialized id s'].Sublist events := by
  intro hsub
  cases h with
  | unopened | opened | closing => simpa using hsub.length_le
  | ended s₀ hlast =>
    obtain ⟨-, rfl⟩ : _ ∧ Event.initialized id s' = _ := by
      simpa only [List.cons.injEq, and_true] using hsub.eq_of_length rfl
    exact absurd hlast (by simp [Event.ends])

/-- Without its shutdown under way, a context has a session exactly if its initialization stands. -/
theorem Life.session?_iff (h : a.Life id events) (hc : id ∉ a.closing) :
    a.session? id = some s ↔ Stands (Event.ends id) (.initialized id s) events := by
  cases h with
  | unopened hs => simp [hs]
  | opened s' hs => simp [hs]
  | closing s' hs hc' => exact absurd hc' hc
  | @ended s' last hlast hs =>
    have hne : last ≠ .initialized id s := fun he => by simp [he, Event.ends] at hlast
    simp [hs, hlast, hne]

end Account

namespace Chronicle

variable {log front back : List Event} {a : Account} {id : Nat} {s : Session}
  {options : HandlerOptions}

theorem quiets {events : List Event} (h : Chronicle log a)
    (hquiet : ∀ e ∈ events, e.tells = false) : Chronicle (log ++ events) a := by
  induction events generalizing log with
  | nil => simpa using h
  | cons e rest ih =>
    rw [List.append_cons]
    exact ih (h.quiet (hquiet e List.mem_cons_self)) fun e' he' =>
      hquiet e' (List.mem_cons_of_mem _ he')

/-- The events about a context, after each rule of the grammar. A shutdown begins with a session and
    ends without one, so no context is closed twice. -/
theorem lives (h : Chronicle log a) :
    a.closing.Nodup ∧ ∀ id, a.Life id (log.filter (Event.concerns id)) := by
  induction h with
  | start => exact ⟨List.nodup_nil, fun id => .unopened rfl List.not_mem_nil⟩
  | quiet _ he ih =>
    exact ⟨ih.1, fun j => (ih.2 j).others (by simp [Event.concerns_of_tells he]) rfl .rfl⟩
  | received _ signal count ih =>
    exact ⟨ih.1, fun j => (ih.2 j).others (by simp [Event.concerns]) rfl .rfl⟩
  | @opened log a id s _ hnew _ ih =>
    refine ⟨ih.1, fun j => ?_⟩
    by_cases hj : j = id
    · subst hj
      have hs : (a.bind j (some s)).session? j = some s := by simp
      exact (ih.2 j).opens hnew [] (by simp) hs .rfl
    · exact (ih.2 j).others (by simp [Event.concerns, Ne.symm hj]) (by simp [hj]) .rfl
  | @openedOwner log a id s _ hnew _ _ ih =>
    refine ⟨ih.1, fun j => ?_⟩
    by_cases hj : j = id
    · subst hj
      have hs : (a.bind j (some s)).session? j = some s := by simp
      exact (ih.2 j).opens hnew [.handlersInstalled j s.handlers] (by simp [Event.concerns]) hs .rfl
    · exact (ih.2 j).others (by simp [Event.concerns, Ne.symm hj]) (by simp [hj]) .rfl
  | uninstalled _ _ ih => exact ⟨ih.1, fun j => (ih.2 j).others (by simp [Event.concerns]) rfl .rfl⟩
  | @begun log a id s _ hs ih =>
    obtain ⟨hevents, hc⟩ := (ih.2 id).of_session hs
    refine ⟨List.nodup_cons.2 ⟨hc, ih.1⟩, fun j => ?_⟩
    by_cases hj : j = id
    · subst hj
      rw [hevents]
      exact .closing s (by simp) List.mem_cons_self
    · exact (ih.2 j).congr (by simp [hj]) (by simp [hj])
  | @shutDown log a id rest _ hclosing ih =>
    rw [hclosing, List.nodup_cons] at ih
    obtain ⟨⟨hid, hrest⟩, ih⟩ := ih
    refine ⟨hrest, fun j => ?_⟩
    by_cases hj : j = id
    · subst hj
      obtain ⟨s, hevents, hs⟩ := (ih j).of_closing (by simp [hclosing])
      have hlog : (log ++ [Event.shutDown j]).filter (Event.concerns j)
          = [.initialized j s, .shutDown j] := by simp [hevents, Event.concerns]
      rw [hlog]
      exact .ended s (by simp [Event.ends]) hs hid
    · exact (ih j).others (by simp [Event.concerns, Ne.symm hj]) rfl (by simp [hclosing, hj])
  | @dropped log a id s _ hs ih =>
    refine ⟨ih.1, fun j => ?_⟩
    by_cases hj : j = id
    · subst hj
      obtain ⟨hevents, hc⟩ := (ih.2 j).of_session hs
      have hlog : (log ++ [Event.droppedInitialized j]).filter (Event.concerns j)
          = [.initialized j s, .droppedInitialized j] := by simp [hevents, Event.concerns]
      rw [hlog]
      exact .ended s (by simp [Event.ends]) (by simp) hc
    · exact (ih.2 j).others (by simp [Event.concerns, Ne.symm hj]) (by simp [hj]) .rfl

/-- Without its shutdown under way, a context has a session exactly if its initialization is on
    record and its end is not. -/
theorem session?_iff (h : Chronicle log a) (hc : id ∉ a.closing) :
    a.session? id = some s ↔ Stands (Event.ends id) (.initialized id s) log := by
  have hkeeps : (Event.initialized id s).concerns id = true := by simp [Event.concerns]
  rw [← stands_filter hkeeps fun _ => Event.concerns_of_ends]
  exact (h.lives.2 id).session?_iff hc

/-- As long as its shutdown is under way, a context has no session, but its end is not on record. -/
theorem of_closing (h : Chronicle log a) (hc : id ∈ a.closing) :
    a.session? id = none ∧ ∃ s, Stands (Event.ends id) (.initialized id s) log := by
  obtain ⟨s, hevents, hs⟩ := (h.lives.2 id).of_closing hc
  have hkeeps : (Event.initialized id s).concerns id = true := by simp [Event.concerns]
  refine ⟨hs, s, ?_⟩
  rw [← stands_filter hkeeps fun _ => Event.concerns_of_ends, hevents]
  simp

/-- A context is initialized once at most, and ends once at most, later. -/
theorem life_prefix (h : Chronicle log a) (id : Nat) :
    ∃ s last, last.ends id = true ∧
      log.filter (Event.concerns id) <+: [.initialized id s, last] := by
  have hend : (Event.shutDown id).ends id = true := by simp [Event.ends]
  have life := h.lives.2 id
  generalize log.filter (Event.concerns id) = events at life
  cases life with
  | unopened => exact ⟨default, .shutDown id, hend, List.nil_prefix⟩
  | opened s | closing s => exact ⟨s, .shutDown id, hend, List.prefix_append [_] [_]⟩
  | ended s hlast => exact ⟨s, _, hlast, List.prefix_rfl⟩

/-! ## The handlers -/

/-- The handlers are put in and taken out in turn, by the same context each time. -/
theorem turns (h : Chronicle log a) : ∃ past : List (Nat × HandlerOptions),
    log.filter Event.turnsHandlers
      = past.flatMap (fun x => [.handlersInstalled x.1 x.2, .handlersUninstalled x.1])
        ++ (a.handlers.map fun x => .handlersInstalled x.1 x.2).toList := by
  induction h with
  | start => exact ⟨[], rfl⟩
  | quiet _ he ih =>
    obtain ⟨past, hpast⟩ := ih
    exact ⟨past, by simpa [Event.turnsHandlers_of_tells he] using hpast⟩
  | openedOwner _ _ _ hfree ih =>
    obtain ⟨past, hpast⟩ := ih
    exact ⟨past, by simp [hpast, hfree, Event.turnsHandlers, List.filter_cons]⟩
  | @uninstalled log a id options _ howner ih =>
    obtain ⟨past, hpast⟩ := ih
    exact ⟨past ++ [(id, options)], by simp [hpast, howner, Event.turnsHandlers]⟩
  | begun _ _ ih => exact ih
  | received _ _ _ ih | opened _ _ _ ih | shutDown _ _ ih | dropped _ _ ih =>
    obtain ⟨past, hpast⟩ := ih
    exact ⟨past, by simpa [Event.turnsHandlers] using hpast⟩

/-- The handlers are those of the last event that put some in, unless they were taken out since. -/
theorem handlers_iff (h : Chronicle log a) :
    a.handlers = some (id, options) ↔
      Stands Event.turnsHandlers (.handlersInstalled id options) log := by
  obtain ⟨past, hpast⟩ := h.turns
  have hkeeps : (Event.handlersInstalled id options).turnsHandlers = true := rfl
  rw [← stands_filter hkeeps fun _ h => h,
    stands_iff_getLast? fun e he => (List.mem_filter.1 he).2, hpast]
  cases a.handlers with
  | none =>
    rcases List.eq_nil_or_concat past with rfl | ⟨earlier, x, rfl⟩ <;> simp
  | some x => simp [Prod.ext_iff]

end Chronicle

/-! ## Announcements -/

/-- Where an event of a log is that goes on. -/
theorem split_append {log events front back : List Event} {e : Event}
    (h : log ++ events = front ++ e :: back) :
    (∃ back', log = front ++ e :: back' ∧ back = back' ++ events) ∨
      ∃ front', front = log ++ front' ∧ events = front' ++ e :: back := by
  rcases List.append_eq_append_iff.1 h with ⟨front', hfront, hevents⟩ | ⟨rest, hlog, hrest⟩
  · exact .inr ⟨front', hfront, hevents⟩
  · cases rest with
    | nil => exact .inr ⟨[], by simp [hlog], hrest.symm⟩
    | cons x back' =>
      obtain ⟨rfl, hback⟩ := List.cons.inj hrest
      exact .inl ⟨back', hlog, hback⟩

/-- Handlers that are installed are announced right before the initialization that they are for. -/
structure Announced (log : List Event) : Prop where
  installed : ∀ front id options back, log = front ++ .handlersInstalled id options :: back →
    ∃ s rest, back = .initialized id s :: rest ∧ s.ownsHandlers = true
  initialized : ∀ front id s back, log = front ++ .initialized id s :: back →
    s.ownsHandlers = true → ∃ front', front = front' ++ [.handlersInstalled id s.handlers]

theorem Announced.append {log events : List Event} (h : Announced log) (h' : Announced events) :
    Announced (log ++ events) where
  installed front id options back hlog := by
    rcases split_append hlog with ⟨back', hfirst, rfl⟩ | ⟨front', -, hevents⟩
    · obtain ⟨s, rest, rfl, howns⟩ := h.installed _ _ _ _ hfirst
      exact ⟨s, rest ++ events, rfl, howns⟩
    · exact h'.installed _ _ _ _ hevents
  initialized front id s back hlog howns := by
    rcases split_append hlog with ⟨back', hfirst, -⟩ | ⟨front', rfl, hevents⟩
    · exact h.initialized _ _ _ _ hfirst howns
    · obtain ⟨front, rfl⟩ := h'.initialized _ _ _ _ hevents howns
      exact ⟨log ++ front, by rw [List.append_assoc]⟩

/-- An event that neither installs handlers nor initializes a context that owns them. -/
theorem Announced.single {e : Event} (hinstalled : ∀ id options, e ≠ .handlersInstalled id options)
    (hinitialized : ∀ id s, e = .initialized id s → s.ownsHandlers = false) : Announced [e] where
  installed front id options back h := by
    have hmem : Event.handlersInstalled id options ∈ [e] := by simp [h]
    exact absurd (List.mem_singleton.1 hmem).symm (hinstalled id options)
  initialized front id s back h howns := by
    have hmem : Event.initialized id s ∈ [e] := by simp [h]
    rw [hinitialized id s (List.mem_singleton.1 hmem).symm] at howns
    exact absurd howns (by decide)

theorem Announced.pair {id : Nat} {s : Session} (howns : s.ownsHandlers = true) :
    Announced [.handlersInstalled id s.handlers, .initialized id s] where
  installed front id' options back h := by
    rcases front with _ | ⟨x, _ | ⟨y, front⟩⟩
    · obtain ⟨⟨rfl, -⟩, rfl⟩ : (id = id' ∧ _) ∧ _ = back := by simpa using h
      exact ⟨s, [], rfl, howns⟩
    · simp at h
    · simp at h
  initialized front id' s' back h howns' := by
    rcases front with _ | ⟨x, _ | ⟨y, front⟩⟩
    · simp at h
    · obtain ⟨rfl, ⟨rfl, rfl⟩, -⟩ : _ = x ∧ (id = id' ∧ s = s') ∧ _ := by simpa using h
      exact ⟨[], rfl⟩
    · simp at h

namespace Chronicle

variable {log front back : List Event} {a : Account} {id : Nat} {s : Session}
  {options : HandlerOptions}

theorem announced (h : Chronicle log a) : Announced log := by
  induction h with
  | start => exact ⟨by simp, by simp⟩
  | begun _ _ ih => exact ih
  | opened _ _ howns ih =>
    refine ih.append (.single (by simp) ?_)
    rintro id s ⟨⟩
    exact howns
  | openedOwner _ _ howns _ ih => exact ih.append (.pair howns)
  | @quiet log a e _ he ih =>
    refine ih.append (.single ?_ ?_)
    · rintro id options rfl
      exact absurd he (by simp [Event.tells])
    · rintro id s rfl
      exact absurd he (by simp [Event.tells])
  | received _ _ _ ih | uninstalled _ _ ih | shutDown _ _ ih | dropped _ _ ih =>
    exact ih.append (.single (by simp) (by simp))

/-- An initialization tells that its context owns the handlers exactly if the event right before it
    installs them for the context, and no other event before it does. -/
theorem owns_iff (h : Chronicle log a) (hlog : log = front ++ .initialized id s :: back) :
    (s.ownsHandlers = true ↔ front.getLast? = some (.handlersInstalled id s.handlers)) ∧
    ((∃ options, .handlersInstalled id options ∈ front) → s.ownsHandlers = true) := by
  have hnext : ∀ earlier options later, front = earlier ++ .handlersInstalled id options :: later →
      s.ownsHandlers = true := by
    rintro earlier options later rfl
    rw [List.append_assoc] at hlog
    obtain ⟨s', rest, hrest, howns⟩ := h.announced.installed _ _ _ _ hlog
    cases later with
    | nil =>
      obtain ⟨rfl, -⟩ : s = s' ∧ back = rest := by simpa using hrest
      exact howns
    | cons x later =>
      -- then the context would be initialized twice
      obtain ⟨rfl, -⟩ := List.cons.inj hrest
      have hlater : [Event.initialized id s].Sublist (later ++ .initialized id s :: back) :=
        List.singleton_sublist.2 (by simp)
      have hsub : [Event.initialized id s', .initialized id s].Sublist log := by
        rw [hlog]
        exact ((hlater.cons_cons _).cons _).trans (List.sublist_append_right ..)
      have hself : [Event.initialized id s', .initialized id s].filter (Event.concerns id)
          = [.initialized id s', .initialized id s] := by simp [Event.concerns]
      exact absurd (hself ▸ hsub.filter _) (h.lives.2 id).initialized_once
  refine ⟨⟨fun howns => ?_, fun hlast => ?_⟩, ?_⟩
  · obtain ⟨earlier, rfl⟩ := h.announced.initialized _ _ _ _ hlog howns
    exact List.getLast?_concat ..
  · obtain ⟨earlier, rfl⟩ := List.getLast?_eq_some_iff.1 hlast
    exact hnext earlier _ [] rfl
  · rintro ⟨options, hmem⟩
    obtain ⟨earlier, later, hfront⟩ := List.append_of_mem hmem
    exact hnext earlier options later hfront

end Chronicle
end RobotClient
