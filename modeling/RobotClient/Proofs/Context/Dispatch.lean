import RobotClient.Proofs.Context.Ending
import RobotClient.Proofs.Context.Ownership
import RobotClient.Proofs.Context.Registry

set_option autoImplicit false

/-! # Dispatching a signal

A dispatch takes the signal that waits, shuts down every context that is initialized, in the order
in which they were initialized, and hands the signal on to whoever handled it before. Callbacks run
in between and may do what they like with the library: shut contexts down themselves, initialize new
ones, drop what they hold. `moments` follows the run to the end of the line, and `Ending` is what
comes behind it; `Dispatched` is what can be said about both from outside, and
`Reachable.dispatch_pending` is the main statement. Nothing happens in between that is not a step:
a handler that the host puts in, or a signal that comes in, is a `Next` of its own. -/

namespace RobotClient

namespace Machine

variable {signal : Signal} {before : Option Nat} {base above : List Frame} {line : List Nat}
  {m : Machine} {d : Duty}

/-! ## The run of a dispatch -/

theorem not_owing_nil {d : Duty} (h : Owing m [] [] d) : False := by
  rcases h with h | ⟨id, hid, -⟩
  · exact absurd h (by simp)
  · exact absurd hid List.not_mem_nil

/-- How a moment of a dispatch goes on to a later one, `k` steps away: contexts leave the line from
    its front and are shut down then, no signal is let in, and every duty is met or still owed. -/
structure Passage (signal : Signal) (before : Option Nat) (base : List Frame) (m : Machine)
    (above : List Frame) (line : List Nat) (k : Nat) (above' : List Frame) (done line' : List Nat) :
    Prop where
  moment : Moment signal before base (m.after k) above' line'
  splits : line = done ++ line'
  shut : ∀ id ∈ done, (m.after k).hub.phase id = .shutdown
  calm : Hub.Calm m.hub (m.after k).hub
  keeps : ∀ d, Owing m above line d → m.Meets k d ∨ Owing (m.after k) above' line' d

theorem Passage.start (hm : Moment signal before base m above line) :
    Passage signal before base m above line 0 above [] line where
  moment := hm
  splits := rfl
  shut _ hid := absurd hid List.not_mem_nil
  calm := .refl m.hub
  keeps _ hd := .inr hd

/-- A passage with one step more in front. -/
theorem Passage.head {above₁ above' : List Frame} {gone done line₁ line' : List Nat} {k : Nat}
    (hgone : line = gone ++ line₁) (hshut : ∀ id ∈ gone, (m.step.after k).hub.phase id = .shutdown)
    (calm : Hub.Calm m.hub m.step.hub)
    (howing : ∀ d, Owing m above line d → Met m m.step d ∨ Owing m.step above₁ line₁ d)
    (h : Passage signal before base m.step above₁ line₁ k above' done line') :
    Passage signal before base m above line (k + 1) above' (gone ++ done) line' where
  moment := h.moment
  splits := by rw [hgone, h.splits, List.append_assoc]
  shut id hid := (List.mem_append.1 hid).elim (hshut id) (h.shut id)
  calm := calm.trans h.calm
  keeps d hd := by
    rcases howing d hd with hmet | howed
    · exact .inl ⟨1, Nat.succ_le_succ (Nat.zero_le k), hmet⟩
    · exact (h.keeps d howed).imp_left Meets.earlier

/-- **A dispatch comes to the end of its line**, and all that is owed at a moment is met by then. -/
theorem moments {m : Machine} {above : List Frame} {line : List Nat} (h : m.Reachable)
    (hm : Moment signal before base m above line)
    (hline : ∀ id ∈ line, m.hub.Begun id) :
    ∃ n, Moment signal before base (m.after n) [] [] ∧
      (∀ id ∈ line, (m.after n).hub.phase id = .shutdown) ∧
      (∀ d, Owing m above line d → m.Meets n d) ∧
      ∀ k ≤ n, ∃ above' done line', Passage signal before base m above line k above' done line' ∧
        ∀ d, Owing (m.after k) above' line' d → (m.after k).Meets (n - k) d := by
  by_cases hmore : above ≠ [] ∨ line ≠ []
  · obtain ⟨line₁, ⟨above₁, hm₁, calm, howing⟩, hshorter⟩ := moment_step h hm hline hmore
    have hsub : ∃ gone, line = gone ++ line₁ ∧ ∀ id ∈ gone, m.step.hub.phase id = .shutdown := by
      rcases hshorter with rfl | ⟨id, rfl, hphase⟩
      · exact ⟨[], rfl, by simp⟩
      · exact ⟨[id], rfl, by simpa using hphase⟩
    obtain ⟨gone, hgone, hshut⟩ := hsub
    have hbegun : ∀ id ∈ line, m.step.hub.Begun id := fun id hid =>
      (hline id hid).moves (moves_step m) h.numbered
    have hline₁ : ∀ id ∈ line₁, m.step.hub.Begun id := fun id hid =>
      hbegun id (hgone ▸ List.mem_append_right _ hid)
    have hframes : m.frames ≠ [] := by
      obtain ⟨count, hframes⟩ := hm.frames
      simp [hframes]
    -- the rest of the run starts after the first step, which has made the machine lighter
    obtain ⟨n, hend, hlast, hstart, hrun⟩ := moments h.step hm₁ hline₁
    have hgone_after : ∀ k, ∀ id ∈ gone, (m.step.after k).hub.phase id = .shutdown :=
      fun k id hid => Hub.shutdown_of_moves (moves_after m.step k) h.step.numbered
        (hbegun id (hgone ▸ List.mem_append_left _ hid)).1 (hshut id hid)
    have hmeets : ∀ d, Owing m above line d → m.Meets (n + 1) d := fun d hd => by
      rcases howing d hd with hmet | howed
      · exact ⟨1, Nat.succ_le_succ (Nat.zero_le n), hmet⟩
      · exact (hstart d howed).earlier
    refine ⟨n + 1, hend, fun id hid => ?_, hmeets, fun k hk => ?_⟩
    · rw [hgone, List.mem_append] at hid
      exact hid.elim (hgone_after n id) (hlast id)
    cases k with
    | zero => exact ⟨above, [], line, .start hm, hmeets⟩
    | succ k =>
      obtain ⟨above', done, line', passage, howing'⟩ := hrun k (Nat.le_of_succ_le_succ hk)
      refine ⟨above', gone ++ done, line', passage.head hgone (hgone_after k) calm howing, ?_⟩
      rw [Nat.succ_sub_succ]
      exact howing'
  · have hnil : above = [] ∧ line = [] := by simpa using hmore
    obtain ⟨rfl, rfl⟩ := hnil
    refine ⟨0, hm, by simp, fun d hd => (not_owing_nil hd).elim, fun k hk => ?_⟩
    obtain rfl : k = 0 := Nat.le_zero.1 hk
    exact ⟨[], [], [], .start hm, fun d hd => (not_owing_nil hd).elim⟩
termination_by (m.work, m.weight)
decreasing_by
  rcases lighter_step hframes with hl | ⟨he, hl⟩
  · exact Prod.Lex.left _ _ hl
  · rw [he]
    exact Prod.Lex.right _ hl

/-! ## Its own steps -/

variable {label : Option String} {rest : List Op} {replies : List Reply} {below : List Frame}

theorem step_dispatch_of_none (h : m.Reachable)
    (hframes : m.frames = .script label (.dispatch :: rest) replies :: below)
    (hpending : m.hub.pending = none) :
    m.step = { m with
      frames := .script label rest (replies ++ [.ok (.signal none)]) :: below } := by
  have hadvance : ({ m with frames := below } : Machine).advance
      (.script label (.dispatch :: rest) replies)
      = { m with frames := .script label rest (replies ++ [.ok (.signal none)]) :: below } := by
    simp only [advance, execute, startDispatch, hpending, Machine.answer]
  refine h.step_eq hframes hadvance rfl fun id hheld => ?_
  simpa [held, hframes, Frame.holds] using hheld

theorem step_dispatch_of_some (h : m.Reachable)
    (hframes : m.frames = .script label (.dispatch :: rest) replies :: below)
    (hpending : m.hub.pending = some signal) :
    m.step = { m with
      hub := { m.hub with pending := none }
      frames := .dispatching signal m.hub.liveContexts 0 none
        :: .script label rest replies :: below } := by
  have hadvance : ({ m with frames := below } : Machine).advance
      (.script label (.dispatch :: rest) replies)
      = { m with
          hub := { m.hub with pending := none }
          frames := .dispatching signal m.hub.liveContexts 0 none
            :: .script label rest replies :: below } := by
    simp only [advance, execute, startDispatch, hpending]
  refine h.step_eq hframes hadvance rfl fun id hheld => ?_
  simp only [held, hframes, Frame.holds, List.any_cons, Bool.or_eq_true] at hheld ⊢
  exact hheld.imp_right fun hrest => .inr hrest

/-- When the dispatch goes on with a context, it leaves every other one as it is. -/
theorem find?_step_dispatching {id j count : Nat} (h : m.Reachable)
    (hframes : m.frames = .dispatching signal (id :: line) count before :: base) (hj : j ≠ id) :
    m.step.hub.find? j = m.hub.find? j := by
  obtain ⟨r, hr, hfind, hheld⟩ : ∃ r : Machine, m.step = r.collect ∧
      r.hub.find? j = m.hub.find? j ∧ (m.held j = true → r.held j = true) := by
    cases hb : m.hub.beginShutdown id with
    | error e =>
      refine ⟨_, step_of_advance hframes (advance_dispatching_of_error hb), rfl, fun hheld => ?_⟩
      simpa [held, hframes, Frame.holds, hj] using hheld
    | ok started =>
      obtain ⟨callbacks, hub⟩ := started
      obtain ⟨c, hc, -, hcontexts, hslot, -⟩ := Hub.beginShutdown_closed hb
      refine ⟨_, step_of_advance hframes (advance_dispatching_of_ok hb), ?_, fun hheld => ?_⟩
      · exact (Hub.find?_of_modified Hub.closed hcontexts (fun _ => rfl) hc j).trans (if_neg hj)
      · simp only [held, hframes, Frame.holds, List.any_cons, Bool.or_eq_true, List.mem_cons, hj,
          false_or, hslot] at hheld ⊢
        exact hheld.imp_right .inr
  rw [hr, find?_collect, hfind]
  split
  · rfl
  · next hout =>
    cases hc : m.hub.find? j with
    | none => rfl
    | some c =>
      obtain ⟨hmem, rfl⟩ := (Hub.find?_eq_some_iff h.numbered).1 hc
      exact absurd (hheld (h.held_of_mem hmem)) hout

/-- **Who shuts a context down.** A context in line goes from initialized to shut down only if it is
    next in line and the dispatch takes it, or while a callback runs. -/
theorem Moment.ends_step (hm : Moment signal before base m above line) (h : m.Reachable) {id : Nat}
    (hid : id ∈ line) (hinit : m.hub.isInitialized id = true)
    (hends : m.step.hub.isInitialized id = false) :
    (above = [] ∧ ∃ rest, line = id :: rest) ∨ above.any Frame.isCallback = true := by
  have hchanged : m.step.hub.find? id ≠ m.hub.find? id := by
    intro hfind
    rw [Hub.isInitialized_congr hfind, hinit] at hends
    exact absurd hends (by decide)
  obtain ⟨count, hframes⟩ := hm.frames
  cases above with
  | nil =>
    cases line with
    | nil => exact absurd hid List.not_mem_nil
    | cons j rest =>
      by_cases hj : id = j
      · exact .inl ⟨rfl, rest, by rw [hj]⟩
      · exact absurd (find?_step_dispatching h hframes hj) hchanged
  | cons f above =>
    -- work that asks for nothing touches no context, and the dispatch holds its line
    have hasks : f.asks = true := by
      by_contra hpass
      have hpass : f.asks = false := by simpa using hpass
      have hframes' : m.frames = f :: (above ++ .dispatching signal line count before :: base) :=
        hframes
      obtain ⟨above', hr, -⟩ := Moment.advance_above
        (m := { m with frames := above ++ .dispatching signal line count before :: base })
        h.numbered rfl hm.inner hm.attended hm.pending
      refine hchanged ?_
      rw [step_of_advance hframes' rfl, find?_collect, if_pos (hr.held hid)]
      exact Hub.find?_of_contexts (contexts_advance _ hpass).1 id
    have hinner := hm.inner f List.mem_cons_self
    cases f with
    | script label ops replies =>
      cases label with
      | none => exact absurd hinner (by simp [Frame.isInner])
      | some label => exact .inr rfl
    | racing target call rest replies =>
      have hbeneath := hm.attended.1 rfl
      exact .inr (by rw [List.any_cons, hbeneath, Bool.or_true])
    | dispatching signal' rest count' before' => exact absurd hinner (by simp [Frame.isInner])
    | _ => exact absurd hasks (by simp [Frame.asks])

/-! ## What becomes of a dispatch -/

/-- What becomes of a dispatch of `signal` that a program asks for in `m` and that comes back to
    `base`, the frames below it, after `n` steps. Its callbacks use the library like any program;
    what else the host does is not one of these steps (`Machine.Next`). -/
structure Dispatched (m : Machine) (signal : Signal) (base : List Frame) (n : Nat) : Prop where
  /-- It answers with the signal. -/
  returned : (m.after n).frames = answered (.ok (.signal (some signal))) base
  /-- Until then it is on the stack, beneath whatever its callbacks do. -/
  beneath : ∀ k, 0 < k → k < n → ∃ above f,
    (m.after k).frames = above ++ f :: base ∧ f.signal? = some signal
  /-- Every context that was initialized is shut down, and was so before the answer. -/
  shut : ∀ id, m.hub.isInitialized id = true →
    (m.after n).hub.phase id = .shutdown ∧ m.Meets n (.shutDown id)
  /-- It shuts them down in the order of their initialization, one after another: when a step of its
      own takes one of them, those initialized before it are through, with their ends on record.
      Any other step that does so is one while a callback runs. -/
  inOrder : ∀ k < n, ∀ id, m.hub.isInitialized id = true →
    (m.after k).hub.isInitialized id = true → (m.after (k + 1)).hub.isInitialized id = false →
    (∃ done line count, (m.after k).frames = .dispatching signal (id :: line) count none :: base ∧
      m.hub.initializedIds = done ++ id :: line ∧
      ∀ j ∈ done, (m.after k).hub.phase j = .shutdown ∧ m.Meets k (.shutDown j)) ∨
    ∃ above f, (m.after k).frames = above ++ f :: base ∧ f.signal? = some signal ∧
      above.any Frame.isCallback = true
  /-- Every callback that waits for one of these shutdowns at any moment runs, from its start to its
      end. -/
  callbacks : ∀ k ≤ n, ∀ c ∈ (m.after k).hub.contexts, m.hub.isInitialized c.id = true →
    (m.after k).hub.isInitialized c.id = true → ∀ callback ∈ c.callbacks,
      (m.after k).Meets (n - k) (.start callback) ∧
      (m.after k).Meets (n - k) (.finish callback.label)
  /-- The steps of the dispatch itself leave all other contexts as they are. -/
  untouched : ∀ k < n,
    (k = 0 ∨ ∃ f, (m.after k).frames = f :: base ∧ f.signal? = some signal) →
    ∀ id, m.hub.isInitialized id = false →
      (m.after (k + 1)).hub.find? id = (m.after k).hub.find? id
  pending : (m.after n).hub.pending = none
  delivered : (m.after n).hub.delivered = some signal
  /-- Nothing reaches the host as long as the end of one of these shutdowns is not on record. -/
  late : ∀ k ≤ n, ∀ id, m.hub.isInitialized id = true → ¬ m.Meets k (.shutDown id) →
    (m.after k).hub.received = m.hub.received
  /-- If nobody owns the handlers in the end, the signal goes once to who handled it before the
      owner installed them. -/
  forwarded : (m.after n).hub.table = none → ∃ t label, m.hub.table = some t ∧
    (signal, .host label) ∈ t.previous ∧
    (m.after n).hub.received = m.hub.received ++ [(signal, label)]
  /-- Otherwise the owner is a context that was initialized meanwhile, and the signal goes to
      nobody. -/
  kept : ∀ t, (m.after n).hub.table = some t → (m.after n).hub.isInitialized t.owner = true ∧
    m.hub.isInitialized t.owner = false ∧ (m.after n).hub.received = m.hub.received

/-- A frame right on top of `base` has nothing above it. -/
theorem Moment.above_eq_nil {f : Frame} (h : Moment signal before base m above line)
    (hframes : m.frames = f :: base) :
    above = [] ∧ ∃ count, m.frames = .dispatching signal line count before :: base := by
  obtain ⟨count, hsplit⟩ := h.frames
  have hlength := congrArg List.length (hframes.symm.trans hsplit)
  have hnil : above = [] := by
    simp only [List.length_append, List.length_cons] at hlength
    exact List.eq_nil_of_length_eq_zero (by omega)
  subst hnil
  exact ⟨rfl, count, hsplit⟩

/-! ## The course of a dispatch -/

/-- The course of a dispatch that starts in `m`: its first step, and then `n` moments up to the end
    of the line. -/
structure Course (signal : Signal) (base : List Frame) (m : Machine) (n : Nat) : Prop where
  first : m.step.hub = { m.hub with pending := none }
  last : ∃ count, (m.after (n + 1)).frames = .dispatching signal [] count none :: base
  pending : (m.after (n + 1)).hub.pending = none
  shut : ∀ id ∈ m.hub.liveContexts, (m.after (n + 1)).hub.phase id = .shutdown
  owed : ∀ d, m.hub.Owes m.hub.liveContexts d → m.Meets (n + 1) d
  moment : ∀ k ≤ n, ∃ above done line,
    Passage signal none base m.step [] m.hub.liveContexts k above done line ∧
    ∀ d, Owing (m.after (k + 1)) above line d → (m.after (k + 1)).Meets (n - k) d

theorem exists_course (h : m.Reachable)
    (hframes : m.frames = .script label (.dispatch :: rest) replies :: below)
    (hpending : m.hub.pending = some signal) :
    ∃ n, Course signal (.script label rest replies :: below) m n := by
  have hstart := step_dispatch_of_some h hframes hpending
  have hhub : m.step.hub = { m.hub with pending := none } := by rw [hstart]
  have hmoment : Moment signal none (.script label rest replies :: below) m.step []
      m.hub.liveContexts := by
    rw [hstart]
    exact ⟨⟨0, rfl⟩, by simp, trivial, rfl⟩
  have hline : ∀ id ∈ m.hub.liveContexts, m.step.hub.Begun id := fun id hid =>
    Hub.Begun.moves (h.registered.begun id (Hub.mem_everInitialized_of_live h.registered hid))
      (moves_step m) h.numbered
  obtain ⟨n, hend, hshut, howed, hrun⟩ := moments h.step hmoment hline
  refine ⟨n, hhub, hend.frames, hend.pending, hshut, fun d hd => Meets.earlier (howed d (.inr ?_)),
    hrun⟩
  rw [hhub]
  exact hd

/-- A context in line owes what its shutdown will have to do. -/
theorem owes_of_mem (hn : m.hub.Numbered) {c : Context Callback} (hc : c ∈ m.hub.contexts)
    (hinit : m.hub.isInitialized c.id = true) (hid : c.id ∈ line)
    (hd : d ∈ (Frame.shutting c.id c.callbacks).duties) : m.hub.Owes line d := by
  have hfind := (Hub.find?_eq_some_iff hn).2 ⟨hc, rfl⟩
  obtain ⟨c', s, hfind', hph⟩ := Hub.isInitialized_iff.1 hinit
  obtain rfl : c = c' := Option.some.inj (hfind.symm.trans hfind')
  exact ⟨c.id, hid, c, s, hfind, hph, hd⟩

/-- What is owed for a line ends none but the contexts in it. -/
theorem mem_of_owes_shutDown {id : Nat} (h : m.hub.Owes line (.shutDown id)) : id ∈ line := by
  obtain ⟨j, hj, c, s, -, -, hmem⟩ := h
  rcases mem_duties_shutting.1 hmem with heq | ⟨callback, -, heq | heq⟩
  · obtain rfl : id = j := by simpa using heq
    exact hj
  · exact absurd heq (by simp)
  · exact absurd heq (by simp)

variable {n k id : Nat}

/-- The end of each shutdown is owed at the start. -/
theorem Reachable.owes_shutDown (h : m.Reachable) (hid : m.hub.isInitialized id = true) :
    m.hub.Owes m.hub.liveContexts (.shutDown id) := by
  obtain ⟨c, s, hc, -⟩ := Hub.isInitialized_iff.1 hid
  obtain ⟨hmem, rfl⟩ := (Hub.find?_eq_some_iff h.numbered).1 hc
  exact owes_of_mem h.numbered hmem hid (h.mem_liveContexts_iff.2 hid)
    (mem_duties_shutting.2 (.inl rfl))

theorem Course.shut_later (hcourse : Course signal base m n) (h : m.Reachable)
    (hid : m.hub.isInitialized id = true) (hk : n + 1 ≤ k) :
    (m.after k).hub.phase id = .shutdown := by
  obtain ⟨more, rfl⟩ := Nat.exists_eq_add_of_le hk
  rw [after_add]
  have hlive := h.mem_liveContexts_iff.2 hid
  have hbegun := h.registered.begun id (Hub.mem_everInitialized_of_live h.registered hlive)
  have hlt := Nat.lt_of_lt_of_le hbegun.1 (Hub.nextId_le_of_moves (moves_after m (n + 1)))
  exact Hub.shutdown_of_moves (moves_after _ more) (h.after (n + 1)).numbered hlt
    (hcourse.shut id hlive)

/-- A context that was initialized at the start is so only until the end of the line. -/
theorem Course.le_of_isInitialized (hcourse : Course signal base m n) (h : m.Reachable)
    (hbefore : m.hub.isInitialized id = true) (hid : (m.after k).hub.isInitialized id = true) :
    k ≤ n := by
  by_contra hk
  rw [Hub.isInitialized_of_shutdown (hcourse.shut_later h hbefore (Nat.not_le.1 hk))] at hid
  exact absurd hid (by decide)

/-- At a moment, a context that was initialized at the start and still is stands in line. -/
theorem Passage.mem_line {line' done : List Nat} {above' : List Frame}
    (h : Passage signal before base m above line k above' done line')
    (hline : id ∈ line) (hid : (m.after k).hub.isInitialized id = true) : id ∈ line' := by
  rw [h.splits, List.mem_append] at hline
  refine hline.resolve_left fun hgone => ?_
  rw [Hub.isInitialized_of_shutdown (h.shut id hgone)] at hid
  exact absurd hid (by decide)

/-- What a context owes at any moment, if it was initialized at the start and still is, is met by
    the end. -/
theorem Course.meets (hcourse : Course signal base m n) (h : m.Reachable)
    {c : Context Callback} (hc : c ∈ (m.after k).hub.contexts)
    (hbefore : m.hub.isInitialized c.id = true)
    (hinit : (m.after k).hub.isInitialized c.id = true)
    (hd : d ∈ (Frame.shutting c.id c.callbacks).duties) : (m.after k).Meets (n + 1 - k) d := by
  have hlive := h.mem_liveContexts_iff.2 hbefore
  have hk := hcourse.le_of_isInitialized h hbefore hinit
  cases k with
  | zero => exact hcourse.owed d (owes_of_mem h.numbered hc hinit hlive hd)
  | succ k =>
    obtain ⟨above, done, line, passage, hmeets⟩ := hcourse.moment k (by omega)
    have hline := passage.mem_line hlive hinit
    have howes := owes_of_mem (h.after (k + 1)).numbered hc hinit hline hd
    exact (hmeets d (.inr howes)).later (by omega)

/-- The callbacks that wait for one of the shutdowns run. -/
theorem Course.callbacks (hcourse : Course signal base m n) (h : m.Reachable)
    {c : Context Callback} (hc : c ∈ (m.after k).hub.contexts)
    (hbefore : m.hub.isInitialized c.id = true)
    (hinit : (m.after k).hub.isInitialized c.id = true) {callback : Callback}
    (hcallback : callback ∈ c.callbacks) :
    (m.after k).Meets (n + 1 - k) (.start callback) ∧
      (m.after k).Meets (n + 1 - k) (.finish callback.label) := by
  constructor
  · exact hcourse.meets h hc hbefore hinit
      (mem_duties_shutting.2 (.inr ⟨callback, hcallback, .inl rfl⟩))
  · exact hcourse.meets h hc hbefore hinit
      (mem_duties_shutting.2 (.inr ⟨callback, hcallback, .inr rfl⟩))

/-- Up to the end of the line the frame of the dispatch is where it was put. -/
theorem Course.beneath (hcourse : Course signal base m n) (hpos : 0 < k) (hk : k ≤ n + 1) :
    ∃ above f, (m.after k).frames = above ++ f :: base ∧ f.signal? = some signal := by
  cases k with
  | zero => exact absurd hpos (Nat.lt_irrefl 0)
  | succ k =>
    obtain ⟨above, done, line, passage, -⟩ := hcourse.moment k (Nat.le_of_succ_le_succ hk)
    obtain ⟨count, hframes⟩ := passage.moment.frames
    exact ⟨above, _, hframes, rfl⟩

/-- **The order of the shutdowns.** -/
theorem Course.inOrder (hcourse : Course signal base m n) (h : m.Reachable)
    (hbefore : m.hub.isInitialized id = true) (hinit : (m.after k).hub.isInitialized id = true)
    (hends : (m.after (k + 1)).hub.isInitialized id = false) :
    (∃ done line count, (m.after k).frames = .dispatching signal (id :: line) count none :: base ∧
      m.hub.initializedIds = done ++ id :: line ∧
      ∀ j ∈ done, (m.after k).hub.phase j = .shutdown ∧ m.Meets k (.shutDown j)) ∨
    ∃ above f, (m.after k).frames = above ++ f :: base ∧ f.signal? = some signal ∧
      above.any Frame.isCallback = true := by
  have hk := hcourse.le_of_isInitialized h hbefore hinit
  cases k with
  | zero =>
    -- the first step takes the signal and no more
    change m.step.hub.isInitialized id = false at hends
    rw [hcourse.first] at hends
    exact absurd (hends.symm.trans hbefore) (by decide)
  | succ k =>
    obtain ⟨above, done, line, passage, -⟩ := hcourse.moment k (by omega)
    have hid := passage.mem_line (h.mem_liveContexts_iff.2 hbefore) hinit
    obtain ⟨count, hframes⟩ := passage.moment.frames
    rw [after_succ] at hends
    rcases passage.moment.ends_step (h.after (k + 1)) hid hinit hends with
      ⟨rfl, later, rfl⟩ | hcallback
    · have hsplits : m.hub.initializedIds = done ++ id :: later :=
        h.registered.live ▸ passage.splits
      have hnodup : (done ++ id :: later).Nodup :=
        hsplits ▸ h.registered.nodup.filter _
      refine .inl ⟨done, later, count, hframes, hsplits, fun j hj => ⟨passage.shut j hj, ?_⟩⟩
      have hlive : j ∈ m.hub.liveContexts := passage.splits ▸ List.mem_append_left _ hj
      have howes := h.owes_shutDown (h.mem_liveContexts_iff.1 hlive)
      have hstart : m.step.hub.Owes m.hub.liveContexts (.shutDown j) := by
        rw [hcourse.first]
        exact howes
      rcases passage.keeps (.shutDown j) (.inr hstart) with hmet | hnone | hlater
      · exact hmet.earlier
      · exact absurd hnone (by simp)
      · exact absurd rfl ((List.nodup_append.1 hnodup).2.2 j hj j (mem_of_owes_shutDown hlater))
    · exact .inr ⟨above, _, hframes, rfl, hcallback⟩

/-- The dispatch's own steps change only contexts that were initialized at the start. -/
theorem Course.untouched (hcourse : Course signal base m n) (h : m.Reachable) (hk : k ≤ n + 1)
    (hown : k = 0 ∨ ∃ f, (m.after k).frames = f :: base ∧ f.signal? = some signal)
    (hid : m.hub.isInitialized id = false) :
    (m.after (k + 1)).hub.find? id = (m.after k).hub.find? id := by
  cases k with
  | zero =>
    change m.step.hub.find? id = m.hub.find? id
    rw [hcourse.first]
    rfl
  | succ k =>
    obtain ⟨f, hf, -⟩ := hown.resolve_left (Nat.succ_ne_zero k)
    obtain ⟨above, done, line, passage, -⟩ := hcourse.moment k (Nat.le_of_succ_le_succ hk)
    obtain ⟨-, count, hframes⟩ := passage.moment.above_eq_nil hf
    rw [after_succ]
    change (m.after (k + 1)).frames = _ at hframes
    cases line with
    | nil =>
      rw [step_dispatched (h.after (k + 1)) hframes]
      rfl
    | cons next line =>
      refine find?_step_dispatching (h.after (k + 1)) hframes ?_
      rintro rfl
      have hlive : id ∈ m.hub.liveContexts :=
        passage.splits ▸ List.mem_append_right _ List.mem_cons_self
      rw [h.mem_liveContexts_iff.1 hlive] at hid
      exact absurd hid (by decide)

theorem Course.calm (hcourse : Course signal base m n) (hk : k ≤ n + 1) :
    (m.after k).hub.received = m.hub.received ∧
      (m.after k).hub.underlying = m.hub.underlying := by
  cases k with
  | zero => exact ⟨rfl, rfl⟩
  | succ k =>
    obtain ⟨above, done, line, passage, -⟩ := hcourse.moment k (Nat.le_of_succ_le_succ hk)
    have calm := passage.calm
    rw [hcourse.first] at calm
    exact ⟨calm.received, calm.underlying⟩

/-- If nobody owns the handlers at the end of the line, those that the host had are back. -/
theorem Course.get_of_none (hcourse : Course signal base m n) {label : Nat}
    (hunder : m.hub.underlying.get signal = .host label)
    (hnone : (m.after (n + 1)).hub.table = none) :
    (m.after (n + 1)).hub.dispositions.get signal = .host label := by
  rw [← Hub.underlying_of_none hnone, (hcourse.calm (Nat.le_refl _)).2]
  exact hunder

/-- An owner at the end of the line was initialized meanwhile. -/
theorem Course.owner_of_some (hcourse : Course signal base m n) (h : m.Reachable)
    {t : HandlerTable} (htable : (m.after (n + 1)).hub.table = some t) :
    (m.after (n + 1)).hub.isInitialized t.owner = true ∧ m.hub.isInitialized t.owner = false := by
  obtain ⟨-, s, hsession, -⟩ := (h.after (n + 1)).owned.session t htable
  have hinit : (m.after (n + 1)).hub.isInitialized t.owner = true := by
    rw [Hub.isInitialized, hsession]
    rfl
  refine ⟨hinit, ?_⟩
  by_contra hbefore
  exact absurd (hcourse.le_of_isInitialized h (by simpa using hbefore) hinit) (by omega)

/-- The course of a dispatch and its end make up all of it. -/
theorem Course.dispatched (hcourse : Course signal base m n) (h : m.Reachable)
    {t : HandlerTable} {label last : Nat} (htable : m.hub.table = some t)
    (hprevious : (signal, .host label) ∈ t.previous) {received : List (Signal × Nat)}
    (ending : Ending signal base (m.after (n + 1)) received last)
    (hforwarded : (m.after (n + 1)).hub.table = none →
      received = m.hub.received ++ [(signal, label)])
    (hkept : ∀ t, (m.after (n + 1)).hub.table = some t → received = m.hub.received) :
    m.Dispatched signal base (n + 1 + last) := by
  -- a step is one up to the end of the line, or one behind it
  have behind : ∀ k, n + 1 ≤ k → k ≤ n + 1 + last →
      ∃ j ≤ last, k = n + 1 + j ∧ m.after k = (m.after (n + 1)).after j := by
    intro k hk hlast
    obtain ⟨j, rfl⟩ := Nat.exists_eq_add_of_le hk
    exact ⟨j, by omega, rfl, after_add m (n + 1) j⟩
  have hafter := after_add m (n + 1) last
  have rests := ending.rests last (Nat.le_refl last)
  rw [← hafter] at rests
  have hreceived : (m.after (n + 1 + last)).hub.received = received := by
    rw [hafter, ending.received_eq]
  constructor
  case returned =>
    rw [hafter]
    exact ending.returned
  case beneath =>
    intro k hpos hk
    by_cases hmoment : k ≤ n + 1
    · exact hcourse.beneath hpos hmoment
    · obtain ⟨j, -, rfl, hj⟩ := behind k (by omega) (by omega)
      obtain ⟨f, hf, hsignal⟩ := ending.own j (by omega)
      exact ⟨[], f, by rw [hj, hf]; rfl, hsignal⟩
  case shut =>
    intro id hid
    refine ⟨hcourse.shut_later h hid (by omega), ?_⟩
    exact (hcourse.owed _ (h.owes_shutDown hid)).later (by omega)
  case inOrder =>
    intro k hk id hbefore hinit hends
    exact hcourse.inOrder h hbefore hinit hends
  case callbacks =>
    intro k hk c hc hbefore hinit callback hcallback
    obtain ⟨hstart, hfinish⟩ := hcourse.callbacks h hc hbefore hinit hcallback
    exact ⟨hstart.later (by omega), hfinish.later (by omega)⟩
  case untouched =>
    intro k hk hown id hid
    by_cases hmoment : k ≤ n + 1
    · exact hcourse.untouched h hmoment hown hid
    · obtain ⟨j, hj, rfl, hafter⟩ := behind k (by omega) (by omega)
      have hnext : m.after (n + 1 + j + 1) = (m.after (n + 1)).after (j + 1) :=
        after_add m (n + 1) (j + 1)
      rw [hafter, hnext]
      refine Hub.find?_of_contexts ?_ id
      rw [(ending.rests (j + 1) (by omega)).contexts, (ending.rests j hj).contexts]
  case pending => exact rests.pending.trans hcourse.pending
  case delivered =>
    rw [hafter]
    exact ending.delivered
  case late =>
    intro k hk id hid hnot
    by_cases hmoment : k ≤ n + 1
    · exact (hcourse.calm hmoment).1
    · exact absurd ((hcourse.owed _ (h.owes_shutDown hid)).later (by omega)) hnot
  case forwarded =>
    intro hnone
    refine ⟨t, label, htable, hprevious, ?_⟩
    rw [hreceived]
    exact hforwarded (rests.table ▸ hnone)
  case kept =>
    intro t' ht'
    rw [rests.table] at ht'
    obtain ⟨hinit, hbefore⟩ := hcourse.owner_of_some h ht'
    refine ⟨?_, hbefore, hreceived.trans (hkept t' ht')⟩
    rw [Hub.isInitialized_congr (Hub.find?_of_contexts rests.contexts _)]
    exact hinit

/-- **Dispatching a signal.** If no signal waits, the call answers so and changes nothing. If one
waits, the call comes back, and what has become of it then is `Dispatched`. -/
theorem Reachable.dispatch_pending (h : m.Reachable)
    (hframes : m.frames = .script label (.dispatch :: rest) replies :: below) :
    (m.hub.pending = none → m.step = { m with
      frames := .script label rest (replies ++ [.ok (.signal none)]) :: below }) ∧
    ∀ signal, m.hub.pending = some signal →
      ∃ n, m.Dispatched signal (.script label rest replies :: below) n := by
  refine ⟨step_dispatch_of_none h hframes, fun signal hpending => ?_⟩
  obtain ⟨n, hcourse⟩ := exists_course h hframes hpending
  obtain ⟨t, was, htable, -, hprevious, hunder⟩ := h.wired.of_pending hpending
  obtain ⟨count, hlast⟩ := hcourse.last
  obtain ⟨received, last, ending, hforwarded, hkept⟩ :=
    exists_ending (h.after (n + 1)) hlast (hcourse.get_of_none hunder)
  have hcalm := (hcourse.calm (Nat.le_refl _)).1
  rw [hcalm] at hforwarded hkept
  exact ⟨n + 1 + last, hcourse.dispatched h htable hprevious ending hforwarded hkept⟩

/-- A context that owns all handlers gets a callback, and the program is about to dispatch. -/
def dispatchOfFirst : List Op :=
  [.create "a", .init (some "a") none { handlers := some .all },
    .onShutdown "a" "last words" [.owner], .dispatch]

/-- The moment of `dispatchOfFirst` at which a signal has come in. -/
def firstSignalled : Machine :=
  let called : Machine :=
    { fresh "" 1 false 0 7 with frames := [.script none dispatchOfFirst []] }
  { called.after 3 with hub := (called.after 3).hub.deliver .terminate }

theorem reachable_firstSignalled : firstSignalled.Reachable := by
  have called := (Reachable.start "" 1 false 0 7).next (.call dispatchOfFirst)
  exact (called.after 3).next (.arrive .terminate)

theorem dispatch_pending_firstSignalled :
    firstSignalled.Reachable ∧ firstSignalled.hub.pending = some .terminate ∧
      ∃ n, firstSignalled.Dispatched .terminate
        [.script none [] [.ok (.id 1), .ok (.id 1), .ok .done]] n := by
  have hframes : firstSignalled.frames
      = .script none (.dispatch :: []) [.ok (.id 1), .ok (.id 1), .ok .done] :: [] := rfl
  obtain ⟨-, waits⟩ := reachable_firstSignalled.dispatch_pending hframes
  exact ⟨reachable_firstSignalled, rfl, waits .terminate rfl⟩

end Machine
end RobotClient
