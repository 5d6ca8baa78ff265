import RobotClient.Proofs.Context.Duties

set_option autoImplicit false

/-! # The moments of a dispatch

While a signal is being dispatched the frames split in two: the frame of the dispatch with whatever
was there before it, and above it what the callbacks of the shutdowns have brought about (`Moment`).
No step reaches below the frame of the dispatch before the line is empty, none lets a signal in, and
each either meets a duty or keeps it. Main statement: `moment_step`. -/

namespace RobotClient

open Relation (ReflTransGen)

/-- Whether the callbacks of a shutdown can bring a frame about while no signal waits. -/
def Frame.isInner : Frame → Bool
  | .script none _ _ => false
  | .dispatching .. | .concluding .. => false
  | _ => true

/-- Whether a frame is a callback that is running. -/
def Frame.isCallback : Frame → Bool
  | .script (some _) _ _ => true
  | _ => false

/-- Whether a frame is a race. -/
def Frame.isRace : Frame → Bool
  | .racing .. => true
  | _ => false

namespace Machine

/-- Whether a callback waits beneath every race. -/
def Attended : List Frame → Prop
  | [] => True
  | f :: below => (f.isRace = true → below.any Frame.isCallback = true) ∧ Attended below

theorem Attended.cons {f : Frame} {above : List Frame} (hf : f.isRace = false)
    (h : Attended above) : Attended (f :: above) := by
  refine ⟨fun hrace => ?_, h⟩
  rw [hf] at hrace
  exact absurd hrace (by decide)

theorem Attended.append {new above : List Frame} (hnew : ∀ f ∈ new, f.isRace = false)
    (h : Attended above) : Attended (new ++ above) := by
  induction new with
  | nil => exact h
  | cons f rest ih =>
    have hrest : Attended (rest ++ above) := ih fun g hg => hnew g (List.mem_cons_of_mem _ hg)
    exact hrest.cons (hnew f List.mem_cons_self)

/-! ## What a run adds -/

theorem finished_step (m : Machine) : m.finished <+: m.step.finished := by
  unfold step
  split
  · exact List.prefix_rfl
  · next frame below h =>
    change m.finished <+: (({ m with frames := below } : Machine).advance frame).finished
    by_cases hends : frame.ends = true
    · cases frame with
      | script label ops replies =>
        cases ops with
        | nil =>
          cases label with
          | none => exact List.prefix_rfl
          | some label => exact List.prefix_append ..
        | cons op rest => exact absurd hends (by simp [Frame.ends])
      | _ => exact absurd hends (by simp [Frame.ends])
    · have hkept := (records_advance { m with frames := below } (by simpa using hends)).1
      exact ⟨[], (List.append_nil _).trans hkept.symm⟩

theorem log_of_moves {p q : Hub Callback} (moves : ReflTransGen Hub.Move p q) :
    p.log <+: q.log := by
  induction moves with
  | refl => exact List.prefix_rfl
  | tail _ hm ih => exact ih.trans hm.log_prefix

/-! ## Meeting a duty -/

/-- Whether a duty of `m` is met by the time of `r`: a callback starts when it comes to the top with
    all it has to do. -/
def Met (m r : Machine) : Duty → Prop
  | .start c => r.frames.head? = some (.script (some c.label) c.body [])
  | .finish label => ∃ new f, r.finished = m.finished ++ new ∧ f ∈ new ∧ f.label = label
  | .shutDown id => ∃ new, r.hub.log = m.hub.log ++ new ∧ .shutDown id ∈ new

/-- Whether a duty is met within `n` steps. -/
def Meets (m : Machine) (n : Nat) (d : Duty) : Prop := ∃ k ≤ n, Met m (m.after k) d

/-- What is met counted from a later machine is met counted from an earlier one. -/
theorem Met.earlier {m m' r : Machine} {d : Duty} (h : Met m' r d)
    (hfinished : m.finished <+: m'.finished) (hlog : m.hub.log <+: m'.hub.log) : Met m r d := by
  cases d with
  | start c => exact h
  | finish label =>
    obtain ⟨new, f, hnew, hf, hlabel⟩ := h
    obtain ⟨first, hfirst⟩ := hfinished
    refine ⟨first ++ new, f, ?_, List.mem_append_right _ hf, hlabel⟩
    rw [hnew, ← hfirst, List.append_assoc]
  | shutDown id =>
    obtain ⟨new, hnew, hmem⟩ := h
    obtain ⟨first, hfirst⟩ := hlog
    refine ⟨first ++ new, ?_, List.mem_append_right _ hmem⟩
    rw [hnew, ← hfirst, List.append_assoc]

theorem Met.collect {m r : Machine} {d : Duty} (h : Met m r d) : Met m r.collect d := by
  cases d with
  | start c => exact h
  | finish label => exact h
  | shutDown id =>
    obtain ⟨new, hnew, hmem⟩ := h
    obtain ⟨more, hmore⟩ := log_of_moves (moves_foldl_free r.unheld r.hub)
    refine ⟨new ++ more, ?_, List.mem_append_left _ hmem⟩
    rw [← List.append_assoc, ← hnew]
    exact hmore.symm

theorem Meets.later {m : Machine} {n n' : Nat} {d : Duty} (h : m.Meets n d) (hn : n ≤ n') :
    m.Meets n' d := by
  obtain ⟨k, hk, hmet⟩ := h
  exact ⟨k, Nat.le_trans hk hn, hmet⟩

/-- What the steps after the first one meet, all of them meet. -/
theorem Meets.earlier {m : Machine} {n : Nat} {d : Duty} (h : m.step.Meets n d) :
    m.Meets (n + 1) d := by
  obtain ⟨k, hk, hmet⟩ := h
  exact ⟨k + 1, Nat.succ_le_succ hk,
    hmet.earlier (finished_step m) (log_of_moves (moves_step m))⟩

/-! ## Moments -/

variable {signal : Signal} {before : Option Nat} {base above : List Frame} {line : List Nat}
  {m r : Machine} {d : Duty}

/-- A moment of a dispatch: the contexts in `line` are still to be shut down, `above` is what the
    shutdowns so far have left to do, and `base` is what the dispatch goes back to. The races in
    `above` were started by callbacks that are still there. -/
structure Moment (signal : Signal) (before : Option Nat) (base : List Frame) (m : Machine)
    (above : List Frame) (line : List Nat) : Prop where
  frames : ∃ count, m.frames = above ++ .dispatching signal line count before :: base
  inner : ∀ f ∈ above, f.isInner = true
  attended : Attended above
  pending : m.hub.pending = none

/-- What a moment of a dispatch owes. -/
def Owing (m : Machine) (above : List Frame) (line : List Nat) (d : Duty) : Prop :=
  d ∈ above.flatMap Frame.duties ∨ m.hub.Owes line d

/-- What a part of a step brings a moment to: another moment that owes as much, with no signal let
    in. -/
def Keeps (signal : Signal) (before : Option Nat) (base : List Frame) (m : Machine)
    (above : List Frame) (line : List Nat) (r : Machine) : Prop :=
  ∃ above', Moment signal before base r above' line ∧ Hub.Calm m.hub r.hub ∧
    ∀ d, Owing m above line d → Owing r above' line d

theorem answered_above (reply : Reply) (above : List Frame) (signal : Signal) (line : List Nat)
    (count : Nat) (before : Option Nat) (base : List Frame) :
    ∃ above', answered reply (above ++ .dispatching signal line count before :: base)
        = above' ++ .dispatching signal line count before :: base ∧
      above'.map Frame.isInner = above.map Frame.isInner ∧
      (Attended above → Attended above') ∧
      above'.flatMap Frame.duties = above.flatMap Frame.duties := by
  cases above with
  | nil => exact ⟨[], rfl, rfl, id, rfl⟩
  | cons f rest =>
    cases f with
    | script label ops replies => cases label <;> exact ⟨_ :: rest, rfl, rfl, id, rfl⟩
    | racing target call left replies => exact ⟨_ :: rest, rfl, rfl, id, rfl⟩
    | _ => exact ⟨_ :: rest, rfl, rfl, id, rfl⟩

/-- An answer after some harmless changes of the hub. -/
theorem Moment.answer (h : Moment signal before base m above line) {hub : Hub Callback}
    (calm : Hub.Calm m.hub hub) (carries : Hub.Carries m.hub hub)
    (handles : List (String × Nat)) (nodes : List (String × Node)) (reply : Reply) :
    Keeps signal before base m above line ({ m with hub, handles, nodes }.answer reply) := by
  obtain ⟨count, hframes⟩ := h.frames
  obtain ⟨above', hanswered, hinner, hattended, hduties⟩ :=
    answered_above reply above signal line count before base
  rw [answer_eq]
  refine ⟨above', ⟨⟨count, ?_⟩, fun f hf => ?_, hattended h.attended, calm.pending h.pending⟩, calm,
    fun d hd => ?_⟩
  · rw [← hanswered, ← hframes]
  · have hmem : f.isInner ∈ above.map Frame.isInner := hinner ▸ List.mem_map_of_mem hf
    obtain ⟨g, hg, heq⟩ := List.mem_map.1 hmem
    rw [← heq, h.inner g hg]
  · rcases hd with hd | hd
    · exact .inl (hduties ▸ hd)
    · exact .inr (carries.owes hd)

/-- New frames on top of a moment. -/
theorem Moment.push (h : Moment signal before base m above line) {hub : Hub Callback}
    (calm : Hub.Calm m.hub hub) (new : List Frame) (hnew : ∀ f ∈ new, f.isInner = true)
    (hattended : Attended (new ++ above))
    (howes : ∀ d, m.hub.Owes line d → d ∈ new.flatMap Frame.duties ∨ hub.Owes line d) :
    Keeps signal before base m above line { m with hub, frames := new ++ m.frames } := by
  obtain ⟨count, hframes⟩ := h.frames
  refine ⟨new ++ above, ⟨⟨count, ?_⟩, ?_, hattended, calm.pending h.pending⟩, calm,
    fun d hd => ?_⟩
  · simp [hframes]
  · intro f hf
    rcases List.mem_append.1 hf with hf | hf
    · exact hnew f hf
    · exact h.inner f hf
  · rw [Owing, List.flatMap_append, List.mem_append]
    rcases hd with hd | hd
    · exact .inl (.inr hd)
    · exact (howes d hd).imp_left .inl

theorem Called.keeps (h : Called m r) (hn : m.hub.Numbered)
    (hm : Moment signal before base m above line) :
    Keeps signal before base m above line r := by
  cases h with
  | answer handles nodes reply acts =>
    exact hm.answer (.acts acts) (.acts acts hn) handles nodes reply
  | @shut id callbacks hub releasing reply hb hr =>
    have hkind : ∀ f ∈ .shutting id callbacks :: (releasing ++ [.returning reply]),
        f.isInner = true ∧ f.isRace = false := by
      intro f hf
      rcases List.mem_cons.1 hf with rfl | hf
      · exact ⟨rfl, rfl⟩
      · rcases List.mem_append.1 hf with hf | hf
        · rw [hr f hf]
          exact ⟨rfl, rfl⟩
        · rw [List.mem_singleton.1 hf]
          exact ⟨rfl, rfl⟩
    have keeps := hm.push (.beginShutdown hb)
      (.shutting id callbacks :: (releasing ++ [.returning reply])) (fun f hf => (hkind f hf).1)
      (.append (fun f hf => (hkind f hf).2) hm.attended) ?_
    · simpa using keeps
    · intro d hd
      rw [List.flatMap_cons, List.mem_append]
      exact (Hub.owes_beginShutdown hb hd).imp_left .inl

theorem Moment.inCallback (h : Moment signal before base m above line)
    (habove : above.any Frame.isCallback = true) : m.inCallback = true := by
  obtain ⟨count, hframes⟩ := h.frames
  obtain ⟨f, hf, hcallback⟩ := List.any_eq_true.1 habove
  refine List.any_eq_true.2 ⟨f, ?_, ?_⟩
  · rw [hframes]
    exact List.mem_append_left _ hf
  · cases f with
    | script label ops replies =>
      cases label with
      | none => exact absurd hcallback (by simp [Frame.isCallback])
      | some label => rfl
    | _ => exact absurd hcallback (by simp [Frame.isCallback])

/-- An operation of a callback lets no signal in: it is refused if it raises one, and none waits
    that it could dispatch. -/
theorem Outcome.keeps {op : Op} (h : Outcome m op r) (hn : m.hub.Numbered)
    (hm : Moment signal before base m above line) (habove : above.any Frame.isCallback = true) :
    Keeps signal before base m above line r := by
  have hc := hm.inCallback habove
  cases h with
  | called h => exact h.keeps hn hm
  | call callback =>
    refine hm.push (.refl m.hub) [.script (some callback.label) callback.body [],
      .returning (.ok .done)] ?_ (.cons rfl (.cons rfl hm.attended)) fun d hd => .inr hd
    simp [Frame.isInner]
  | race target call count =>
    exact hm.push (.refl m.hub) [.racing target call count []] (by simp [Frame.isInner])
      ⟨fun _ => habove, hm.attended⟩ fun d hd => .inr hd
  | takePending reply =>
    exact hm.answer (.takePending m.hub) (.of_find? fun _ _ _ hc _ => hc) m.handles m.nodes reply
  | dispatch h =>
    rw [hm.pending] at h
    exact absurd h (by simp)
  | host signal reply hc' =>
    rw [hc] at hc'
    exact absurd hc' (by decide)
  | caught h hc' =>
    rw [hc] at hc'
    exact absurd hc' (by decide)

/-! ## Steps -/

/-- What a step brings a moment to: another moment, with no signal let in, and every duty met or
    still owed. -/
def Advances (signal : Signal) (before : Option Nat) (base : List Frame) (m : Machine)
    (above : List Frame) (line : List Nat) (r : Machine) (line' : List Nat) : Prop :=
  ∃ above', Moment signal before base r above' line' ∧ Hub.Calm m.hub r.hub ∧
    ∀ d, Owing m above line d → Met m r d ∨ Owing r above' line' d

/-- One frame of what the shutdowns have left to do goes on. -/
theorem Moment.advance_above {f : Frame} {count : Nat} (hn : m.hub.Numbered)
    (hframes : m.frames = above ++ .dispatching signal line count before :: base)
    (hinner : ∀ g ∈ f :: above, g.isInner = true) (hattended : Attended (f :: above))
    (hpending : m.hub.pending = none) :
    Advances signal before base m (f :: above) line (m.advance f) line := by
  have hf := hinner f List.mem_cons_self
  have hrest : ∀ g ∈ above, g.isInner = true := fun g hg => hinner g (List.mem_cons_of_mem _ hg)
  have hmoment : Moment signal before base m above line :=
    ⟨⟨count, hframes⟩, hrest, hattended.2, hpending⟩
  -- a frame that goes away or only changes its inside owes nothing that the rest does not keep
  have lift : f.duties = [] → ∀ d, Owing m (f :: above) line d → Owing m above line d := by
    intro hnone d hd
    rwa [Owing, List.flatMap_cons, hnone, List.nil_append] at hd
  have drop : f.duties = [] → ∀ r, Keeps signal before base m above line r →
      Advances signal before base m (f :: above) line r line := by
    rintro hnone r ⟨above', hmoment', calm, howing⟩
    exact ⟨above', hmoment', calm, fun d hd => .inr (howing d (lift hnone d hd))⟩
  cases f with
  | script label ops replies =>
    cases label with
    | none => exact absurd hf (by simp [Frame.isInner])
    | some label =>
      cases ops with
      | nil =>
        refine ⟨above, ⟨⟨count, hframes⟩, hrest, hattended.2, hpending⟩, .refl m.hub,
          fun d hd => ?_⟩
        rw [Owing, List.flatMap_cons, List.mem_append] at hd
        rcases hd with (hd | hd) | hd
        · rw [Frame.duties, List.mem_singleton] at hd
          subst hd
          exact .inl ⟨[⟨label, replies⟩], ⟨label, replies⟩, rfl, List.mem_singleton_self _, rfl⟩
        · exact .inr (.inl hd)
        · exact .inr (.inr hd)
      | cons op rest =>
        have hmoment' : Moment signal before base
            { m with frames := .script (some label) rest replies :: m.frames }
            (.script (some label) rest replies :: above) line :=
          ⟨⟨count, by rw [hframes]; rfl⟩, List.forall_mem_cons.2 ⟨rfl, hrest⟩,
            .cons rfl hattended.2, hpending⟩
        have outcome := outcome_execute
          { m with frames := .script (some label) rest replies :: m.frames } op
        obtain ⟨above', hr, calm, howing⟩ := outcome.keeps hn hmoment' rfl
        exact ⟨above', hr, calm, fun d hd => .inr (howing d hd)⟩
  | shutting id callbacks =>
    cases callbacks with
    | nil =>
      refine ⟨above, ⟨⟨count, hframes⟩, hrest, hattended.2, hpending⟩, .finishShutdown m.hub id,
        fun d hd => ?_⟩
      rw [Owing, List.flatMap_cons, List.mem_append] at hd
      rcases hd with (hd | hd) | hd
      · obtain rfl : d = .shutDown id := List.mem_singleton.1 hd
        exact .inl ⟨[.shutDown id], rfl, List.mem_singleton_self _⟩
      · exact .inr (.inl hd)
      · exact .inr (.inr hd)
    | cons c rest =>
      refine ⟨.script (some c.label) c.body [] :: .shutting id rest :: above,
        ⟨⟨count, by rw [advance, hframes]; rfl⟩, ?_, ?_, hpending⟩, .refl m.hub, fun d hd => ?_⟩
      · exact List.forall_mem_cons.2 ⟨rfl, List.forall_mem_cons.2 ⟨rfl, hrest⟩⟩
      · exact .cons rfl (.cons rfl hattended.2)
      · rw [Owing, List.flatMap_cons, List.mem_append, mem_duties_shutting] at hd
        simp only [Owing, List.flatMap_cons, List.mem_append, mem_duties_shutting]
        rcases hd with ((rfl | ⟨c', hc', hd⟩) | hd) | hd
        · exact .inr (.inl (.inr (.inl (.inl rfl))))
        · rcases List.mem_cons.1 hc' with rfl | hc'
          · rcases hd with rfl | rfl
            · exact .inl rfl
            · exact .inr (.inl (.inl (List.mem_singleton_self _)))
          · exact .inr (.inl (.inr (.inl (.inr ⟨c', hc', hd⟩))))
        · exact .inr (.inl (.inr (.inr hd)))
        · exact .inr (.inr hd)
  | releasing id =>
    have act := Hub.Act.releaseDefault (p := m.hub) id
    exact drop rfl _ ⟨above, ⟨⟨count, hframes⟩, hrest, hattended.2,
      (Hub.Calm.act act).pending hpending⟩,
      .act act, fun d hd => hd.imp_right (Hub.Carries.act act hn).owes⟩
  | returning reply =>
    exact drop rfl _ (hmoment.answer (.refl m.hub) (.refl m.hub) m.handles m.nodes reply)
  | dispatching signal' rest count' before' => exact absurd hf (by simp [Frame.isInner])
  | concluding next signal' before' => exact absurd hf (by simp [Frame.isInner])
  | racing target call left replies =>
    cases left with
    | zero =>
      exact drop rfl _ (hmoment.answer (.refl m.hub) (.refl m.hub) m.handles m.nodes _)
    | succ left =>
      have hmoment' : Moment signal before base
          { m with frames := .racing target call left replies :: m.frames }
          (.racing target call left replies :: above) line :=
        ⟨⟨count, by rw [hframes]; rfl⟩, List.forall_mem_cons.2 ⟨rfl, hrest⟩, hattended, hpending⟩
      have called := called_makeCall
        { m with frames := .racing target call left replies :: m.frames } target call
      obtain ⟨above', hr, calm, howing⟩ := called.keeps hn hmoment'
      exact ⟨above', hr, calm, fun d hd => .inr (howing d hd)⟩

/-- The dispatch goes on with the next context in line, which is shut down afterwards: either its
    shutdown starts now, or a callback has been there before. -/
theorem Moment.advance_line (signal : Signal) (id : Nat) (line : List Nat) (count : Nat)
    (before : Option Nat) (hframes : m.frames = base) (hpending : m.hub.pending = none)
    (hid : m.hub.Begun id) :
    Advances signal before base m [] (id :: line)
        (m.advance (.dispatching signal (id :: line) count before)) line ∧
      (m.advance (.dispatching signal (id :: line) count before)).hub.phase id = .shutdown := by
  cases hb : m.hub.beginShutdown id with
  | error e =>
    have hinit := (Hub.beginShutdown_eq_error hb).1
    rw [advance_dispatching_of_error hb]
    refine ⟨⟨[], ⟨⟨count, ?_⟩, by simp, trivial, hpending⟩, .refl m.hub, fun d hd => ?_⟩,
      hid.phase_eq_shutdown hinit⟩
    · rw [hframes]
      rfl
    · exact .inr (hd.imp_right (Hub.owes_cons_of_not_initialized hinit))
  | ok started =>
    obtain ⟨callbacks, hub⟩ := started
    have calm := Hub.Calm.beginShutdown hb
    have hphase : hub.phase id = .shutdown := by
      obtain ⟨c, hc, -, hcontexts, -⟩ := Hub.beginShutdown_closed hb
      rw [Hub.phase_of_closed hcontexts hc, if_pos rfl]
    rw [advance_dispatching_of_ok hb]
    have hinit := Hub.isInitialized_of_shutdown hphase
    refine ⟨⟨[.shutting id callbacks], ⟨⟨count + 1, ?_⟩, by simp [Frame.isInner],
      .cons rfl trivial, calm.pending hpending⟩, calm, fun d hd => .inr ?_⟩, hphase⟩
    · rw [hframes]
      rfl
    · rcases hd with hd | hd
      · exact absurd hd (by simp)
      · rw [Owing, List.flatMap_cons, List.flatMap_nil, List.append_nil]
        exact (Hub.owes_beginShutdown hb hd).imp_right
          (Hub.owes_cons_of_not_initialized hinit)

/-- A context outlasts a collection if it is held. -/
theorem find?_collect (m : Machine) (id : Nat) :
    m.collect.hub.find? id = if m.held id = true then m.hub.find? id else none := by
  have hfilter : m.collect.hub.find? id
      = (m.hub.contexts.filter fun c => c.id ∉ m.unheld).find? (·.id = id) := by
    simp only [Hub.find?, collect, Hub.contexts_foldl_free]
  rw [hfilter, List.find?_filter]
  by_cases hheld : m.held id = true
  · rw [if_pos hheld, Hub.find?]
    congr 1
    funext c
    by_cases hc : c.id = id
    · have hkept : c.id ∉ m.unheld := fun hmem => by
        have hout := (List.mem_filter.1 hmem).2
        rw [hc, hheld] at hout
        exact absurd hout (by decide)
      simp [hc, hc ▸ hkept]
    · simp [hc]
  · rw [if_neg hheld, List.find?_eq_none]
    intro c hmem
    by_cases hc : c.id = id
    · have hout : c.id ∈ m.unheld :=
        List.mem_filter.2 ⟨List.mem_map_of_mem hmem, by simpa [hc] using hheld⟩
      simp [hout]
    · simp [hc]

theorem Moment.held (h : Moment signal before base m above line) {id : Nat} (hid : id ∈ line) :
    m.held id = true := by
  obtain ⟨count, hframes⟩ := h.frames
  simp [Machine.held, hframes, Frame.holds, hid]

theorem Calm.collect (m : Machine) : Hub.Calm m.hub m.collect.hub :=
  Hub.Calm.foldl_free m.unheld m.hub

/-- Freeing what nobody holds leaves a moment as it is, since the dispatch holds its line. -/
theorem Advances.collect {line' : List Nat}
    (h : Advances signal before base m above line r line') :
    Advances signal before base m above line r.collect line' := by
  obtain ⟨above', hr, calm, howing⟩ := h
  have calm' := Calm.collect r
  refine ⟨above', ⟨hr.frames, hr.inner, hr.attended, calm'.pending hr.pending⟩, calm.trans calm',
    fun d hd => ?_⟩
  rcases howing d hd with hmet | hd | ⟨id, hid, c, s, hc, hph, hmem⟩
  · exact .inl hmet.collect
  · exact .inr (.inl hd)
  · exact .inr (.inr ⟨id, hid, c, s, by rw [find?_collect, if_pos (hr.held hid), hc],
      hph, hmem⟩)

/-- **A step of a dispatch.** Until the line is empty a step leads to another moment of the
dispatch: it lets no signal in, and every duty is met or still owed. The line gets shorter only by
contexts that are shut down. -/
theorem moment_step (h : m.Reachable) (hm : Moment signal before base m above line)
    (hline : ∀ id ∈ line, m.hub.Begun id) (hmore : above ≠ [] ∨ line ≠ []) :
    ∃ line', Advances signal before base m above line m.step line' ∧
      (line' = line ∨ ∃ id, line = id :: line' ∧ m.step.hub.phase id = .shutdown) := by
  obtain ⟨count, hframes⟩ := hm.frames
  cases above with
  | cons f above =>
    refine ⟨line, ?_, .inl rfl⟩
    rw [step_of_advance hframes rfl]
    have advances := Moment.advance_above
      (m := { m with frames := above ++ .dispatching signal line count before :: base })
      h.numbered rfl hm.inner hm.attended hm.pending
    exact advances.collect
  | nil =>
    cases line with
    | nil => exact absurd hmore (by simp)
    | cons id line =>
      have hid := hline id List.mem_cons_self
      have advances := Moment.advance_line (m := { m with frames := base }) signal id line count
        before rfl hm.pending hid
      have hstep := step_of_advance hframes rfl
      refine ⟨line, ?_, .inr ⟨id, rfl, ?_⟩⟩
      · rw [hstep]
        exact advances.1.collect
      · rw [hstep]
        have moves := moves_advance { m with frames := base }
          (.dispatching signal (id :: line) count before)
        have hlt := Nat.lt_of_lt_of_le hid.1 (Hub.nextId_le_of_moves moves)
        exact Hub.shutdown_of_moves (moves_foldl_free ..) (h.numbered.moves moves) hlt advances.2

end Machine
end RobotClient
