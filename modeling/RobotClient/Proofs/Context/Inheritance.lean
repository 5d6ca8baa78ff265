import RobotClient.Proofs.Context.Calls
import RobotClient.Proofs.Context.Forwarding

set_option autoImplicit false

/-! # Which signals an owner hears of

Two signals are on record: the one that waits and the one that was dealt with last. An
initialization that installs handlers clears both (`Next.installed`), so what is on record later was
caught later. A dispatch is the exception, since nothing is locked while it comes to its end: it
looks for an owner, raises its signal again if there is none, and records the signal. A context that
comes to own the handlers before the record is made, be it through a callback or another program,
finds a signal that was caught before its time as dealt with last; one that does so between the look
and the raise finds it waiting, too. `Traced` says where the signals on record come from, and every
step keeps it; `Reachable.caught_since_install` is the main statement, and `exists_inherited_signal`
shows a run for each of the two. -/

namespace RobotClient

open Relation (ReflTransGen)

namespace Hub

variable {κ : Type} {p q r : Hub κ} {id : Nat}

/-! ## Signals on record -/

/-- What programs and callbacks do to the signals on record: nothing but clearing them. -/
structure Quiet (p q : Hub κ) : Prop where
  pending : ∀ s, q.pending = some s → p.pending = some s
  delivered : ∀ s, q.delivered = some s → p.delivered = some s

theorem Quiet.refl (p : Hub κ) : Quiet p p := ⟨fun _ h => h, fun _ h => h⟩

theorem Quiet.trans (h : Quiet p q) (h' : Quiet q r) : Quiet p r :=
  ⟨fun s hs => h.pending s (h'.pending s hs), fun s hs => h.delivered s (h'.delivered s hs)⟩

/-- Without a signal on record there is none afterwards. -/
theorem Quiet.clear (h : Quiet p q) (hp : p.pending = none ∧ p.delivered = none) :
    q.pending = none ∧ q.delivered = none := by
  obtain ⟨hp, hd⟩ := hp
  refine ⟨Option.eq_none_iff_forall_ne_some.2 fun s hs => ?_,
    Option.eq_none_iff_forall_ne_some.2 fun s hs => ?_⟩
  · exact absurd (hp.symm.trans (h.pending s hs)) (by simp)
  · exact absurd (hd.symm.trans (h.delivered s hs)) (by simp)

theorem Quiet.of_none (hp : q.pending = none) (hd : q.delivered = p.delivered) : Quiet p q :=
  ⟨fun s hs => by simp [hp] at hs, fun s hs => hd ▸ hs⟩

theorem Quiet.of_rewired (h : Rewired p q) : Quiet p q := by
  cases h with
  | same _ _ hp hl => exact ⟨fun s hs => hp ▸ hs, fun s hs => hl ▸ hs⟩
  | installed _ _ _ _ _ hp hl =>
    exact ⟨fun s hs => by simp [hp] at hs, fun s hs => by simp [hl] at hs⟩
  | restored _ _ _ _ hp hl => exact .of_none hp hl

theorem Quiet.act (h : Act p q) : Quiet p q := .of_rewired h.orderly.1.rewired

theorem Quiet.acts (h : ReflTransGen Act p q) : Quiet p q := by
  induction h with
  | refl => exact .refl p
  | tail _ ha ih => exact ih.trans (.act ha)

theorem Quiet.beginShutdown {callbacks : List κ} (h : p.beginShutdown id = .ok (callbacks, q)) :
    Quiet p q :=
  .of_rewired (Orderly.beginShutdown h).rewired

theorem Quiet.free (p : Hub κ) (id : Nat) : Quiet p (p.free id) :=
  .of_rewired (Orderly.free p id).rewired

theorem Quiet.foldl_free (ids : List Nat) (p : Hub κ) : Quiet p (ids.foldl Hub.free p) := by
  induction ids generalizing p with
  | nil => exact .refl p
  | cons id rest ih => exact (Quiet.free p id).trans (ih _)

/-! ## A new owner -/

/-- What becomes of the table on the way from one hub to another: it stays or is taken out, or it is
    one that was installed on the way, and no signal is on record. -/
def Installed (p q : Hub κ) : Prop :=
  q.table = p.table ∨ q.table = none ∨ q.pending = none ∧ q.delivered = none

theorem Installed.rewired (h : Installed p q) (hr : Rewired q r) : Installed p r := by
  have quiet := Quiet.of_rewired hr
  cases hr with
  | same ht =>
    rcases h with h | h | h
    · exact .inl (ht.trans h)
    · exact .inr (.inl (ht.trans h))
    · exact .inr (.inr (quiet.clear h))
  | installed _ _ _ _ _ hp hl => exact .inr (.inr ⟨hp, hl⟩)
  | restored _ _ ht => exact .inr (.inl ht)

theorem Installed.acts (h : ReflTransGen Act p q) : Installed p q := by
  induction h with
  | refl => exact .inl rfl
  | tail _ ha ih => exact ih.rewired ha.orderly.1.rewired

theorem Installed.stride (h : Stride p q) : Installed p q := by
  cases h with
  | acts acts => exact .acts acts
  | beginShutdown hb => exact Installed.rewired (.inl rfl) (Orderly.beginShutdown hb).rewired
  | finishShutdown id => exact .inl rfl
  | takePending => exact .inl rfl
  | deliver signal => exact .inl (wiring_deliver p signal).1
  | report _ => exact .inl rfl
  | noteDelivered signal => exact .inl rfl

theorem Installed.foldl_free (ids : List Nat) (h : Installed p q) :
    Installed p (ids.foldl Hub.free q) := by
  induction ids generalizing q with
  | nil => exact h
  | cons id rest ih => exact ih (h.rewired (Orderly.free q id).rewired)

/-- A context that comes to own the handlers finds no signal on record. -/
theorem Installed.cleared (h : Installed p q) (hp : p.owner? ≠ some id)
    (hq : q.owner? = some id) : q.pending = none ∧ q.delivered = none := by
  rcases h with h | h | h
  · exact absurd (by rwa [owner?, h] at hq) hp
  · exact absurd hq (by simp [owner?, h])
  · exact h

end Hub

/-- The signal that a frame raises again. -/
def Frame.raises? : Frame → Option Signal
  | .concluding .raise signal _ => some signal
  | _ => none

namespace Machine

variable {m r : Machine} {before raised since : List Signal}

theorem Next.installed (h : Next m r) : Hub.Installed m.hub r.hub := by
  cases h with
  | work =>
    obtain ⟨q, ids, stride, hstep⟩ := exists_stride m
    rw [hstep]
    exact (Hub.Installed.stride stride).foldl_free ids
  | arrive signal => exact .inl (Hub.wiring_deliver m.hub signal).1
  | _ => exact .inl rfl

/-! ## Where signals come from -/

/-- The signals that are being dispatched. -/
def underway (m : Machine) : List Signal := m.frames.filterMap Frame.signal?

/-- The signals whose dispatch has found that nobody owns the handlers, and is to raise them
    again. -/
def raising (m : Machine) : List Signal := m.frames.filterMap Frame.raises?

theorem raising_subset (m : Machine) : m.raising ⊆ m.underway := by
  intro s hs
  obtain ⟨f, hf, hfs⟩ := List.mem_filterMap.1 hs
  refine List.mem_filterMap.2 ⟨f, hf, ?_⟩
  cases f with
  | concluding next signal received =>
    cases next with
    | raise => exact hfs
    | check | record => exact absurd hfs (by simp [Frame.raises?])
  | _ => exact absurd hfs (by simp [Frame.raises?])

/-- The signal that an operation raises and the library catches. -/
def catches? (m : Machine) : Op → Option Signal
  | .raise signal =>
    if m.inCallback = false ∧ m.hub.dispositions.get signal = .library ∧ m.hub.delivered = none then
      some signal
    else none
  | _ => none

/-- The signal that the library catches for the first time as something happens; one that is raised
    again by its dispatch was caught before. -/
def caught (m : Machine) : Happening → List Signal
  | .arrive signal => if m.hub.dispositions.get signal = .library then [signal] else []
  | .work =>
    match m.frames with
    | .script _ (op :: _) _ :: _ => (m.caller.catches? op).toList
    | _ => []
  | _ => []

/-- Where signals come from that were not caught since some moment: one that is being dispatched or
    was dealt with is one of `before`, and one that waits or is to be raised again is one of
    `raised`. -/
structure Traced (before raised since : List Signal) (m : Machine) : Prop where
  subset : raised ⊆ before
  pending : ∀ s, m.hub.pending = some s → s ∈ since ∨ s ∈ raised
  raising : ∀ s ∈ m.raising, s ∈ since ∨ s ∈ raised
  underway : ∀ s ∈ m.underway, s ∈ since ∨ s ∈ before
  delivered : ∀ s, m.hub.delivered = some s → s ∈ since ∨ s ∈ before

theorem Traced.more {new : List Signal} (h : Traced before raised since m) :
    Traced before raised (since ++ new) m where
  subset := h.subset
  pending s hs := (h.pending s hs).imp_left (List.mem_append_left _)
  raising s hs := (h.raising s hs).imp_left (List.mem_append_left _)
  underway s hs := (h.underway s hs).imp_left (List.mem_append_left _)
  delivered s hs := (h.delivered s hs).imp_left (List.mem_append_left _)

/-- An answer changes no frame of a dispatch. -/
theorem filterMap_answered {read : Frame → Option Signal}
    (hscript : ∀ label rest replies, read (.script label rest replies) = none)
    (hracing : ∀ target call rest replies, read (.racing target call rest replies) = none)
    (reply : Reply) (frames : List Frame) :
    (answered reply frames).filterMap read = frames.filterMap read := by
  cases frames with
  | nil => rfl
  | cons f below =>
    cases f with
    | script label rest replies =>
      rw [answered, List.filterMap_cons_none (hscript ..), List.filterMap_cons_none (hscript ..)]
    | racing target call rest replies =>
      rw [answered, List.filterMap_cons_none (hracing ..), List.filterMap_cons_none (hracing ..)]
    | _ => rfl

/-- A change that puts no signal on record, with frames that dispatch nothing new. -/
theorem Traced.quiet (h : Traced before raised since m) (quiet : Hub.Quiet m.hub r.hub)
    (hunder : r.underway = m.underway) (hraising : r.raising = m.raising) :
    Traced before raised since r where
  subset := h.subset
  pending s hs := h.pending s (quiet.pending s hs)
  raising s hs := h.raising s (hraising ▸ hs)
  underway s hs := h.underway s (hunder ▸ hs)
  delivered s hs := h.delivered s (quiet.delivered s hs)

theorem Traced.answer (h : Traced before raised since m) (reply : Reply) :
    Traced before raised since (m.answer reply) := by
  rw [answer_eq]
  refine h.quiet (.refl m.hub) ?_ ?_
  · exact filterMap_answered (fun _ _ _ => rfl) (fun _ _ _ _ => rfl) reply m.frames
  · exact filterMap_answered (fun _ _ _ => rfl) (fun _ _ _ _ => rfl) reply m.frames

/-- A frame on top whose signal comes from where it should. -/
theorem Traced.onto (h : Traced before raised since m) (f : Frame)
    (hsignal : ∀ s, f.signal? = some s → s ∈ since ∨ s ∈ before)
    (hraises : ∀ s, f.raises? = some s → s ∈ since ∨ s ∈ raised) :
    Traced before raised since { m with frames := f :: m.frames } where
  subset := h.subset
  pending := h.pending
  raising s hs := by
    obtain ⟨g, hg, hgs⟩ := List.mem_filterMap.1 hs
    rcases List.mem_cons.1 hg with rfl | hg
    · exact hraises s hgs
    · exact h.raising s (List.mem_filterMap.2 ⟨g, hg, hgs⟩)
  underway s hs := by
    obtain ⟨g, hg, hgs⟩ := List.mem_filterMap.1 hs
    rcases List.mem_cons.1 hg with rfl | hg
    · exact hsignal s hgs
    · exact h.underway s (List.mem_filterMap.2 ⟨g, hg, hgs⟩)
  delivered := h.delivered

/-- A signal that is handed to the process, if it comes from where one that waits should. -/
theorem Traced.deliver (h : Traced before raised since m) {signal : Signal}
    (hsignal : signal ∈ since ∨ signal ∈ raised) :
    Traced before raised since { m with hub := m.hub.deliver signal } := by
  rcases Hub.deliver_cases m.hub signal with ⟨-, heq⟩ | ⟨label, -, heq⟩ <;> rw [heq]
  · refine ⟨h.subset, fun s hs => ?_, h.raising, h.underway, h.delivered⟩
    obtain rfl : signal = s := Option.some.inj hs
    exact hsignal
  · exact h.quiet ⟨fun _ hs => hs, fun _ hs => hs⟩ rfl rfl

theorem Called.traced (hcalled : Called m r) (h : Traced before raised since m) :
    Traced before raised since r := by
  cases hcalled with
  | @answer hub handles nodes reply acts known =>
    have traced : Traced before raised since { m with hub, handles, nodes } :=
      h.quiet (.acts acts) rfl rfl
    exact traced.answer reply
  | @shut id callbacks hub releasing reply hb hr =>
    have same : ∀ read : Frame → Option Signal, read (.shutting id callbacks) = none →
        read (.releasing id) = none → read (.returning reply) = none →
        (Frame.shutting id callbacks :: (releasing ++ .returning reply :: m.frames)).filterMap read
          = m.frames.filterMap read := by
      intro read hshutting hreleasing hreturning
      have hnone : releasing.filterMap read = [] :=
        List.filterMap_eq_nil_iff.2 fun f hf => by rw [hr f hf, hreleasing]
      rw [List.filterMap_cons_none hshutting, List.filterMap_append, hnone, List.nil_append,
        List.filterMap_cons_none hreturning]
    exact h.quiet (.beginShutdown hb) (same _ rfl rfl rfl) (same _ rfl rfl rfl)

/-- A dispatch that starts with a signal that comes from where it should. -/
theorem Traced.dispatch (h : Traced before raised since m) {signal : Signal}
    (hsignal : signal ∈ since ∨ signal ∈ before) (line : List Nat) (received : Option Nat) :
    Traced before raised since { m with
      hub := { m.hub with pending := none }
      frames := .dispatching signal line 0 received :: m.frames } := by
  have taken : Traced before raised since { m with hub := { m.hub with pending := none } } :=
    h.quiet (.of_none rfl rfl) rfl rfl
  refine taken.onto _ (fun s hs => ?_) fun s hs => absurd hs (by simp [Frame.raises?])
  obtain rfl : signal = s := Option.some.inj hs
  exact hsignal

theorem Outcome.traced {op : Op} (houtcome : Outcome m op r)
    (h : Traced before raised since m) :
    Traced before raised (since ++ (m.catches? op).toList) r := by
  cases houtcome with
  | called hcalled => exact .more (hcalled.traced h)
  | call callback => exact .more (h.quiet (.refl _) rfl rfl)
  | race target call count known => exact .more (h.quiet (.refl _) rfl rfl)
  | takePending reply =>
    have taken : Traced before raised since { m with hub := { m.hub with pending := none } } :=
      h.quiet (.of_none rfl rfl) rfl rfl
    exact .more (taken.answer reply)
  | dispatch hp => exact .more (h.dispatch ((h.pending _ hp).imp_right (h.subset ·)) _ none)
  | host signal reply hc hd =>
    refine .more (Traced.answer ?_ reply)
    rcases Hub.deliver_cases m.hub signal with ⟨hlibrary, -⟩ | ⟨label, -, heq⟩
    · exact absurd hlibrary hd
    · rw [heq]
      exact h.quiet ⟨fun _ hs => hs, fun _ hs => hs⟩ rfl rfl
  | @caught signal hlibrary hc hop hd =>
    subst hop
    have hcaught : m.catches? (.raise signal) = some signal := if_pos ⟨hc, hlibrary, hd⟩
    rw [hcaught]
    exact h.more.dispatch (.inl (by simp)) _ _

/-- The end of a dispatch. If it looks for an owner and finds none, it will raise its signal. -/
theorem Traced.conclude (h : Traced before raised since m) {signal : Signal}
    (received : Option Nat) {next : Conclusion}
    (hsignal : signal ∈ since ∨ signal ∈ before)
    (hraises : next = .raise → signal ∈ since ∨ signal ∈ raised)
    (hcheck : m.hub.table = none → before ⊆ raised) :
    Traced before raised since (m.conclude signal received next) := by
  have hsame : ∀ s, some signal = some s → s ∈ since ∨ s ∈ before := by
    rintro s ⟨⟩
    exact hsignal
  cases next with
  | check =>
    cases htable : m.hub.table with
    | none =>
      simp only [Machine.conclude, htable]
      have reported : Traced before raised since
          { m with hub := m.hub.emit (.signalForwarded signal) } :=
        h.quiet ⟨fun _ hs => hs, fun _ hs => hs⟩ rfl rfl
      refine reported.onto _ hsame ?_
      rintro s ⟨⟩
      exact hsignal.imp_right (hcheck htable ·)
    | some t =>
      simp only [Machine.conclude, htable]
      have reported : Traced before raised since
          { m with hub := m.hub.emit (.signalKept signal) } :=
        h.quiet ⟨fun _ hs => hs, fun _ hs => hs⟩ rfl rfl
      exact reported.onto _ hsame fun s hs => absurd hs (by simp [Frame.raises?])
  | raise =>
    exact (h.deliver (hraises rfl)).onto _ hsame fun s hs => absurd hs (by simp [Frame.raises?])
  | record =>
    have noted : Traced before raised since { m with hub := m.hub.noteDelivered signal } :=
      ⟨h.subset, h.pending, h.raising, h.underway, hsame⟩
    exact noted.answer _

/-- What a frame does to the signals on record; the signal that it dispatches comes from where it
    should. -/
theorem Traced.advance (h : Traced before raised since m) {f : Frame}
    (hsignal : ∀ s, f.signal? = some s → s ∈ since ∨ s ∈ before)
    (hraises : ∀ s, f.raises? = some s → s ∈ since ∨ s ∈ raised)
    (hcheck : m.hub.table = none → before ⊆ raised) :
    Traced before raised (since ++ caught { m with frames := f :: m.frames } .work)
      (m.advance f) := by
  fun_cases Machine.advance m f with
  | case1 label op rest replies =>
    exact (outcome_execute { m with frames := .script label rest replies :: m.frames } op).traced
      (h.quiet (.refl _) rfl rfl)
  | case2 label replies => exact .more (h.quiet (.refl _) rfl rfl)
  | case3 replies => exact .more (h.quiet (.refl _) rfl rfl)
  | case4 id callback rest => exact .more (h.quiet (.refl _) rfl rfl)
  | case5 id => exact .more (h.quiet ⟨fun _ hs => hs, fun _ hs => hs⟩ rfl rfl)
  | case6 id => exact .more (h.quiet (.act (.releaseDefault id)) rfl rfl)
  | case7 reply => exact .more (h.answer reply)
  | case8 signal id rest count received e he =>
    exact .more (h.onto (.dispatching signal rest count received) hsignal hraises)
  | case9 signal id rest count received callbacks hub hb =>
    have closed : Traced before raised since { m with hub } := h.quiet (.beginShutdown hb) rfl rfl
    have going := closed.onto (.dispatching signal rest (count + 1) received) hsignal hraises
    exact .more (going.quiet (.refl hub) rfl rfl)
  | case10 signal count received =>
    have reported : Traced before raised since
        { m with hub := m.hub.emit (.signalReceived signal count) } :=
      h.quiet ⟨fun _ hs => hs, fun _ hs => hs⟩ rfl rfl
    exact .more (reported.onto (.concluding .check signal received) hsignal hraises)
  | case11 next signal received =>
    exact .more (h.conclude received (hsignal signal rfl)
      (fun hnext => hraises signal (by rw [hnext]; rfl)) hcheck)
  | case12 target call rest replies =>
    exact ((called_makeCall { m with frames := .racing target call rest replies :: m.frames } target
      call).traced (h.quiet (.refl _) rfl rfl)).more
  | case13 target call replies => exact .more (h.answer _)

theorem Traced.step (h : Traced before raised since m)
    (hcheck : m.hub.table = none → before ⊆ raised) :
    Traced before raised (since ++ caught m .work) m.step := by
  cases hframes : m.frames with
  | nil =>
    have hstep : m.step = m := by rw [Machine.step, hframes]
    rw [hstep]
    exact h.more
  | cons f below =>
    have among : ∀ (read : Frame → Option Signal) (s : Signal),
        (∃ g ∈ f :: below, read g = some s) → s ∈ m.frames.filterMap read := by
      rintro read s ⟨g, hg, hgs⟩
      exact List.mem_filterMap.2 ⟨g, hframes ▸ hg, hgs⟩
    have rest : Traced before raised since { m with frames := below } := by
      refine ⟨h.subset, h.pending, fun s hs => h.raising s ?_, fun s hs => h.underway s ?_,
        h.delivered⟩
      · obtain ⟨g, hg, hgs⟩ := List.mem_filterMap.1 hs
        exact among _ s ⟨g, List.mem_cons_of_mem _ hg, hgs⟩
      · obtain ⟨g, hg, hgs⟩ := List.mem_filterMap.1 hs
        exact among _ s ⟨g, List.mem_cons_of_mem _ hg, hgs⟩
    have advanced := rest.advance (f := f)
      (fun s hs => h.underway s (among _ s ⟨f, List.mem_cons_self, hs⟩))
      (fun s hs => h.raising s (among _ s ⟨f, List.mem_cons_self, hs⟩)) hcheck
    have hm : { m with frames := f :: below } = m := by rw [← hframes]
    rw [hm] at advanced
    rw [step_of_advance hframes rfl]
    exact advanced.quiet (.foldl_free _ _) rfl rfl

theorem Traced.happen (h : Traced before raised since m)
    (hcheck : m.hub.table = none → before ⊆ raised) (happening : Happening) :
    Traced before raised (since ++ caught m happening) (m.happen happening) := by
  cases happening with
  | work => exact h.step hcheck
  | call program => exact .more (h.quiet (.refl _) rfl rfl)
  | arrive signal =>
    simp only [Machine.happen, caught]
    by_cases hlibrary : m.hub.dispositions.get signal = .library
    · rw [if_pos hlibrary]
      exact h.more.deliver (.inl (by simp))
    · rcases Hub.deliver_cases m.hub signal with ⟨hd, -⟩ | ⟨label, -, heq⟩
      · exact absurd hd hlibrary
      · rw [heq]
        exact .more (h.quiet ⟨fun _ hs => hs, fun _ hs => hs⟩ rfl rfl)
  | tick clock => exact .more (h.quiet ⟨fun _ hs => hs, fun _ hs => hs⟩ rfl rfl)
  | handle signal label =>
    simp only [Machine.happen]
    split
    · exact .more (h.quiet ⟨fun _ hs => hs, fun _ hs => hs⟩ rfl rfl)
    · exact h.more

/-- **Where signals come from**, over a run. A dispatch that finds nobody to own the handlers on the
    way raises its signal again, so its signal has to be one of `raised`. -/
theorem Traced.run (h : Traced before raised since m) (happenings : List Happening)
    (hcheck : ∀ front, front <+: happenings → (m.run front).hub.table = none →
      before ⊆ raised) :
    Traced before raised (since ++ along caught m happenings) (m.run happenings) := by
  induction happenings generalizing m since with
  | nil =>
    rw [along, List.append_nil]
    exact h
  | cons happening rest ih =>
    rw [along, ← List.append_assoc]
    refine ih (h.happen (hcheck [] List.nil_prefix) happening) fun front hfront => ?_
    exact hcheck (happening :: front) (List.cons_prefix_cons.2 ⟨rfl, hfront⟩)

/-! ## What an owner hears of -/

/-- **What an owner hears of.** A signal waits only while somebody owns the handlers, and it is one
that the owner asked for. Programs that ask for the signal that waits, or for the one that was dealt
with last, get the ones on record. From the moment at which a context comes to own the handlers, a
signal on record is one that was caught since, unless it was being dispatched at that moment; and as
long as the context owns the handlers, a signal that waits is one that was caught since, unless its
dispatch had found nobody to own the handlers by that moment and was only to raise it again. -/
theorem Reachable.caught_since_install (h : m.Reachable) :
    (∀ s, m.hub.pending = some s →
      (∃ id, m.hub.owner? = some id) ∧ s ∈ m.hub.handlers.signals) ∧
    (∀ label op rest replies below, m.frames = .script label (op :: rest) replies :: below →
      (op = .pending ∨ op = .takePending → m.step.frames
        = .script label rest (replies ++ [.ok (.signal m.hub.pending)]) :: below) ∧
      (op = .waitSignal → m.step.frames
        = .script label rest (replies ++ [.ok (.signal m.hub.delivered)]) :: below)) ∧
    (∀ m' id, Next m m' → m.hub.owner? ≠ some id → m'.hub.owner? = some id → ∀ happenings s,
      ((m'.run happenings).hub.delivered = some s ∨ (m'.run happenings).hub.pending = some s →
        s ∈ along caught m' happenings ∨ s ∈ m'.underway) ∧
      ((∀ front, front <+: happenings → (m'.run front).hub.owner? = some id) →
        (m'.run happenings).hub.pending = some s →
        s ∈ along caught m' happenings ∨ s ∈ m'.raising)) := by
  refine ⟨fun s hs => ?_, ?_, ?_⟩
  · obtain ⟨t, htable, hmem⟩ := h.wired.pending s hs
    exact ⟨⟨t.owner, by simp [Hub.owner?, htable]⟩, by simpa [Hub.handlers, htable] using hmem⟩
  · intro label op rest replies below hframes
    constructor
    · rintro (rfl | rfl) <;> rw [step_of_advance hframes rfl] <;> rfl
    · rintro rfl
      rw [step_of_advance hframes rfl]
      rfl
  · intro m' id hnext hbefore hnow happenings s
    -- a new owner starts with a clean record, so only what is being dispatched is older
    obtain ⟨hpending, hdelivered⟩ := hnext.installed.cleared hbefore hnow
    have start : ∀ raised, raised ⊆ m'.underway → m'.raising ⊆ raised →
        Traced m'.underway raised [] m' := by
      intro raised hunder hraising
      exact ⟨hunder, fun s hs => by simp [hpending] at hs, fun s hs => .inr (hraising hs),
        fun s hs => .inr hs, fun s hs => by simp [hdelivered] at hs⟩
    refine ⟨?_, fun howner hs => ?_⟩
    · have traced := (start m'.underway (List.Subset.refl _) (raising_subset m')).run happenings
        fun _ _ _ => List.Subset.refl _
      rintro (hs | hs)
      · exact traced.delivered s hs
      · exact traced.pending s hs
    · -- while the table has an owner, no dispatch finds it empty
      have traced := (start m'.raising (raising_subset m') (List.Subset.refl _)).run happenings
        fun front hfront hnone => by
          have hfound := howner front hfront
          rw [Hub.owner?, hnone] at hfound
          exact absurd hfound (by simp)
      exact traced.pending s hs

/-- A context that owns all handlers is shut down by a signal, and its callback makes another
    context the next owner. -/
def installOnShutdown : List Op :=
  [.create "a", .create "b", .init (some "a") none { handlers := some .all },
    .onShutdown "a" "again" [.init (some "b") none { handlers := some .all }], .raise .interrupt]

/-- The moment of `installOnShutdown` at which the second context is to be initialized. -/
def beforeSecondInstall : Machine :=
  ({ fresh "" 1 false 0 0 with frames := [.script none installOnShutdown []] } : Machine).after 7

theorem reachable_beforeSecondInstall : beforeSecondInstall.Reachable := by
  have called := (Reachable.start "" 1 false 0 0).next (.call installOnShutdown)
  exact called.after 7

theorem caught_since_install_beforeSecondInstall :
    beforeSecondInstall.Reachable ∧ beforeSecondInstall.hub.owner? ≠ some 2 ∧
      beforeSecondInstall.step.hub.owner? = some 2 ∧
      (beforeSecondInstall.step.after 5).hub.delivered = some .interrupt ∧
      .interrupt ∈ beforeSecondInstall.step.underway := by
  obtain ⟨-, -, since⟩ := reachable_beforeSecondInstall.caught_since_install
  have heard := since _ 2 .work (by decide) rfl [.work, .work, .work, .work, .work] .interrupt
  refine ⟨reachable_beforeSecondInstall, by decide, rfl, rfl, ?_⟩
  exact (heard.1 (.inl rfl)).resolve_left (by decide)

/-- A context that owns all handlers is shut down by a signal. -/
def signalOwner : List Op :=
  [.create "a", .create "b", .init (some "a") none { handlers := some .all }, .raise .interrupt]

/-- The moment of `signalOwner` at which the signal is to be raised again, since nobody owns the
    handlers; but another thread is about to make the second context their owner. -/
def beforeRaise : Machine :=
  let called : Machine := { fresh "" 1 false 0 0 with frames := [.script none signalOwner []] }
  let m := called.after 8
  { m with
    frames := .script none [.init (some "b") none { handlers := some .all }] [] :: m.frames
    finished := []
    replies := [] }

theorem reachable_beforeRaise : beforeRaise.Reachable := by
  have called := (Reachable.start "" 1 false 0 0).next (.call signalOwner)
  exact (called.after 8).next (.call [.init (some "b") none { handlers := some .all }])

/-- **An inherited signal.** There is a run in which a context comes to own the handlers and, while
it still does, the library reports a signal that it did not catch since, as dealt with. There is one
in which that is the signal that waits. -/
theorem exists_inherited_signal :
    (∃ m m' id happenings s, Reachable m ∧ Next m m' ∧ m.hub.owner? ≠ some id ∧
      m'.hub.owner? = some id ∧ (m'.run happenings).hub.owner? = some id ∧
      (m'.run happenings).hub.delivered = some s ∧ s ∉ along caught m' happenings) ∧
    ∃ m m' id happenings s, Reachable m ∧ Next m m' ∧ m.hub.owner? ≠ some id ∧
      m'.hub.owner? = some id ∧ (m'.run happenings).hub.owner? = some id ∧
      (m'.run happenings).hub.pending = some s ∧ s ∉ along caught m' happenings :=
  ⟨⟨beforeSecondInstall, beforeSecondInstall.step, 2, [.work, .work, .work, .work, .work],
      .interrupt, reachable_beforeSecondInstall, .work, by decide, rfl, rfl, rfl, by decide⟩,
    beforeRaise, beforeRaise.step, 2, [.work, .work], .interrupt, reachable_beforeRaise, .work,
    by decide, rfl, rfl, rfl, by decide⟩

end Machine
end RobotClient
