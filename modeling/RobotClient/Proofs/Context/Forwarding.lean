import RobotClient.Proofs.Context.Lifetime

set_option autoImplicit false

/-! # Where signals go

While somebody owns the handlers, the table keeps what was there before, and `Hub.underlying` reads
it back. Only the host changes that, by putting in a handler of its own; whatever the library does to
its handlers (`Rewired`), this stays (`underlying_move`). So a signal that is caught was on its way
to the host (`Wired`), and once the handlers are out again it gets there. -/

namespace RobotClient

namespace Dispositions

@[ext] theorem ext_get {d d' : Dispositions} (h : ∀ s, d.get s = d'.get s) : d = d' := by
  obtain ⟨interrupt, terminate⟩ := d
  obtain ⟨interrupt', terminate'⟩ := d'
  have hi : interrupt = interrupt' := h .interrupt
  have ht : terminate = terminate' := h .terminate
  rw [hi, ht]

theorem get_set (d : Dispositions) (s t : Signal) (x : Disposition) :
    (d.set s x).get t = if t = s then x else d.get t := by
  by_cases h : t = s
  · rw [if_pos h, h, get_set_self]
  · rw [if_neg h, get_set_of_ne d x h]

end Dispositions

namespace Hub

variable {κ : Type} {p q : Hub κ} {id : Nat}

/-! ## Catching and restoring -/

theorem get_catchSignals (d : Dispositions) (signals : List Signal) (s : Signal) :
    (catchSignals d signals).get s = if s ∈ signals then .library else d.get s := by
  induction signals generalizing d with
  | nil => rfl
  | cons x rest ih =>
    have hcons : catchSignals d (x :: rest) = catchSignals (d.set x .library) rest := rfl
    rw [hcons, ih, Dispositions.get_set]
    by_cases hx : s = x
    · simp [hx]
    · simp [hx]

/-- The first entry of a signal counts, since it is put back last. -/
theorem get_restoreSignals (d : Dispositions) (previous : List (Signal × Disposition))
    (s : Signal) : (restoreSignals d previous).get s = (previous.lookup s).getD (d.get s) := by
  induction previous with
  | nil => rfl
  | cons entry rest ih =>
    obtain ⟨x, before⟩ := entry
    have hcons : restoreSignals d ((x, before) :: rest) = (restoreSignals d rest).set x before := by
      simp only [restoreSignals, List.reverse_cons, List.foldl_append, List.foldl_cons,
        List.foldl_nil]
    rw [hcons, Dispositions.get_set]
    by_cases hx : s = x
    · simp [hx]
    · have hbeq : (s == x) = false := by simpa using hx
      rw [if_neg hx, ih, List.lookup_cons, hbeq]

theorem lookup_saved (d : Dispositions) (signals : List Signal) (s : Signal) :
    (signals.map fun x => (x, d.get x)).lookup s = if s ∈ signals then some (d.get s) else none := by
  induction signals with
  | nil => rfl
  | cons x rest ih =>
    by_cases hx : s = x
    · simp [hx]
    · have hbeq : (s == x) = false := by simpa using hx
      rw [List.map_cons, List.lookup_cons, hbeq, ih]
      simp [hx]

/-- Restoring gives back what was there before the signals were caught. -/
theorem restoreSignals_catchSignals (d : Dispositions) (signals : List Signal) :
    restoreSignals (catchSignals d signals) (signals.map fun x => (x, d.get x)) = d := by
  ext s
  rw [get_restoreSignals, lookup_saved, get_catchSignals]
  by_cases hs : s ∈ signals <;> simp [hs]

/-! ## What is underneath -/

/-- What the system does with signals apart from the library: what it did before the owner of the
    handlers installed them, or does now if there is no owner. -/
def underlying (p : Hub κ) : Dispositions :=
  match p.table with
  | none => p.dispositions
  | some t => restoreSignals p.dispositions t.previous

theorem underlying_of_none (h : p.table = none) : p.underlying = p.dispositions := by
  simp [underlying, h]

theorem underlying_congr (ht : q.table = p.table) (hd : q.dispositions = p.dispositions) :
    q.underlying = p.underlying := by
  rw [underlying, underlying, ht, hd]

theorem underlying_installed {options : HandlerOptions} (hfree : p.table = none)
    (ht : q.table
      = some ⟨id, options, options.signals.map fun x => (x, p.dispositions.get x)⟩)
    (hd : q.dispositions = catchSignals p.dispositions options.signals) :
    q.underlying = p.underlying := by
  simp only [underlying, ht, hd, hfree, restoreSignals_catchSignals]

theorem underlying_restored {t : HandlerTable} (htable : p.table = some t) (ht : q.table = none)
    (hd : q.dispositions = restoreSignals p.dispositions t.previous) :
    q.underlying = p.underlying := by
  simp only [underlying, ht, hd, htable]

/-! ## Changes of the handlers -/

/-- What becomes of the handlers and the signals on record: they stay, or handlers are put in or
    taken out. -/
inductive Rewired (p q : Hub κ) : Prop where
  | same (ht : q.table = p.table) (hd : q.dispositions = p.dispositions)
      (hp : q.pending = p.pending) (hl : q.delivered = p.delivered)
  | installed (id : Nat) (options : HandlerOptions) (hfree : p.table = none)
      (ht : q.table = some ⟨id, options, options.signals.map fun x => (x, p.dispositions.get x)⟩)
      (hd : q.dispositions = catchSignals p.dispositions options.signals)
      (hp : q.pending = none) (hl : q.delivered = none)
  | restored (t : HandlerTable) (htable : p.table = some t) (ht : q.table = none)
      (hd : q.dispositions = restoreSignals p.dispositions t.previous)
      (hp : q.pending = none) (hl : q.delivered = p.delivered)

/-- What programs, shutdowns and frees do: they rewire the handlers at most, no signal reaches the
    host, and the log only grows. -/
structure Orderly (p q : Hub κ) : Prop where
  rewired : Rewired p q
  received : q.received = p.received
  log : p.log <+: q.log

/-- Programs put handlers in, but take none out. -/
theorem Act.orderly (h : Act p q) : Orderly p q ∧ ∀ t, p.table = some t → q.table = some t := by
  cases h with
  | create => exact ⟨⟨.same rfl rfl rfl rfl, rfl, List.prefix_rfl⟩, fun _ ht => ht⟩
  | useDefault =>
    rcases defaultContext_cases p with ⟨id, -, -, heq⟩ | ⟨-, heq⟩ <;> rw [heq]
    · exact ⟨⟨.same rfl rfl rfl rfl, rfl, List.prefix_rfl⟩, fun _ ht => ht⟩
    · exact ⟨⟨.same rfl rfl rfl rfl, rfl, List.prefix_append ..⟩, fun _ ht => ht⟩
  | init hi =>
    obtain ⟨c, s, watching, events, -, -, -, ⟨-, -, rfl⟩ | ⟨-, -, hfree, rfl⟩⟩ := init_cases hi
    · exact ⟨⟨.same rfl rfl rfl rfl, rfl, List.prefix_append ..⟩, fun _ ht => ht⟩
    · refine ⟨⟨.installed _ _ hfree rfl rfl rfl rfl, rfl, List.prefix_append ..⟩, ?_⟩
      intro t htable
      rw [hfree] at htable
      exact absurd htable (by simp)
  | releaseDefault id =>
    unfold Hub.releaseDefault
    split <;> exact ⟨⟨.same rfl rfl rfl rfl, rfl, List.prefix_rfl⟩, fun _ ht => ht⟩
  | onShutdown id callback =>
    rcases onShutdown_cases p id callback with ⟨-, heq⟩ | ⟨-, heq⟩ <;> rw [heq] <;>
      exact ⟨⟨.same rfl rfl rfl rfl, rfl, List.prefix_rfl⟩, fun _ ht => ht⟩
  | createNode hc =>
    obtain ⟨arguments, -, -, rfl⟩ := createNode_eq_ok hc
    exact ⟨⟨.same rfl rfl rfl rfl, rfl, List.prefix_append ..⟩, fun _ ht => ht⟩

theorem Orderly.beginShutdown {callbacks : List κ} (h : p.beginShutdown id = .ok (callbacks, q)) :
    Orderly p q := by
  obtain ⟨c, s, -, -, -, ⟨-, rfl⟩ | ⟨t, -, htable, -, rfl⟩⟩ := beginShutdown_cases h
  · exact ⟨.same rfl rfl rfl rfl, rfl, List.prefix_append ..⟩
  · exact ⟨.restored t htable rfl rfl rfl rfl, rfl, List.prefix_append ..⟩

theorem Orderly.free (p : Hub κ) (id : Nat) : Orderly p (p.free id) := by
  rcases free_cases p id with ⟨-, heq⟩ | ⟨s, -, -, heq⟩ | ⟨s, t, -, -, htable, -, heq⟩ <;> rw [heq]
  · exact ⟨.same rfl rfl rfl rfl, rfl, List.prefix_rfl⟩
  · exact ⟨.same rfl rfl rfl rfl, rfl, List.prefix_append ..⟩
  · exact ⟨.restored t htable rfl rfl rfl rfl, rfl, List.prefix_append ..⟩

theorem Rewired.underlying (h : Rewired p q) : q.underlying = p.underlying := by
  cases h with
  | same ht hd => exact underlying_congr ht hd
  | installed id options hfree ht hd => exact underlying_installed hfree ht hd
  | restored t htable ht hd => exact underlying_restored htable ht hd

/-! ## Calm changes -/

/-- What all changes have in common that come from programs and callbacks: no signal is caught, none
    reaches the host, and the log only grows. -/
structure Calm (p q : Hub κ) : Prop where
  pending : p.pending = none → q.pending = none
  received : q.received = p.received
  underlying : q.underlying = p.underlying
  log : p.log <+: q.log

theorem Calm.refl (p : Hub κ) : Calm p p := ⟨fun h => h, rfl, rfl, List.prefix_rfl⟩

theorem Calm.trans {r : Hub κ} (h : Calm p q) (h' : Calm q r) : Calm p r :=
  ⟨fun hp => h'.pending (h.pending hp), h'.received.trans h.received,
    h'.underlying.trans h.underlying, h.log.trans h'.log⟩

theorem Calm.of_orderly (h : Orderly p q) : Calm p q := by
  refine ⟨fun hnone => ?_, h.received, h.rewired.underlying, h.log⟩
  cases h.rewired with
  | same _ _ hp => exact hp.trans hnone
  | installed _ _ _ _ _ hp => exact hp
  | restored _ _ _ _ hp => exact hp

theorem Calm.act (h : Act p q) : Calm p q := .of_orderly h.orderly.1

theorem Calm.beginShutdown {callbacks : List κ} (h : p.beginShutdown id = .ok (callbacks, q)) :
    Calm p q :=
  .of_orderly (.beginShutdown h)

theorem Calm.finishShutdown (p : Hub κ) (id : Nat) : Calm p (p.finishShutdown id) :=
  ⟨fun h => h, rfl, rfl, List.prefix_append ..⟩

theorem Calm.free (p : Hub κ) (id : Nat) : Calm p (p.free id) := .of_orderly (.free p id)

theorem Calm.foldl_free (ids : List Nat) (p : Hub κ) : Calm p (ids.foldl Hub.free p) := by
  induction ids generalizing p with
  | nil => exact .refl p
  | cons id rest ih => exact (Calm.free p id).trans (ih _)

theorem Calm.takePending (p : Hub κ) : Calm p { p with pending := none } :=
  ⟨fun _ => rfl, rfl, rfl, List.prefix_rfl⟩

theorem log_deliver (p : Hub κ) (signal : Signal) : (p.deliver signal).log = p.log := by
  rcases deliver_cases p signal with ⟨-, heq⟩ | ⟨label, -, heq⟩ <;> rw [heq]

/-- A signal that arrives leaves the handlers alone. -/
theorem wiring_deliver (p : Hub κ) (signal : Signal) :
    (p.deliver signal).table = p.table ∧ (p.deliver signal).dispositions = p.dispositions := by
  rcases deliver_cases p signal with ⟨-, heq⟩ | ⟨label, -, heq⟩ <;> rw [heq] <;> exact ⟨rfl, rfl⟩

/-- Nothing is ever taken out of the log. -/
theorem Move.log_prefix (h : Move p q) : p.log <+: q.log := by
  cases h with
  | act h => exact (Calm.act h).log
  | beginShutdown h => exact (Calm.beginShutdown h).log
  | finishShutdown id => exact List.prefix_append ..
  | free id => exact (Calm.free p id).log
  | takePending => exact List.prefix_rfl
  | deliver signal => exact ⟨[], by rw [List.append_nil, log_deliver]⟩
  | report _ => exact List.prefix_append ..
  | noteDelivered signal => exact List.prefix_rfl
  | tick clock => exact List.prefix_rfl
  | handle signal label h => exact List.prefix_rfl

/-- Whatever happens to a hub, what is underneath stays, unless the host puts in a handler of its
    own. -/
theorem underlying_move (h : Move p q) :
    q.underlying = p.underlying ∨
      ∃ signal label, q.underlying = p.underlying.set signal (.host label) := by
  cases h with
  | act h => exact .inl (Calm.act h).underlying
  | beginShutdown h => exact .inl (Calm.beginShutdown h).underlying
  | finishShutdown id => exact .inl rfl
  | free id => exact .inl (Calm.free p id).underlying
  | takePending => exact .inl rfl
  | deliver signal =>
    obtain ⟨ht, hd⟩ := wiring_deliver p signal
    exact .inl (underlying_congr ht hd)
  | report _ => exact .inl rfl
  | noteDelivered signal => exact .inl rfl
  | tick clock => exact .inl rfl
  | handle signal label h =>
    refine .inr ⟨signal, label, ?_⟩
    rw [underlying_of_none h]
    exact underlying_of_none h

/-! ## Caught signals -/

/-- The library catches the signals of the table and no others, what is underneath is the host's,
    and a signal that waits is one that the owner asked for. -/
structure Wired (p : Hub κ) : Prop where
  previous : ∀ t, p.table = some t → t.previous.map Prod.fst = t.options.signals
  library : ∀ s, p.dispositions.get s = .library → ∃ t, p.table = some t ∧ s ∈ t.options.signals
  host : ∀ s, ∃ label, p.underlying.get s = .host label
  pending : ∀ s, p.pending = some s → ∃ t, p.table = some t ∧ s ∈ t.options.signals

theorem Wired.congr (h : p.Wired) (ht : q.table = p.table)
    (hd : q.dispositions = p.dispositions) (hp : ∀ s, q.pending = some s → p.pending = some s) :
    q.Wired where
  previous := ht ▸ h.previous
  library := by rw [ht, hd]; exact h.library
  host := by rw [underlying_congr ht hd]; exact h.host
  pending s hs := ht ▸ h.pending s (hp s hs)

theorem Wired.get_of_none (h : p.Wired) (htable : p.table = none) (s : Signal) :
    ∃ label, p.dispositions.get s = .host label :=
  underlying_of_none htable ▸ h.host s

theorem Wired.installed (h : p.Wired) {options : HandlerOptions} (hfree : p.table = none)
    (ht : q.table = some ⟨id, options, options.signals.map fun x => (x, p.dispositions.get x)⟩)
    (hd : q.dispositions = catchSignals p.dispositions options.signals)
    (hp : q.pending = none) : q.Wired := by
  refine ⟨fun t htable => ?_, fun s hs => ?_, ?_, fun s hs => by simp [hp] at hs⟩
  · rw [ht] at htable
    obtain rfl := Option.some.inj htable
    rw [List.map_map]
    exact List.map_id _
  · rw [hd, get_catchSignals] at hs
    split at hs
    · next hmem => exact ⟨_, ht, hmem⟩
    · obtain ⟨label, hhost⟩ := h.get_of_none hfree s
      rw [hhost] at hs
      exact absurd hs (by simp)
  · rw [underlying_installed hfree ht hd]
    exact h.host

theorem Wired.restored (h : p.Wired) {t : HandlerTable} (htable : p.table = some t)
    (ht : q.table = none) (hd : q.dispositions = restoreSignals p.dispositions t.previous)
    (hp : q.pending = none) : q.Wired := by
  have hhost : ∀ s, ∃ label, q.underlying.get s = .host label := by
    rw [underlying_restored htable ht hd]
    exact h.host
  refine ⟨fun t' htable' => by simp [ht] at htable', fun s hs => ?_, hhost,
    fun s hs => by simp [hp] at hs⟩
  obtain ⟨label, hlabel⟩ := hhost s
  rw [underlying_of_none ht, hs] at hlabel
  exact absurd hlabel (by simp)

theorem Wired.deliver (h : p.Wired) (signal : Signal) : (p.deliver signal).Wired := by
  rcases deliver_cases p signal with ⟨hd, heq⟩ | ⟨label, -, heq⟩ <;> rw [heq]
  · refine ⟨h.previous, h.library, h.host, fun s hs => ?_⟩
    obtain rfl : signal = s := Option.some.inj hs
    exact h.library signal hd
  · exact h.congr rfl rfl fun _ hs => hs

theorem Wired.rewired (h : p.Wired) (hr : Rewired p q) : q.Wired := by
  cases hr with
  | same ht hd hp => exact h.congr ht hd fun _ hs => hp ▸ hs
  | installed id options hfree ht hd hp => exact h.installed hfree ht hd hp
  | restored t htable ht hd hp => exact h.restored htable ht hd hp

theorem Wired.move (h : p.Wired) (hm : Move p q) : q.Wired := by
  cases hm with
  | act ha => exact h.rewired ha.orderly.1.rewired
  | beginShutdown hb => exact h.rewired (Orderly.beginShutdown hb).rewired
  | finishShutdown id => exact h.congr rfl rfl fun _ hs => hs
  | free id => exact h.rewired (Orderly.free p id).rewired
  | takePending => exact h.congr rfl rfl fun s hs => by simp at hs
  | deliver signal => exact h.deliver signal
  | report _ => exact h.congr rfl rfl fun _ hs => hs
  | noteDelivered signal => exact h.congr rfl rfl fun _ hs => hs
  | tick clock => exact h.congr rfl rfl fun _ hs => hs
  | handle signal label htable =>
    -- the host's handler replaces one of the host, so nothing of the library goes away
    refine ⟨h.previous, fun s hs => ?_, fun s => ?_, h.pending⟩
    · simp only [Dispositions.get_set] at hs
      split at hs
      · exact absurd hs (by simp)
      · exact h.library s hs
    · rcases underlying_move (.handle signal label htable) with heq | ⟨signal', label', heq⟩ <;>
        rw [heq]
      · exact h.host s
      · rw [Dispositions.get_set]
        split
        · exact ⟨label', rfl⟩
        · exact h.host s

/-- A signal that waits is covered by the table, which says who handled it before: the host. -/
theorem Wired.of_pending (h : p.Wired) {s : Signal} (hs : p.pending = some s) :
    ∃ t label, p.table = some t ∧ s ∈ t.options.signals ∧
      (s, .host label) ∈ t.previous ∧ p.underlying.get s = .host label := by
  obtain ⟨t, htable, hmem⟩ := h.pending s hs
  obtain ⟨label, hlabel⟩ := h.host s
  refine ⟨t, label, htable, hmem, ?_, hlabel⟩
  have hlookup : ∃ before, t.previous.lookup s = some before := by
    rw [← Option.isSome_iff_exists, List.lookup_isSome_iff]
    rw [← h.previous t htable, List.mem_map] at hmem
    obtain ⟨entry, hentry, rfl⟩ := hmem
    exact ⟨entry, hentry, by simp⟩
  obtain ⟨before, hlookup⟩ := hlookup
  simp only [underlying, htable, get_restoreSignals, hlookup, Option.getD_some] at hlabel
  obtain ⟨front, rest, hprevious, -⟩ := List.lookup_eq_some_iff.1 hlookup
  rw [hprevious, hlabel]
  exact List.mem_append_right _ List.mem_cons_self

end Hub

namespace Machine

theorem Reachable.wired {m : Machine} (h : m.Reachable) : m.hub.Wired := by
  refine h.invariant (fun clock nextId watching interrupt terminate => ⟨?_, ?_, ?_, ?_⟩)
    fun h hm => h.move hm
  · exact fun t htable => absurd htable (by simp [fresh])
  · rintro (_ | _) hs <;> exact absurd hs (by simp [fresh, Dispositions.get])
  · rintro (_ | _)
    · exact ⟨interrupt, rfl⟩
    · exact ⟨terminate, rfl⟩
  · exact fun s hs => absurd hs (by simp [fresh])

end Machine
end RobotClient
