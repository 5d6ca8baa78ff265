import RobotClient.Proofs.Arguments.Decoding
import RobotClient.Proofs.Context.Lifetime
import RobotClient.Proofs.Context.Replies

set_option autoImplicit false

/-! # Initializations that fail

An initialization checks four things, one after another, before it changes anything: that the
context is uninitialized, that the arguments are text, that they make sense, and that there is a
domain. `Hub.Refused` says which of them fails first. A program that asks for such an initialization
gets its answer and nothing else: everything is as if it had not asked. -/

namespace RobotClient

namespace Hub

variable {κ : Type} {p q : Hub κ} {id : Nat} {o : InitOptions}

/-! ## The checks -/

/-- Why an initialization fails: the first of its checks that does not pass, all before it having
    passed. -/
inductive Refused (p : Hub κ) (id : Nat) (o : InitOptions) : ClientError → Prop where
  | started (h : p.phase id ≠ .uninitialized) : Refused p id o .alreadyInitialized
  | undecodable {defect : Text.Utf8.Defect} (h : p.phase id = .uninitialized)
      (hdefect : FirstUndecodable o.args defect) : Refused p id o (.undecodable defect)
  | arguments {texts : List String} {e : ClientError} (h : p.phase id = .uninitialized)
      (htexts : Decoded o.args texts) (he : Arguments.parse texts = .error e) : Refused p id o e
  | domain {texts : List String} {arguments : Arguments} {e : ClientError}
      (h : p.phase id = .uninitialized) (htexts : Decoded o.args texts)
      (harguments : Arguments.parse texts = .ok arguments)
      (he : resolveDomain o.domainId o.domain o.source = .error e) : Refused p id o e

/-- Whether all checks of an initialization pass. -/
def Accepted (p : Hub κ) (id : Nat) (o : InitOptions) : Prop :=
  p.phase id = .uninitialized ∧ ∃ texts arguments domainId, Decoded o.args texts ∧
    Arguments.parse texts = .ok arguments ∧
    resolveDomain o.domainId o.domain o.source = .ok domainId

theorem prepare_of_started (h : p.phase id ≠ .uninitialized) :
    p.prepare id o = .error .alreadyInitialized := by
  unfold prepare
  cases hph : p.phase id with
  | uninitialized => exact absurd hph h
  | initialized s => rfl
  | shutdown => rfl

theorem prepare_of_uninitialized (h : p.phase id = .uninitialized) :
    p.prepare id o = (Arguments.ofRaw o.args).bind fun arguments =>
      (resolveDomain o.domainId o.domain o.source).map fun domainId => (arguments, domainId) := by
  unfold prepare
  rw [h]
  cases Arguments.ofRaw o.args with
  | error e => rfl
  | ok arguments => cases resolveDomain o.domainId o.domain o.source <;> rfl

theorem init_of_refused {e : ClientError} (h : p.Refused id o e) : p.init id o = .error e := by
  have hprepare : p.prepare id o = .error e := by
    cases h with
    | started h => exact prepare_of_started h
    | undecodable h hdefect =>
      rw [prepare_of_uninitialized h, Arguments.ofRaw,
        decodeArguments_eq_error_iff.2 ⟨_, rfl, hdefect⟩]
      rfl
    | arguments h htexts he =>
      rw [prepare_of_uninitialized h, Arguments.ofRaw, decodeArguments_eq_ok_iff.2 htexts]
      simp only [Except.bind, he]
    | domain h htexts harguments he =>
      rw [prepare_of_uninitialized h, Arguments.ofRaw, decodeArguments_eq_ok_iff.2 htexts]
      simp only [Except.bind, harguments, he, Except.map]
  rw [init, hprepare]
  rfl

theorem init_of_accepted (h : p.Accepted id o) : ∃ q, p.init id o = .ok q := by
  obtain ⟨hph, texts, arguments, domainId, htexts, harguments, hdomain⟩ := h
  have hprepare : p.prepare id o = .ok (arguments, domainId) := by
    rw [prepare_of_uninitialized hph, Arguments.ofRaw, decodeArguments_eq_ok_iff.2 htexts]
    simp only [Except.bind, harguments, hdomain, Except.map]
  exact ⟨_, by rw [init, hprepare]; rfl⟩

/-- Going through the checks in order ends at one that fails or at the end. -/
theorem refused_or_accepted (p : Hub κ) (id : Nat) (o : InitOptions) :
    (∃ e, p.Refused id o e) ∨ p.Accepted id o := by
  by_cases hph : p.phase id = .uninitialized
  · cases htexts : decodeArguments o.args with
    | error e =>
      obtain ⟨defect, -, hdefect⟩ := decodeArguments_eq_error_iff.1 htexts
      exact .inl ⟨_, .undecodable hph hdefect⟩
    | ok texts =>
      rw [decodeArguments_eq_ok_iff] at htexts
      cases harguments : Arguments.parse texts with
      | error e => exact .inl ⟨e, .arguments hph htexts harguments⟩
      | ok arguments =>
        cases hdomain : resolveDomain o.domainId o.domain o.source with
        | error e => exact .inl ⟨e, .domain hph htexts harguments hdomain⟩
        | ok domainId =>
          exact .inr ⟨hph, texts, arguments, domainId, htexts, harguments, hdomain⟩
  · exact .inl ⟨_, .started hph⟩

theorem init_eq_error_iff {e : ClientError} : p.init id o = .error e ↔ p.Refused id o e := by
  refine ⟨fun h => ?_, init_of_refused⟩
  rcases refused_or_accepted p id o with ⟨e', hrefused⟩ | haccepted
  · obtain rfl : e' = e := Except.error.inj ((init_of_refused hrefused).symm.trans h)
    exact hrefused
  · obtain ⟨q, hq⟩ := init_of_accepted haccepted
    exact absurd (h.symm.trans hq) (by simp)

theorem init_eq_ok_iff : (∃ q, p.init id o = .ok q) ↔ p.Accepted id o := by
  refine ⟨fun ⟨q, hq⟩ => ?_, init_of_accepted⟩
  rcases refused_or_accepted p id o with ⟨e, hrefused⟩ | haccepted
  · exact absurd ((init_of_refused hrefused).symm.trans hq) (by simp)
  · exact haccepted

/-! ## A fresh default context -/

/-- A hub that has got a fresh default context, since there was none or it was shut down; that one
    is freed if nobody else holds it. -/
def GainsDefault (p q : Hub κ) : Prop :=
  (∀ id, p.slot = some id → p.lifecycle id = .shutdown) ∧
  ∃ kept, (kept = p.contexts ∨ ∃ old, p.slot = some old ∧
      kept = p.contexts.filter (·.id ≠ old)) ∧
    q = { p with
      nextId := p.nextId + 1
      contexts := kept ++ [{ id := p.nextId }]
      slot := some p.nextId
      log := p.log ++ [.defaultCreated p.nextId] }

end Hub

namespace Machine

variable {m : Machine} {label : Option String} {rest : List Op} {replies : List Reply}
  {below : List Frame} {keepAs : Option String} {o : InitOptions} {e : ClientError}

/-! ## Programs whose initialization fails -/

/-- An initialization of a context that fails leaves its answer and nothing else. -/
theorem step_init_refused (h : m.Reachable) {handle : String} {id : Nat}
    (hframes : m.frames = .script label (.init (some handle) keepAs o :: rest) replies :: below)
    (hhandle : m.handles.lookup handle = some id) (he : m.hub.Refused id o e) :
    m.step = { m with frames := .script label rest (replies ++ [.failed e]) :: below } := by
  have hadvance : ({ m with frames := below } : Machine).advance
      (.script label (.init (some handle) keepAs o :: rest) replies)
      = { m with frames := .script label rest (replies ++ [.failed e]) :: below } := by
    simp only [advance, execute, withTarget, withHandle, hhandle, initContext, contextFor,
      Hub.init_of_refused he, Machine.answer]
  refine h.step_eq hframes hadvance rfl fun id hheld => ?_
  simpa [held, hframes, Frame.holds] using hheld

/-- A slot that takes a fresh context lets go of the old one, and of nothing else. -/
theorem unheld_of_slot {r : Machine} (h : m.Reachable)
    (hcontexts : r.hub.contexts = m.hub.contexts ++ [{ id := m.hub.nextId }])
    (hslot : r.hub.slot = some m.hub.nextId) (hr : r.hub.Numbered)
    (hheld : ∀ id, m.held id = true → m.hub.slot ≠ some id → r.held id = true) :
    r.unheld = [] ∨ ∃ old, m.hub.slot = some old ∧ r.unheld = [old] := by
  have hold : ∀ id ∈ r.unheld, m.hub.slot = some id := fun id hid => by
    obtain ⟨hmem, hout⟩ := List.mem_filter.1 hid
    by_contra hne
    rw [hcontexts, List.map_append, List.mem_append] at hmem
    have hin : r.held id = true := by
      rcases hmem with hmem | hmem
      · obtain ⟨c, hc, rfl⟩ := List.mem_map.1 hmem
        exact hheld c.id (h.held_of_mem hc) hne
      · obtain rfl : id = m.hub.nextId := by simpa using hmem
        simp [held, hslot]
    rw [hin] at hout
    exact absurd hout (by decide)
  have hnodup : r.unheld.Nodup := hr.nodup.filter _
  cases hu : r.unheld with
  | nil => exact .inl rfl
  | cons old others =>
    rw [hu] at hold hnodup
    refine .inr ⟨old, hold old List.mem_cons_self, ?_⟩
    cases others with
    | nil => rfl
    | cons next others =>
      -- both would have been in the slot
      have hnext := hold next (List.mem_cons_of_mem _ List.mem_cons_self)
      rw [hold old List.mem_cons_self] at hnext
      obtain rfl := Option.some.inj hnext
      exact absurd List.mem_cons_self (List.nodup_cons.1 hnodup).1

/-- When a fresh context has come into the slot, at most the old one is freed, and as it is shut
    down nothing else comes of that. -/
theorem collect_of_slot {r : Machine} (h : m.Reachable) (hr : r.hub.Numbered)
    (hshut : ∀ id, m.hub.slot = some id → m.hub.lifecycle id = .shutdown)
    (hhub : r.hub = { m.hub with
      nextId := m.hub.nextId + 1
      contexts := m.hub.contexts ++ [{ id := m.hub.nextId }]
      slot := some m.hub.nextId
      log := m.hub.log ++ [.defaultCreated m.hub.nextId] })
    (hheld : ∀ id, m.held id = true → m.hub.slot ≠ some id → r.held id = true) :
    ∃ hub, r.collect = { r with hub } ∧ m.hub.GainsDefault hub := by
  have hcontexts : r.hub.contexts = m.hub.contexts ++ [{ id := m.hub.nextId }] := by rw [hhub]
  have hslot : r.hub.slot = some m.hub.nextId := by rw [hhub]
  rcases unheld_of_slot h hcontexts hslot hr hheld with hunheld | ⟨old, hold, hunheld⟩
  · exact ⟨r.hub, Machine.collect_eq_self hunheld, hshut, m.hub.contexts, .inl rfl, hhub⟩
  · have hne : m.hub.nextId ≠ old := by
      rintro rfl
      have hmem : m.hub.nextId ∈ r.unheld := by rw [hunheld]; exact List.mem_singleton_self _
      have hout := (List.mem_filter.1 hmem).2
      simp [held, hslot] at hout
    -- a context that is shut down owns nothing, so freeing it changes nothing else
    have hsession : r.hub.session? old = none := by
      rw [Hub.session?_of_fresh h.numbered hcontexts]
      exact Hub.session?_of_lifecycle (hshut old hold)
    have hfree : r.hub.free old
        = { r.hub with contexts := r.hub.contexts.filter (·.id ≠ old) } := by
      rcases Hub.free_cases r.hub old with ⟨-, heq⟩ | ⟨s, hs, -⟩ | ⟨s, t, hs, -⟩
      · exact heq
      · exact absurd (hsession.symm.trans hs) (by simp)
      · exact absurd (hsession.symm.trans hs) (by simp)
    refine ⟨r.hub.free old, by rw [collect, hunheld]; rfl, hshut,
      m.hub.contexts.filter (·.id ≠ old), .inr ⟨old, hold, rfl⟩, ?_⟩
    rw [hfree, hhub]
    simp [hne]

/-- An initialization of the default context that fails leaves its answer, and a fresh default
    context if there was none to initialize. -/
theorem step_init_default_refused (h : m.Reachable)
    (hframes : m.frames = .script label (.init none keepAs o :: rest) replies :: below)
    (he : m.hub.defaultContext.2.Refused m.hub.defaultContext.1 o e) :
    ∃ hub, m.step = { m with
        hub, frames := .script label rest (replies ++ [.failed e]) :: below } ∧
      ((∃ id, m.hub.slot = some id ∧ m.hub.lifecycle id ≠ .shutdown ∧ hub = m.hub) ∨
        m.hub.GainsDefault hub) := by
  have hadvance : ({ m with frames := below } : Machine).advance
      (.script label (.init none keepAs o :: rest) replies)
      = { m with
          hub := m.hub.defaultContext.2
          frames := .script label rest (replies ++ [.failed e]) :: below } := by
    simp only [advance, execute, withTarget, initContext, contextFor, Hub.init_of_refused he,
      Machine.answer]
  have hstep := step_of_advance hframes hadvance
  have hnumbered := h.numbered.act .useDefault
  rcases Hub.defaultContext_cases m.hub with ⟨id, hslot, hlife, heq⟩ | ⟨hslot, heq⟩ <;>
    rw [heq] at hstep hnumbered
  · refine ⟨m.hub, hstep.trans (h.collect_eq_self rfl fun id hheld => ?_),
      .inl ⟨id, hslot, hlife, rfl⟩⟩
    simpa [held, hframes, Frame.holds] using hheld
  · obtain ⟨hub, hcollect, hgains⟩ := collect_of_slot
      (r := { m with hub := _, frames := .script label rest (replies ++ [.failed e]) :: below })
      h hnumbered hslot rfl fun id hheld hne => by
        simp only [held, hframes, List.any_cons, Frame.holds, Bool.false_or, Bool.or_eq_true,
          decide_eq_true_eq] at hheld ⊢
        rcases hheld with (hnames | hslot) | hwork
        · exact .inl (.inl hnames)
        · exact absurd hslot hne
        · exact .inr hwork
    exact ⟨hub, hstep.trans hcollect, .inr hgains⟩

/-- **An initialization that fails.** It fails exactly if one of its checks does, with the error of
the first one, and succeeds exactly if all of them pass. If it fails, the program gets this answer
and everything else is as it was, so that whatever happens afterwards happens as if the call had not
been made. If it was one of the default context, a fresh default context may be there besides. -/
theorem Reachable.failed_init (h : m.Reachable) :
    (∀ id o e, m.hub.init id o = .error e ↔ m.hub.Refused id o e) ∧
    (∀ id o, (∃ q, m.hub.init id o = .ok q) ↔ m.hub.Accepted id o) ∧
    (∀ label handle id keepAs o rest replies below e,
      m.frames = .script label (.init (some handle) keepAs o :: rest) replies :: below →
      m.handles.lookup handle = some id → m.hub.Refused id o e →
      m.step = { m with frames := .script label rest (replies ++ [.failed e]) :: below } ∧
      ∀ happenings, Like (.failed e)
        ({ m with frames := .script label rest replies :: below }.run happenings)
        (m.step.run happenings)) ∧
    (∀ label keepAs o rest replies below e,
      m.frames = .script label (.init none keepAs o :: rest) replies :: below →
      m.hub.defaultContext.2.Refused m.hub.defaultContext.1 o e →
      ∃ hub, m.step = { m with
          hub, frames := .script label rest (replies ++ [.failed e]) :: below } ∧
        ((∃ id, m.hub.slot = some id ∧ m.hub.lifecycle id ≠ .shutdown ∧ hub = m.hub) ∨
          m.hub.GainsDefault hub)) := by
  refine ⟨fun _ _ _ => Hub.init_eq_error_iff, fun _ _ => Hub.init_eq_ok_iff, ?_, ?_⟩
  · intro label handle id keepAs o rest replies below e hframes hhandle he
    have hstep := step_init_refused h hframes hhandle he
    refine ⟨hstep, fun happenings => ?_⟩
    rw [hstep]
    have hinserted : Inserted (.failed e) replies (replies ++ [.failed e]) :=
      .inr ⟨replies, [], by simp, rfl⟩
    have hlike : Like (.failed e) { m with frames := .script label rest replies :: below }
        { m with frames := .script label rest (replies ++ [.failed e]) :: below } :=
      { Like.refl _ m with frames := .cons (.script label rest hinserted) (forall₂_same below) }
    exact hlike.run happenings
  · intro label keepAs o rest replies below e hframes he
    exact step_init_default_refused h hframes he

/-- A program whose initialization has arguments that are not text, and no domain either. -/
def doublyRefused : List Op :=
  [.create "a", .init (some "a") none { args := [[0xFF]], domainId := some (-1) }]

/-- The moment of `doublyRefused` at which the initialization comes next. -/
def beforeRefusal : Machine :=
  ({ fresh "" 1 false 0 0 with frames := [.script none doublyRefused []] } : Machine).after 1

theorem reachable_beforeRefusal : beforeRefusal.Reachable := by
  have called := (Reachable.start "" 1 false 0 0).next (.call doublyRefused)
  exact called.after 1

theorem failed_init_beforeRefusal :
    beforeRefusal.Reachable ∧ beforeRefusal.step = { beforeRefusal with
      frames := [.script none [] [.ok (.id 1), .failed (.undecodable ⟨0, some 1⟩)]] } := by
  obtain ⟨-, -, refused, -⟩ := reachable_beforeRefusal.failed_init
  have first : FirstUndecodable [[0xFF]] ⟨0, some 1⟩ :=
    ⟨[], [0xFF], [], rfl, ⟨[], .nil⟩, rfl⟩
  exact ⟨reachable_beforeRefusal,
    (refused none "a" 1 none _ [] _ [] _ rfl rfl (.undecodable rfl first)).1⟩

end Machine
end RobotClient
