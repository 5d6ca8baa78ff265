import RobotClient.Proofs.Context.Forwarding
import RobotClient.Proofs.Context.Ownership
import RobotClient.Proofs.Context.Runs

set_option autoImplicit false

/-! # What the system does with signals

The owner of the handlers covers some signals, and what is underneath is the host's business. These
two settle what the system does with each signal (`Covered.get_dispositions`), although the code
never says so: an installation saves what it replaces, one signal after another, and whoever takes
the handlers out puts it back much later. So it is enough to follow the two. No rewiring reaches
what is underneath, and in one step a table stays or is taken out, but does not give way to another
(`Steady`). Main statement: `dispositions_restored`. -/

namespace RobotClient

open Relation (ReflTransGen)

namespace Hub

variable {κ : Type} {p q : Hub κ} {id : Nat}

/-! ## Changes of the handlers -/

/-- A table that stays was neither put in nor taken out. -/
theorem Rewired.dispositions_eq (h : Rewired p q) (ht : q.table = p.table) :
    q.dispositions = p.dispositions := by
  cases h with
  | same _ hd => exact hd
  | installed id options hfree hq => simp [hfree, hq] at ht
  | restored t htable hq => simp [htable, hq] at ht

/-! ## Covered signals -/

/-- The signals that the owner of the handlers asked for go to the library. -/
def Covered (p : Hub κ) : Prop :=
  ∀ t, p.table = some t → ∀ s ∈ t.options.signals, p.dispositions.get s = .library

theorem Covered.of_none (h : p.table = none) : p.Covered := by
  intro t htable
  rw [h] at htable
  exact absurd htable (by simp)

theorem Covered.congr (h : p.Covered) (ht : q.table = p.table)
    (hd : q.dispositions = p.dispositions) : q.Covered := by
  intro t htable s hs
  rw [hd]
  exact h t (ht.symm.trans htable) s hs

theorem Covered.rewired (h : p.Covered) (hr : Rewired p q) : q.Covered := by
  cases hr with
  | same ht hd => exact h.congr ht hd
  | installed id options hfree ht hd =>
    intro t htable s hs
    obtain rfl := Option.some.inj (ht.symm.trans htable)
    rw [hd, get_catchSignals, if_pos hs]
  | restored t htable ht hd => exact .of_none ht

theorem Covered.move (h : p.Covered) (hm : Move p q) : q.Covered := by
  cases hm with
  | act ha => exact h.rewired ha.orderly.1.rewired
  | beginShutdown hb => exact h.rewired (Orderly.beginShutdown hb).rewired
  | finishShutdown id => exact h.congr rfl rfl
  | free id => exact h.rewired (Orderly.free p id).rewired
  | takePending => exact h.congr rfl rfl
  | deliver signal => exact h.congr (wiring_deliver p signal).1 (wiring_deliver p signal).2
  | report _ => exact h.congr rfl rfl
  | noteDelivered signal => exact h.congr rfl rfl
  | tick clock => exact h.congr rfl rfl
  | handle signal label htable => exact .of_none htable

/-- **What the system does with a signal.** The library has what the owner asked for, and every other
    signal is as it is underneath. -/
theorem Covered.get_dispositions (h : p.Covered) (hw : p.Wired) (s : Signal) :
    (∃ t, p.table = some t ∧ s ∈ t.options.signals) ∧ p.dispositions.get s = .library ∨
      (¬ ∃ t, p.table = some t ∧ s ∈ t.options.signals) ∧
        p.dispositions.get s = p.underlying.get s := by
  by_cases hs : ∃ t, p.table = some t ∧ s ∈ t.options.signals
  · obtain ⟨t, htable, hmem⟩ := hs
    exact .inl ⟨⟨t, htable, hmem⟩, h t htable s hmem⟩
  · refine .inr ⟨hs, ?_⟩
    cases htable : p.table with
    | none => rw [underlying_of_none htable]
    | some t =>
      -- the table saved nothing for a signal that it does not cover
      have hfree : t.previous.lookup s = none := by
        refine List.lookup_eq_none_iff.2 fun entry hentry => ?_
        have hmem : entry.1 ∈ t.options.signals :=
          hw.previous t htable ▸ List.mem_map_of_mem hentry
        have hne : s ≠ entry.1 := fun he => hs ⟨t, htable, he ▸ hmem⟩
        simpa using hne
      simp [Hub.underlying, htable, get_restoreSignals, hfree]

/-- With the table and what is underneath, all dispositions stay. -/
theorem dispositions_eq (hp : p.Covered) (hpw : p.Wired) (hq : q.Covered) (hqw : q.Wired)
    (ht : q.table = p.table) (hu : q.underlying = p.underlying) :
    q.dispositions = p.dispositions := by
  ext s
  rcases hp.get_dispositions hpw s with ⟨hs, heq⟩ | ⟨hs, heq⟩
  · rcases hq.get_dispositions hqw s with ⟨-, heq'⟩ | ⟨hs', -⟩
    · rw [heq, heq']
    · exact absurd (ht ▸ hs) hs'
  · rcases hq.get_dispositions hqw s with ⟨hs', -⟩ | ⟨-, heq'⟩
    · exact absurd (ht ▸ hs') hs
    · rw [heq, heq', hu]

/-! ## Steps -/

/-- What a step does to the handlers: what is underneath stays, and a table stays or is taken out.
    It does not give way to another one in the same step. -/
structure Steady (p q : Hub κ) : Prop where
  underlying : q.underlying = p.underlying
  table : ∀ t, p.table = some t → q.table = some t ∨ q.table = none

/-- A change that leaves the handlers alone. -/
theorem Steady.same (ht : q.table = p.table) (hd : q.dispositions = p.dispositions) :
    Steady p q :=
  ⟨underlying_congr ht hd, fun _ htable => .inl (ht.trans htable)⟩

theorem Steady.of_rewired (h : Rewired p q) : Steady p q := by
  refine ⟨h.underlying, fun t htable => ?_⟩
  cases h with
  | same ht => exact .inl (ht.trans htable)
  | installed id options hfree =>
    rw [hfree] at htable
    exact absurd htable (by simp)
  | restored t' htable' ht => exact .inr ht

theorem Steady.acts (h : ReflTransGen Act p q) : Steady p q := by
  have both : q.underlying = p.underlying ∧ ∀ t, p.table = some t → q.table = some t := by
    induction h with
    | refl => exact ⟨rfl, fun t htable => htable⟩
    | tail _ ha ih =>
      obtain ⟨orderly, ht⟩ := ha.orderly
      exact ⟨orderly.rewired.underlying.trans ih.1, fun t htable => ht t (ih.2 t htable)⟩
  exact ⟨both.1, fun t htable => .inl (both.2 t htable)⟩

theorem Steady.stride (h : Stride p q) : Steady p q := by
  cases h with
  | acts acts => exact .acts acts
  | beginShutdown hb => exact .of_rewired (Orderly.beginShutdown hb).rewired
  | finishShutdown id => exact .same rfl rfl
  | takePending => exact .same rfl rfl
  | deliver signal => exact .same (wiring_deliver p signal).1 (wiring_deliver p signal).2
  | report _ => exact .same rfl rfl
  | noteDelivered signal => exact .same rfl rfl

theorem Steady.free (h : Steady p q) (id : Nat) : Steady p (q.free id) := by
  have hr := (Orderly.free q id).rewired
  refine ⟨hr.underlying.trans h.underlying, fun t htable => ?_⟩
  -- nothing is put in here, so a table that is out stays out
  have hfreed : (q.free id).table = q.table ∨ (q.free id).table = none := by
    rcases free_cases q id with ⟨-, heq⟩ | ⟨s, -, -, heq⟩ | ⟨s, t, -, -, -, -, heq⟩ <;> rw [heq]
    · exact .inl rfl
    · exact .inl rfl
    · exact .inr rfl
  rcases hfreed with hsame | hnone
  · rw [hsame]
    exact h.table t htable
  · exact .inr hnone

theorem Steady.foldl_free (h : Steady p q) (ids : List Nat) :
    Steady p (ids.foldl Hub.free q) := by
  induction ids generalizing q with
  | nil => exact h
  | cons id rest ih => exact ih (h.free id)

/-- If somebody comes to own the handlers, nobody owned them before. -/
theorem Steady.table_eq_none_of_new (h : Steady p q) (hp : p.owner? ≠ some id)
    (hq : q.owner? = some id) : p.table = none := by
  cases htable : p.table with
  | none => rfl
  | some t =>
    rcases h.table t htable with ht | ht
    · exact absurd (by simpa [owner?, htable, ht] using hq) hp
    · exact absurd hq (by simp [owner?, ht])

/-- If an owner loses the handlers, nobody owns them afterwards. -/
theorem Steady.table_eq_none_of_old (h : Steady p q) (hp : p.owner? = some id)
    (hq : q.owner? ≠ some id) : q.table = none := by
  obtain ⟨t, htable, rfl⟩ := Option.map_eq_some_iff.1 hp
  rcases h.table t htable with ht | ht
  · exact absurd (by simp [owner?, ht]) hq
  · exact ht

/-- As long as the owner stays the same, so does the table. -/
theorem Steady.table_eq (h : Steady p q) (ho : q.owner? = p.owner?) : q.table = p.table := by
  cases htable : p.table with
  | none => simpa [owner?, htable] using ho
  | some t =>
    rcases h.table t htable with ht | ht
    · exact ht
    · simp [owner?, htable, ht] at ho

end Hub

namespace Machine

variable {m : Machine}

theorem Reachable.covered (h : m.Reachable) : m.hub.Covered :=
  h.invariant (fun _ _ _ _ _ => .of_none rfl) fun h hm => h.move hm

/-! ## What the host did last -/

/-- What the host puts in for a signal as something happens. -/
def puts (s : Signal) (m : Machine) : Happening → List Disposition
  | .handle signal label => if signal = s ∧ m.hub.table = none then [.host label] else []
  | _ => []

/-- What the host put in last for a signal, or what was there when the run started. -/
def lastPut (m : Machine) (happenings : List Happening) (s : Signal) : Disposition :=
  (along (puts s) m happenings).getLast?.getD (m.hub.dispositions.get s)

/-- Without a change of the host, a happening is steady. -/
theorem steady_happen (m : Machine) (happening : Happening)
    (h : ∀ signal label, happening = .handle signal label → m.hub.table ≠ none) :
    Hub.Steady m.hub (m.happen happening).hub := by
  cases happening with
  | work =>
    obtain ⟨q, ids, stride, hstep⟩ := exists_stride m
    rw [happen, hstep]
    exact (Hub.Steady.stride stride).foldl_free ids
  | call program => exact .same rfl rfl
  | arrive signal =>
    exact .same (Hub.wiring_deliver m.hub signal).1 (Hub.wiring_deliver m.hub signal).2
  | tick clock => exact .same rfl rfl
  | handle signal label =>
    rw [happen, if_neg (h signal label rfl)]
    exact .same rfl rfl

/-- What is underneath changes by what the host puts in. -/
theorem underlying_happen (m : Machine) (happening : Happening) (s : Signal) :
    (m.happen happening).hub.underlying.get s
      = (puts s m happening).getLast?.getD (m.hub.underlying.get s) := by
  by_cases hhost : ∃ signal label, happening = .handle signal label ∧ m.hub.table = none
  · obtain ⟨signal, label, rfl, htable⟩ := hhost
    have hafter : (m.happen (.handle signal label)).hub
        = { m.hub with dispositions := m.hub.dispositions.set signal (.host label) } := by
      rw [happen, if_pos htable]
    rw [hafter, Hub.underlying_of_none htable, Hub.underlying_of_none (by exact htable),
      Dispositions.get_set]
    by_cases hs : s = signal
    · simp [puts, hs, htable]
    · simp [puts, hs, Ne.symm hs]
  · have hputs : puts s m happening = [] := by
      cases happening with
      | handle signal label =>
        refine if_neg fun h => hhost ⟨signal, label, rfl, h.2⟩
      | _ => rfl
    have hsteady : Hub.Steady m.hub (m.happen happening).hub :=
      steady_happen m happening fun signal label he htable => hhost ⟨signal, label, he, htable⟩
    rw [hputs, hsteady.underlying]
    rfl

theorem underlying_run (m : Machine) (happenings : List Happening) (s : Signal) :
    (m.run happenings).hub.underlying.get s
      = (along (puts s) m happenings).getLast?.getD (m.hub.underlying.get s) := by
  induction happenings generalizing m with
  | nil => rfl
  | cons happening rest ih =>
    have hrun : m.run (happening :: rest) = (m.happen happening).run rest := rfl
    rw [hrun, ih, underlying_happen, along, List.getLast?_append]
    cases (along (puts s) (m.happen happening) rest).getLast? <;> rfl

/-- While the handlers have one owner, what is underneath stays. -/
theorem underlying_of_owned {id : Nat} (happenings : List Happening)
    (howned : ∀ front, front <+: happenings → (m.run front).hub.owner? = some id) :
    (m.run happenings).hub.underlying = m.hub.underlying := by
  induction happenings generalizing m with
  | nil => rfl
  | cons happening rest ih =>
    have htable : m.hub.table ≠ none := fun htable =>
      absurd (howned [] (List.nil_prefix)) (by simp [run, Hub.owner?, htable])
    have hsteady := steady_happen m happening fun _ _ _ => htable
    have hrest := ih (m := m.happen happening) fun front hfront =>
      howned (happening :: front) (List.cons_prefix_cons.2 ⟨rfl, hfront⟩)
    exact hrest.trans hsteady.underlying

theorem owner?_handle (m : Machine) (signal : Signal) (label : Nat) :
    (m.happen (.handle signal label)).hub.owner? = m.hub.owner? := by
  rw [happen]
  split <;> rfl

/-- From before an owner's installation until after it lost the handlers. -/
theorem dispositions_of_released {install release : Happening} {during : List Happening} {id : Nat}
    (hbefore : m.hub.owner? ≠ some id)
    (howned : ∀ front, front <+: during → ((m.happen install).run front).hub.owner? = some id)
    (hafter : (((m.happen install).run during).happen release).hub.owner? ≠ some id) :
    (((m.happen install).run during).happen release).hub.table = none ∧
      (((m.happen install).run during).happen release).hub.dispositions = m.hub.dispositions := by
  have hinstalled : (m.happen install).hub.owner? = some id := howned [] List.nil_prefix
  have hlast : ((m.happen install).run during).hub.owner? = some id :=
    howned during List.prefix_rfl
  -- the host can do neither, since its changes leave the owner as it is
  have installs := steady_happen m install fun signal label he _ =>
    hbefore (by rw [← hinstalled, he, owner?_handle])
  have releases := steady_happen ((m.happen install).run during) release
    fun signal label he _ => hafter (by rw [he, owner?_handle, hlast])
  have hfree := installs.table_eq_none_of_new hbefore hinstalled
  have hfree' := releases.table_eq_none_of_old hlast hafter
  refine ⟨hfree', ?_⟩
  rw [← Hub.underlying_of_none hfree', releases.underlying, underlying_of_owned during howned,
    installs.underlying, Hub.underlying_of_none hfree]

/-- **The handlers leave no trace.** At every moment of every run, a signal goes to the library if
the handlers have an owner that asked for it, and otherwise to whatever the host put in last. So when
an owner loses the handlers, for whatever reason and however much happened since, everything is as it
was before they were installed for it. An initialization while somebody owns the handlers, and the
end of a context that does not own them, change nothing; nor does anything else that the host did
not do, as long as the owner stays. -/
theorem dispositions_restored (clock : String) (nextId : Nat) (watching : Bool)
    (interrupt terminate : Nat) (happenings : List Happening) :
    let start := fresh clock nextId watching interrupt terminate
    let m := start.run happenings
    (∀ s,
      (m.hub.dispositions.get s = .library ↔
        ∃ t, m.hub.table = some t ∧ s ∈ t.options.signals) ∧
      (m.hub.dispositions.get s ≠ .library →
        m.hub.dispositions.get s = start.lastPut happenings s)) ∧
    (∀ install during release id, let installed := m.happen install
      let released := (installed.run during).happen release
      m.hub.owner? ≠ some id → (∀ front, front <+: during →
        (installed.run front).hub.owner? = some id) → released.hub.owner? ≠ some id →
      released.hub.table = none ∧ released.hub.dispositions = m.hub.dispositions) ∧
    (∀ id o q, m.hub.owner? ≠ none → m.hub.init id o = .ok q →
      q.table = m.hub.table ∧ q.dispositions = m.hub.dispositions) ∧
    (∀ id, m.hub.owner? ≠ some id →
      (∀ callbacks q, m.hub.beginShutdown id = .ok (callbacks, q) →
        q.table = m.hub.table ∧ q.dispositions = m.hub.dispositions) ∧
      (m.hub.free id).table = m.hub.table ∧
        (m.hub.free id).dispositions = m.hub.dispositions) ∧
    (∀ happening, (∀ signal label, happening ≠ .handle signal label) →
      (m.happen happening).hub.owner? = m.hub.owner? →
      (m.happen happening).hub.dispositions = m.hub.dispositions) := by
  intro start m
  have hm : m.Reachable := (Reachable.start clock nextId watching interrupt terminate).run happenings
  refine ⟨fun s => ?_, ?_, ?_, fun id hne => ⟨?_, ?_⟩, ?_⟩
  · obtain ⟨label, hhost⟩ := hm.wired.host s
    have hlast : m.hub.underlying.get s = start.lastPut happenings s :=
      underlying_run start happenings s
    rcases hm.covered.get_dispositions hm.wired s with ⟨hs, heq⟩ | ⟨hs, heq⟩
    · exact ⟨⟨fun _ => hs, fun _ => heq⟩, fun hne => absurd heq hne⟩
    · have hne : m.hub.dispositions.get s ≠ .library := by simp [heq, hhost]
      exact ⟨⟨fun h => absurd h hne, fun h => absurd h hs⟩, fun _ => heq.trans hlast⟩
  · intro install during release id installed released hbefore howned hafter
    exact dispositions_of_released hbefore howned hafter
  · intro id o q hsome hinit
    obtain ⟨horderly, hkeeps⟩ := Hub.Act.orderly (.init hinit)
    obtain ⟨t, htable⟩ : ∃ t, m.hub.table = some t := by
      rw [← Option.ne_none_iff_exists']
      simpa [Hub.owner?] using hsome
    have ht : q.table = m.hub.table := (hkeeps t htable).trans htable.symm
    exact ⟨ht, horderly.rewired.dispositions_eq ht⟩
  · intro callbacks q hb
    have ht := Hub.table_beginShutdown hne hb
    exact ⟨ht, (Hub.Orderly.beginShutdown hb).rewired.dispositions_eq ht⟩
  · have ht := Hub.table_free (p := m.hub) hne
    exact ⟨ht, (Hub.Orderly.free m.hub id).rewired.dispositions_eq ht⟩
  · intro happening hhost howner
    have steady := steady_happen m happening fun signal label he _ =>
      hhost signal label he
    have hafter := hm.happen happening
    exact Hub.dispositions_eq hm.covered hm.wired hafter.covered hafter.wired
      (steady.table_eq howner) steady.underlying

/-- The handler that the host puts in while nobody owns the handlers is there again in the end. -/
example :
    let owned := (fresh "" 1 false 3 4).run (.handle .interrupt 7 ::
      .call [.create "a", .init (some "a") none { handlers := some .interrupt },
        .shutdown (some "a") false] :: List.replicate 2 .work)
    owned.hub.dispositions = ⟨.library, .host 4⟩ ∧
      owned.step.hub.dispositions = ⟨.host 7, .host 4⟩ := by
  exact ⟨rfl, rfl⟩

end Machine
end RobotClient
