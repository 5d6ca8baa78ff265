import RobotClient.Proofs.Arguments.Grammar
import RobotClient.Proofs.Context.LiveContexts

set_option autoImplicit false

/-! # From an argument vector to the name of a node

A node gets its name and its namespace from the remapping rules of its context, and these come from
the argument vector that the context was initialized with. Of the rules that apply, the last one
counts, whether it is meant for all nodes or for one, and which apply is asked for the name that the
caller gave, even where a rule gives another one. A rule for `__node` comes before any for `__name`.
Main statement: `Machine.Reachable.node_naming`. -/

namespace RobotClient

/-! ## The last rule -/

/-- The rule remaps `name` for the node. -/
def Assignment.Remaps (rule : Assignment) (node name : String) : Prop :=
  rule.name = name ∧ (rule.node = none ∨ rule.node = some node)

/-- No rule remaps `name` for the node. -/
def NoRule (rules : List Assignment) (node name : String) : Prop :=
  ∀ rule ∈ rules, ¬ rule.Remaps node name

/-- The last rule that remaps `name` for the node gives it the value. -/
def LastRule (rules : List Assignment) (node name value : String) : Prop :=
  ∃ front rule back, rules = front ++ rule :: back ∧ rule.Remaps node name ∧
    rule.value = value ∧ NoRule back node name

theorem Assignment.remaps_iff {rule : Assignment} {node name : String} :
    rule.Remaps node name ↔ (rule.name == name && rule.appliesTo node) = true := by
  rw [Remaps, appliesTo]
  cases rule.node <;> simp

namespace Arguments

variable {a : Arguments} {node name value : String}

theorem remapFor_eq_some_iff :
    a.remapFor node name = some value ↔ LastRule a.remapRules node name value := by
  simp only [remapFor, Option.map_eq_some_iff, List.find?_eq_some_iff_append, LastRule, NoRule,
    Assignment.remaps_iff]
  constructor
  · rintro ⟨rule, ⟨hrule, back, front, hrules, hback⟩, rfl⟩
    refine ⟨front.reverse, rule, back.reverse, ?_, hrule, rfl, fun r hr => ?_⟩
    · simpa using congrArg List.reverse hrules
    · simpa [imp_iff_not_or] using hback r (List.mem_reverse.1 hr)
  · rintro ⟨front, rule, back, hrules, hrule, rfl, hback⟩
    refine ⟨rule, ⟨hrule, back.reverse, front.reverse, by simp [hrules], fun r hr => ?_⟩, rfl⟩
    simpa [imp_iff_not_or] using hback r (List.mem_reverse.1 hr)

theorem remapFor_eq_none_iff :
    a.remapFor node name = none ↔ NoRule a.remapRules node name := by
  simp [remapFor, NoRule, Assignment.remaps_iff]

/-- What a name is remapped to depends on the rules about this name alone. -/
theorem remapFor_congr {b : Arguments}
    (h : b.remapRules.filter (·.name = name) = a.remapRules.filter (·.name = name)) :
    b.remapFor node name = a.remapFor node name := by
  have hfilter : ∀ c : Arguments, c.remapFor node name
      = ((c.remapRules.filter (·.name = name)).reverse.find? (·.appliesTo node)).map (·.value) := by
    intro c
    simp only [remapFor, ← List.filter_reverse, List.find?_filter, Bool.decide_and,
      Bool.decide_eq_true, beq_eq_decide]
  rw [hfilter, hfilter, h]

end Arguments

/-! ## Names and namespaces -/

namespace Node

/-- The name that a node gets when it is called `node`. -/
inductive Named (rules : List Assignment) (node : String) : String → Prop where
  | byNode {name : String} : LastRule rules node "__node" name → Named rules node name
  | byName {name : String} : NoRule rules node "__node" → LastRule rules node "__name" name →
      Named rules node name
  | own : NoRule rules node "__node" → NoRule rules node "__name" → Named rules node node

/-- A namespace, and the same with a slash in front. -/
inductive Anchored : String → String → Prop where
  | absolute (rest : String) : Anchored ("/" ++ rest) ("/" ++ rest)
  | relative {ns : String} : (∀ rest, ns ≠ "/" ++ rest) → Anchored ns ("/" ++ ns)

/-- The namespace that a node gets when it is called `node` and put in `ns`. -/
def Placed (rules : List Assignment) (node ns placed : String) : Prop :=
  ∃ chosen, (LastRule rules node "__ns" chosen ∨ NoRule rules node "__ns" ∧ chosen = ns) ∧
    Anchored chosen placed

/-- What becomes of a node whose name and namespace are settled. -/
inductive Made (context : Nat) (name ns : String) : Except ClientError Node → Prop where
  | badName {reason : String} : validateNodeName name = .error (.invalidNodeName name reason) →
      Made context name ns (.error (.invalidNodeName name reason))
  | badNamespace {reason : String} : validateNodeName name = .ok () →
      validateNamespace ns = .error (.invalidNamespace ns reason) →
      Made context name ns (.error (.invalidNamespace ns reason))
  | node : validateNodeName name = .ok () → validateNamespace ns = .ok () →
      Made context name ns (.ok ⟨name, ns, context⟩)

variable {a b : Arguments} {node ns : String} {context : Nat}

theorem named_remapName (a : Arguments) (node : String) :
    Named a.remapRules node (remapName a node) := by
  unfold remapName
  cases hnode : a.remapFor node "__node" with
  | some name => exact .byNode (Arguments.remapFor_eq_some_iff.1 hnode)
  | none =>
    rw [Arguments.remapFor_eq_none_iff] at hnode
    cases hname : a.remapFor node "__name" with
    | some name => exact .byName hnode (Arguments.remapFor_eq_some_iff.1 hname)
    | none => exact .own hnode (Arguments.remapFor_eq_none_iff.1 hname)

theorem anchorNamespace_absolute (rest : String) :
    anchorNamespace ("/" ++ rest) = "/" ++ rest := by
  simp [anchorNamespace]

theorem anchorNamespace_relative (h : ∀ rest, ns ≠ "/" ++ rest) :
    anchorNamespace ns = "/" ++ ns := by
  unfold anchorNamespace
  split
  · next hempty => rw [hempty]; rfl
  · split
    · next hslash =>
      obtain ⟨rest, hrest⟩ := List.head?_eq_some_iff.1 hslash
      exact absurd (String.toList_inj.1 (by simp [hrest])) (h (String.ofList rest))
    · rfl

theorem anchored_anchorNamespace (ns : String) : Anchored ns (anchorNamespace ns) := by
  by_cases h : ∃ rest, ns = "/" ++ rest
  · obtain ⟨rest, rfl⟩ := h
    rw [anchorNamespace_absolute]
    exact .absolute rest
  · rw [not_exists] at h
    rw [anchorNamespace_relative h]
    exact .relative h

/-- A relative namespace is as good as the same with a slash in front. -/
theorem anchorNamespace_slash (h : ∀ rest, ns ≠ "/" ++ rest) :
    anchorNamespace ("/" ++ ns) = anchorNamespace ns := by
  rw [anchorNamespace_absolute, anchorNamespace_relative h]

theorem placed_remapNamespace (a : Arguments) (node ns : String) :
    Placed a.remapRules node ns (remapNamespace a node ns) := by
  unfold remapNamespace
  cases hns : a.remapFor node "__ns" with
  | some chosen =>
    exact ⟨chosen, .inl (Arguments.remapFor_eq_some_iff.1 hns), anchored_anchorNamespace chosen⟩
  | none =>
    exact ⟨ns, .inr ⟨Arguments.remapFor_eq_none_iff.1 hns, rfl⟩, anchored_anchorNamespace ns⟩

/-- A node is made of the remapped name and the anchored namespace, the name being checked first. -/
theorem made_make (context : Nat) (a : Arguments) (node ns : String) :
    Made context (remapName a node) (remapNamespace a node ns) (make context a node ns) := by
  unfold make
  generalize remapName a node = name
  generalize remapNamespace a node ns = placed
  have hname : validateNodeName name = .ok () ∨
      ∃ reason, validateNodeName name = .error (.invalidNodeName name reason) := by
    rw [validateNodeName]
    cases nodeNameDefect? name <;> simp
  have hns : validateNamespace placed = .ok () ∨
      ∃ reason, validateNamespace placed = .error (.invalidNamespace placed reason) := by
    rw [validateNamespace]
    cases namespaceDefect? placed <;> simp
  rcases hname with hname | ⟨reason, hname⟩
  · rcases hns with hns | ⟨reason, hns⟩
    · simpa [hname, hns, bind, Except.bind, pure, Except.pure] using Made.node hname hns
    · simpa [hname, hns, bind, Except.bind] using Made.badNamespace hname hns
  · simpa [hname, bind, Except.bind] using Made.badName hname

/-! ## Other rules -/

/-- Only the rules about namespaces decide on the namespace. -/
theorem remapNamespace_congr
    (h : b.remapRules.filter (·.name = "__ns") = a.remapRules.filter (·.name = "__ns"))
    (node ns : String) : remapNamespace b node ns = remapNamespace a node ns := by
  rw [remapNamespace, Arguments.remapFor_congr h, remapNamespace]

/-- Rules about other names are not asked for the name. -/
theorem remapName_congr
    (h : b.remapRules.filter (·.name ≠ "__ns") = a.remapRules.filter (·.name ≠ "__ns"))
    (node : String) : remapName b node = remapName a node := by
  have hother : ∀ name : String, name ≠ "__ns" →
      b.remapFor node name = a.remapFor node name := by
    intro name hne
    refine Arguments.remapFor_congr ?_
    have hfilter : ∀ rules : List Assignment, rules.filter (·.name = name)
        = (rules.filter (·.name ≠ "__ns")).filter (·.name = name) := by
      intro rules
      rw [List.filter_filter]
      refine List.filter_congr fun rule _ => ?_
      by_cases hname : rule.name = name <;> simp [hname, hne]
    rw [hfilter, h, ← hfilter]
  rw [remapName, hother _ (by decide), hother _ (by decide), remapName]

/-- A rule may as well give a relative namespace with the slash in front. -/
theorem make_slash {front back : List Assignment} {target : Option String} {relative : String}
    (hrules : a.remapRules = front ++ ⟨target, "__ns", relative⟩ :: back)
    (h : ∀ rest, relative ≠ "/" ++ rest) (context : Nat) (node ns : String) :
    make context { a with remapRules := front ++ ⟨target, "__ns", "/" ++ relative⟩ :: back } node ns
      = make context a node ns := by
  have hname : remapName { a with
      remapRules := front ++ ⟨target, "__ns", "/" ++ relative⟩ :: back } node
        = remapName a node :=
    remapName_congr (by simp [hrules]) node
  have hns : remapNamespace { a with
      remapRules := front ++ ⟨target, "__ns", "/" ++ relative⟩ :: back } node ns
        = remapNamespace a node ns := by
    simp only [remapNamespace, Arguments.remapFor, hrules, List.reverse_append, List.reverse_cons,
      List.find?_append, List.append_assoc]
    -- the rule counts if none of those after it applies, and it applies in both forms or in neither
    cases back.reverse.find? (fun rule => rule.name == "__ns" && rule.appliesTo node) with
    | some rule => rfl
    | none =>
      cases htarget : (⟨target, "__ns", relative⟩ : Assignment).appliesTo node with
      | false =>
        have htarget' : (⟨target, "__ns", "/" ++ relative⟩ : Assignment).appliesTo node = false :=
          htarget
        simp [htarget, htarget']
      | true =>
        have htarget' : (⟨target, "__ns", "/" ++ relative⟩ : Assignment).appliesTo node = true :=
          htarget
        simpa [htarget, htarget'] using anchorNamespace_slash h
  rw [make, make, hname, hns]

/-- A caller may as well give the namespace that the rules give. -/
theorem make_explicit {chosen : String} (h : LastRule a.remapRules node "__ns" chosen)
    (context : Nat) (ns : String) :
    make context { a with remapRules := a.remapRules.filter (·.name ≠ "__ns") } node chosen
      = make context a node ns := by
  have hname : remapName { a with remapRules := a.remapRules.filter (·.name ≠ "__ns") } node
      = remapName a node :=
    remapName_congr (by simp [List.filter_filter]) node
  have hnone : ({ a with remapRules := a.remapRules.filter (·.name ≠ "__ns") } : Arguments).remapFor
      node "__ns" = none := by
    rw [Arguments.remapFor_eq_none_iff]
    intro rule hrule hremaps
    simpa [hremaps.1] using (List.mem_filter.1 hrule).2
  have hns : remapNamespace { a with remapRules := a.remapRules.filter (·.name ≠ "__ns") } node chosen
      = remapNamespace a node ns := by
    rw [remapNamespace, hnone, remapNamespace, Arguments.remapFor_eq_some_iff.2 h]
    rfl
  rw [make, make, hname, hns]

end Node

/-! ## From the argument vector -/

namespace Hub

variable {κ : Type} {p q : Hub κ} {id : Nat}

/-- An initialization binds the context to what its argument vector says. -/
theorem session?_of_init {o : InitOptions} (h : p.init id o = .ok q) :
    ∃ arguments s, Arguments.ofRaw o.args = .ok arguments ∧ q.session? id = some s ∧
      s.arguments = arguments := by
  obtain ⟨c, -, -, -, hc, hph, -⟩ := init_cases h
  have hphase : p.phase id = .uninitialized := by rw [phase_of_some hc, hph]
  cases hoffer : p.offer id o with
  | error e => exact absurd (h.symm.trans (init_of_offer_error hphase hoffer)) (by simp)
  | ok s =>
    obtain ⟨q', hq', hcontexts, -⟩ := init_of_offer_ok hphase hoffer
    obtain rfl : q = q' := Except.ok.inj (h.symm.trans hq')
    refine ⟨s.arguments, s, ?_, by rw [session?_of_opened hcontexts hc, if_pos rfl], rfl⟩
    unfold offer at hoffer
    cases ha : Arguments.ofRaw o.args with
    | error e => simp [ha, Except.bind] at hoffer
    | ok arguments =>
      cases hd : resolveDomain o.domainId o.domain o.source with
      | error e => simp [ha, hd, Except.bind, Except.map] at hoffer
      | ok domainId =>
        simp only [ha, hd, Except.bind, Except.map, Except.ok.injEq] at hoffer
        rw [← hoffer]

theorem createNode_of_session {s : Session} (hs : p.session? id = some s) (node ns : String) :
    (p.createNode id node ns).map Prod.fst = Node.make id s.arguments node ns := by
  have harguments : p.arguments id = .ok s.arguments := by rw [arguments, hs]
  rw [createNode, harguments]
  cases hnode : Node.make id s.arguments node ns <;> simp [hnode, Except.bind, Except.map]

theorem createNode_of_not_initialized (h : p.isInitialized id = false) (node ns : String) :
    p.createNode id node ns = .error .notInitialized := by
  have hnone : p.session? id = none := by simpa [isInitialized] using h
  have harguments : p.arguments id = .error .notInitialized := by rw [arguments, hnone]
  rw [createNode, harguments]
  rfl

end Hub

theorem Arguments.exists_of_ofRaw {raw : List (List UInt8)} {arguments : Arguments}
    (h : Arguments.ofRaw raw = .ok arguments) :
    ∃ texts plain settings, Decoded raw texts ∧ Derives false texts plain settings ∧
      arguments = Arguments.gather plain settings := by
  rw [Arguments.ofRaw] at h
  cases htexts : decodeArguments raw with
  | error e => simp [htexts, Except.bind] at h
  | ok texts =>
    simp only [htexts, Except.bind, Arguments.parse, Arguments.ofItems?_eq_ok_iff] at h
    obtain ⟨hdefects, hunknowns, harguments⟩ := h
    exact ⟨texts, _, _, decodeArguments_eq_ok_iff.1 htexts, derives_items hdefects hunknowns,
      harguments⟩

namespace Machine

variable {m : Machine} {target : Option Nat} {keepAs : Option String} {o : InitOptions}
  {hub : Hub Callback}

/-- After a call that initializes a context, the context is bound to what the argument vector says,
    as long as it is initialized. -/
theorem Reachable.session?_after_init (h : m.Reachable)
    (hcall : m.call? = some (.init target keepAs o))
    (hinit : (m.hub.about target).2.init (m.hub.about target).1 o = .ok hub) :
    ∃ arguments, Arguments.ofRaw o.args = .ok arguments ∧ ∀ later,
      (m.step.run later).hub.isInitialized (m.hub.about target).1 = true →
      ∃ s, (m.step.run later).hub.session? (m.hub.about target).1 = some s ∧
        s.arguments = arguments := by
  obtain ⟨arguments, s, harguments, hs, rfl⟩ := Hub.session?_of_init hinit
  obtain ⟨hn, -⟩ := h.about_numbered hcall
  refine ⟨s.arguments, harguments, fun later hlater => ⟨s, ?_, rfl⟩⟩
  have hserve : (m.caller.serve (.init target keepAs o)).hub = hub := by
    simp only [serve, initContext, contextFor_about, hub_caller, hinit, hub_answer]
  have moves : Relation.ReflTransGen Hub.Move hub (m.step.run later).hub := by
    refine Relation.ReflTransGen.trans ?_ (moves_run m.step later)
    rw [step_of_call hcall, ← hserve]
    exact moves_foldl_free _ _
  exact Hub.session?_of_moves moves (hn.act (.init hinit)) hs hlater

/-- **From an argument vector to the name of a node.** Once a call has initialized a context with an
argument vector, and as long as the context is initialized, a node of it is named and placed by the
remapping rules of the vector: the last rule that applies counts, and which apply is asked for the
name that was given. The node is there exactly if the name and then the namespace pass their checks.
While the context is not initialized there is no node, whatever the name. Rules about nodes do not
decide on namespaces; a namespace may be given by a rule without the slash in front, or by the caller
in place of the rule. -/
theorem Reachable.node_naming (h : m.Reachable) (hcall : m.call? = some (.init target keepAs o))
    (hinit : (m.hub.about target).2.init (m.hub.about target).1 o = .ok hub) :
    ∃ texts plain settings, Decoded o.args texts ∧ Derives false texts plain settings ∧
      let id := (m.hub.about target).1
      let arguments := Arguments.gather plain settings
      (∀ later, (m.step.run later).hub.isInitialized id = true → ∀ node ns,
        ∃ name placed, Node.Named arguments.remapRules node name ∧
          Node.Placed arguments.remapRules node ns placed ∧
          Node.Made id name placed
            (((m.step.run later).hub.createNode id node ns).map Prod.fst) ∧
          ((m.step.run later).hub.createNode id node ns).map Prod.fst
            = Node.make id arguments node ns) ∧
      (∀ p : Hub Callback, p.isInitialized id = false → ∀ node ns,
        p.createNode id node ns = .error .notInitialized) ∧
      (∀ rules, rules.filter (·.name = "__ns") = arguments.remapRules.filter (·.name = "__ns") →
        ∀ node ns, Node.remapNamespace { arguments with remapRules := rules } node ns
          = Node.remapNamespace arguments node ns) ∧
      (∀ front back target relative,
        arguments.remapRules = front ++ ⟨target, "__ns", relative⟩ :: back →
        (∀ rest, relative ≠ "/" ++ rest) → ∀ node ns,
        Node.make id { arguments with
            remapRules := front ++ ⟨target, "__ns", "/" ++ relative⟩ :: back } node ns
          = Node.make id arguments node ns) ∧
      (∀ node chosen, LastRule arguments.remapRules node "__ns" chosen → ∀ ns,
        Node.make id { arguments with
            remapRules := arguments.remapRules.filter (·.name ≠ "__ns") } node chosen
          = Node.make id arguments node ns) := by
  obtain ⟨arguments, harguments, hsession⟩ := h.session?_after_init hcall hinit
  obtain ⟨texts, plain, settings, htexts, hderives, rfl⟩ := Arguments.exists_of_ofRaw harguments
  refine ⟨texts, plain, settings, htexts, hderives, ?_, ?_, ?_, ?_, ?_⟩
  · intro later hlater node ns
    obtain ⟨s, hs, hs'⟩ := hsession later hlater
    have hmake := Hub.createNode_of_session hs node ns
    rw [hs'] at hmake
    refine ⟨_, _, Node.named_remapName _ node, Node.placed_remapNamespace _ node ns, ?_, hmake⟩
    rw [hmake]
    exact Node.made_make ..
  · exact fun p hp node ns => Hub.createNode_of_not_initialized hp node ns
  · exact fun rules hrules node ns => Node.remapNamespace_congr hrules node ns
  · exact fun front back target relative hrules hrelative node ns =>
      Node.make_slash hrules hrelative _ node ns
  · exact fun node chosen hlast ns => Node.make_explicit hlast _ ns

/-- An argument vector with rules for all nodes and for one. -/
def talkerVector : List String :=
  ["--ros-args", "-r", "__name:=low", "-r", "talker:__node:=high", "--", "--ros-args",
    "-r", "high:__ns:=elsewhere", "-r", "__ns:=sub"]

/-- The options of an initialization with `talkerVector`. -/
def talkerOptions : InitOptions where
  args := talkerVector.map fun text => text.toUTF8.data.toList

/-- The moment at which a program that made a context initializes it with `talkerOptions`. -/
def beforeTalker : Machine :=
  (fresh "" 1 false 0 0).run
    [.call [.create "a", .init (some "a") none talkerOptions], .work]

theorem node_naming_talker :
    beforeTalker.Reachable ∧
    ∃ texts plain settings, Decoded talkerOptions.args texts ∧ Derives false texts plain settings ∧
      Node.Named (Arguments.gather plain settings).remapRules "talker" "high" ∧
      Node.Placed (Arguments.gather plain settings).remapRules "talker" "x" "/sub" := by
  have hm : beforeTalker.Reachable := (Reachable.start "" 1 false 0 0).run _
  have hcall : beforeTalker.call? = some (.init (some 1) none talkerOptions) := rfl
  have hinit : beforeTalker.hub.init 1 talkerOptions = .ok beforeTalker.step.hub := rfl
  have hnode : (beforeTalker.step.hub.createNode 1 "talker" "x").map Prod.fst
      = .ok ⟨"high", "/sub", 1⟩ := rfl
  obtain ⟨texts, plain, settings, htexts, hderives, hall, -⟩ := hm.node_naming hcall hinit
  obtain ⟨name, placed, hname, hplaced, hmade, -⟩ := hall [] rfl "talker" "x"
  refine ⟨hm, texts, plain, settings, htexts, hderives, ?_⟩
  have hmade' : Node.Made 1 name placed (.ok ⟨"high", "/sub", 1⟩) := hnode ▸ hmade
  cases hmade'
  exact ⟨hname, hplaced⟩

end Machine
end RobotClient
