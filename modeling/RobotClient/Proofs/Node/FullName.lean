import RobotClient.Console.Run
import RobotClient.Proofs.Context.MadeNodes
import RobotClient.Proofs.Node.Name
import RobotClient.Proofs.Node.Naming

set_option autoImplicit false

/-! # Full names

The full name of a node is its namespace and its name with a slash in between, but the root brings
that slash along. No two nodes share a full name without sharing both parts, because a name has no
slash and a namespace other than the root does not end in one: what stands before and after the last
slash tells the parts. That holds of every node that a context made, and these are all nodes of a
run; which they are is told by the checks alone. Main statement: `fullName_identifies`. -/

namespace RobotClient

/-! ## What contexts make -/

namespace Node

variable {node a b : Node}

theorem Created.valid (h : node.Created) :
    validateNodeName node.name = .ok () ∧ validateNamespace node.namespaceText = .ok () := by
  obtain ⟨p, q, id, name, ns, hcreate⟩ := h
  obtain ⟨arguments, -, hmake, -⟩ := Hub.createNode_eq_ok hcreate
  have hmade := made_make id arguments name ns
  rw [hmake] at hmade
  cases hmade with
  | node hname hns => exact ⟨hname, hns⟩

/-- A namespace that passes its checks has a slash in front already. -/
theorem anchorNamespace_of_valid {ns : String} (h : validateNamespace ns = .ok ()) :
    anchorNamespace ns = ns := by
  rcases namespaceDefect?_eq_none_iff.1 (validateNamespace_eq_ok_iff.1 h) with
    rfl | ⟨-, tokens, hne, -, rfl⟩
  · rfl
  · obtain ⟨token, tokens, rfl⟩ := List.exists_cons_of_ne_nil hne
    have hslash : slashed (token :: tokens) = "/" ++ (token ++ slashed tokens) := by
      apply String.toList_inj.1
      simp [toList_slashed]
    rw [hslash, anchorNamespace_absolute]

theorem make_of_no_rules (hname : validateNodeName node.name = .ok ())
    (hns : validateNamespace node.namespaceText = .ok ()) :
    make node.context {} node.name node.namespaceText = .ok node := by
  have hplace : remapNamespace {} node.name node.namespaceText = node.namespaceText :=
    anchorNamespace_of_valid hns
  have hmade : Made node.context node.name node.namespaceText
      (make node.context {} node.name node.namespaceText) := by
    have hmade := made_make node.context {} node.name node.namespaceText
    rwa [hplace] at hmade
  generalize make node.context {} node.name node.namespaceText = made at hmade
  cases hmade with
  | badName hbad => exact absurd (hname.symm.trans hbad) (by simp)
  | badNamespace _ hbad => exact absurd (hns.symm.trans hbad) (by simp)
  | node => rfl

/-- A hub with one context, which is initialized and has no rules. -/
def withoutRules (id : Nat) : Hub Callback where
  contexts := [{ id, phase := .initialized ⟨0, {}, .no, false, ""⟩ }]

/-- A context without rules makes the node that it is asked for. -/
theorem created_of_valid (hname : validateNodeName node.name = .ok ())
    (hns : validateNamespace node.namespaceText = .ok ()) : node.Created := by
  have hsession : (withoutRules node.context).session? node.context
      = some ⟨0, {}, .no, false, ""⟩ := by
    simp [withoutRules, Hub.session?, Hub.phase, Hub.find?, Phase.session?]
  have hcreate := Hub.createNode_of_session hsession node.name node.namespaceText
  rw [make_of_no_rules hname hns] at hcreate
  cases hmade : (withoutRules node.context).createNode node.context node.name
      node.namespaceText with
  | error e => simp [hmade, Except.map] at hcreate
  | ok made =>
    obtain rfl : made.1 = node := by simpa [hmade, Except.map] using hcreate
    exact ⟨_, made.2, _, _, _, hmade⟩

/-- Contexts make the nodes whose name and namespace pass their checks. -/
theorem created_iff : node.Created ↔
    validateNodeName node.name = .ok () ∧ validateNamespace node.namespaceText = .ok () :=
  ⟨Created.valid, fun h => created_of_valid h.1 h.2⟩

/-! ## From a full name to its parts -/

/-- The namespace and the name that a full name tells, by its last slash. -/
def place? (full : String) : Option (String × String) :=
  (Text.splitLast? '/' full).map fun (front, name) => (if front = "" then "/" else front, name)

theorem Created.isToken (h : node.Created) : IsToken node.name := by
  have hname := validateNodeName_eq_ok_iff.1 h.valid.1
  exact (nodeNameDefect?_eq_none_iff.1 hname).2

/-- A full name is the name, and before it a slash and what the namespace has besides the root. -/
theorem fullName_eq (node : Node) :
    node.fullName
      = (if node.namespaceText = "/" then "" else node.namespaceText) ++ "/" ++ node.name := by
  rw [fullName]
  split <;> simp

/-- A full name is made of tokens: those of the namespace, and the name. -/
theorem Created.exists_tokens (h : node.Created) :
    ∃ tokens : List String, tokens ≠ [] ∧ (∀ token ∈ tokens, IsToken token) ∧
      node.fullName = slashed tokens := by
  have hname := h.isToken
  have hns := namespaceDefect?_eq_none_iff.1 (validateNamespace_eq_ok_iff.1 h.valid.2)
  obtain ⟨front, hfront, heq⟩ : ∃ front : List String, (∀ token ∈ front, IsToken token) ∧
      (if node.namespaceText = "/" then "" else node.namespaceText) = slashed front := by
    by_cases hroot : node.namespaceText = "/"
    · exact ⟨[], by simp, by rw [if_pos hroot]; rfl⟩
    · obtain ⟨-, tokens, -, htokens, heq⟩ := hns.resolve_left hroot
      exact ⟨tokens, htokens, by rw [if_neg hroot, heq]⟩
  refine ⟨front ++ [node.name], by simp, ?_, ?_⟩
  · intro token htoken
    rw [List.mem_append, List.mem_singleton] at htoken
    rcases htoken with htoken | rfl
    · exact hfront token htoken
    · exact hname
  · rw [fullName_eq, heq]
    apply String.toList_inj.1
    simp [toList_slashed]

/-- The last slash of a full name tells the namespace and the name. -/
theorem Created.place?_fullName (h : node.Created) :
    place? node.fullName = some (node.namespaceText, node.name) := by
  have hns : node.namespaceText ≠ "" := by
    intro hempty
    have hvalid := validateNamespace_eq_ok_iff.1 h.valid.2
    rw [hempty] at hvalid
    exact absurd hvalid (by decide)
  have hsplit : ∀ front, Text.splitLast? '/' (front ++ "/" ++ node.name) = some (front, node.name) :=
    fun front => Text.splitLast?_append h.isToken.slash_not_mem
  rw [place?, fullName_eq, hsplit, Option.map_some]
  by_cases hroot : node.namespaceText = "/"
  · simp [hroot]
  · simp [hroot, hns]

theorem Created.fullName_inj (ha : a.Created) (hb : b.Created) :
    a.fullName = b.fullName ↔ a.namespaceText = b.namespaceText ∧ a.name = b.name := by
  constructor
  · intro h
    have hplace := congrArg place? h
    rw [ha.place?_fullName, hb.place?_fullName, Option.some.injEq, Prod.mk.injEq] at hplace
    exact hplace
  · rintro ⟨hns, hname⟩
    rw [fullName, fullName, hns, hname]

end Node

/-! ## The nodes of a process -/

theorem Console.created_of_createRunNode {p q : Hub Callback} {id : Nat} {name : Option String}
    {node : Node} (h : Console.createRunNode p id name = .ok (some node, q)) : node.Created := by
  cases name with
  | none => exact absurd h (by simp [createRunNode])
  | some name =>
    rw [createRunNode] at h
    cases hcreate : p.createNode id name "/" with
    | error e => simp [hcreate, Except.map] at h
    | ok made =>
      simp only [hcreate, Except.map, Except.ok.injEq, Prod.mk.injEq, Option.some.injEq] at h
      obtain ⟨rfl, rfl⟩ := h
      exact ⟨p, made.2, id, name, "/", hcreate⟩

/-- **Full names identify nodes.** A node that a context makes is put on record, and in a run the
nodes that a program has names for are on record. All nodes on record, and the node of a run from the
command line, are what some context made. These are the nodes whose name and namespace pass their
checks. The full name of such a node is made of one or more tokens, each with a slash in front, and
its last slash tells the namespace and the name. So two such nodes have the same full name exactly if
they have the same namespace and the same name. -/
theorem fullName_identifies :
    (∀ (p q : Hub Callback) (id : Nat) (name ns : String) (node : Node),
      p.createNode id name ns = .ok (node, q) → q.madeNodes = p.madeNodes ++ [node]) ∧
    (∀ m : Machine, m.Reachable →
      (∀ entry ∈ m.nodes, entry.2 ∈ m.hub.madeNodes) ∧
      ∀ node ∈ m.hub.madeNodes, node.Created) ∧
    (∀ (p q : Hub Callback) (id : Nat) (name : Option String) (node : Node),
      Console.createRunNode p id name = .ok (some node, q) → node.Created) ∧
    (∀ node : Node, node.Created ↔
      validateNodeName node.name = .ok () ∧ validateNamespace node.namespaceText = .ok ()) ∧
    (∀ node : Node, node.Created →
      (∃ tokens : List String, tokens ≠ [] ∧ (∀ token ∈ tokens, IsToken token) ∧
        node.fullName = slashed tokens) ∧
      Node.place? node.fullName = some (node.namespaceText, node.name)) ∧
    ∀ a b : Node, a.Created → b.Created →
      (a.fullName = b.fullName ↔ a.namespaceText = b.namespaceText ∧ a.name = b.name) := by
  refine ⟨?_, ?_, ?_, ?_, ?_, ?_⟩
  · intro p q id name ns node h
    exact Hub.madeNodes_createNode h
  · intro m h
    exact ⟨fun entry hentry => h.mem_madeNodes hentry, h.created⟩
  · intro p q id name node h
    exact Console.created_of_createRunNode h
  · intro node
    exact Node.created_iff
  · intro node h
    exact ⟨h.exists_tokens, h.place?_fullName⟩
  · intro a b ha hb
    exact ha.fullName_inj hb

/-- A program that has made a node under `talkerOptions`. -/
def withTalker : Machine :=
  (Machine.fresh "" 1 false 0 0).run
    [.call [.create "a", .init (some "a") none Machine.talkerOptions,
      .createNode (some "a") "talker" "x" (some "n")], .work, .work, .work]

theorem fullName_identifies_talker :
    ("n", ⟨"high", "/sub", 1⟩) ∈ withTalker.nodes ∧
      Node.place? "/sub/high" = some ("/sub", "high") := by
  have hm : withTalker.Reachable := (Machine.Reachable.start "" 1 false 0 0).run _
  have hnodes : ("n", ⟨"high", "/sub", 1⟩) ∈ withTalker.nodes := List.mem_singleton.2 rfl
  obtain ⟨-, hrun, -, -, hnames, -⟩ := fullName_identifies
  obtain ⟨hheld, hcreated⟩ := hrun withTalker hm
  obtain ⟨-, hplace⟩ := hnames _ (hcreated _ (hheld _ hnodes))
  exact ⟨hnodes, hplace⟩

end RobotClient
