import Workflow.Proofs.Sound
/-!
# Changes of a store

What each change can do, said once: every change either refuses and leaves the store, or had its conditions met and
takes the steps it is made of.  All that is known of a change is derived from its `_cases` lemma, soundness first: a
sound store stays sound, whatever is asked of it and whether or not it is done.
-/
namespace Workflow.Graph

open Json (Object Value)

variable {α : Type}

/-! ## What a change can do -/

theorem startId_of_startConflict {g : Graph α} {kind : Kind} (free : g.startConflict kind = none)
    (start : kind.isStart = true) : g.startId = none := by
  rw [startConflict, if_pos start] at free
  exact Option.map_eq_none_iff.1 free

theorem nextId_cases (nodes : Std.ExtTreeMap NodeId (Node α)) (counter : Nat) :
    nextId nodes counter = (.error .idsExhausted, max counter NodeId.maxNumber) ∨
      ∃ n, counter < n ∧ n ≤ NodeId.maxNumber ∧ NodeId.numbered n ∉ nodes ∧
        nextId nodes counter = (.ok (.numbered n), n) := by
  fun_induction nextId nodes counter with
  | case1 counter below id taken ih =>
    rcases ih with ih | ⟨n, above, bound, free, ih⟩
    · rw [ih]
      exact .inl (by rw [Nat.max_eq_right below, Nat.max_eq_right (Nat.le_of_lt below)])
    · exact .inr ⟨n, Nat.lt_of_succ_lt above, bound, free, ih⟩
  | case2 counter below id free =>
    refine .inr ⟨counter + 1, Nat.lt_succ_self _, below, ?_, rfl⟩
    rwa [Std.ExtTreeMap.contains_iff_mem] at free
  | case3 counter full =>
    exact .inl (by rw [Nat.max_eq_left (Nat.le_of_not_lt full)])

theorem createNode_cases [Scalar α] (g : Graph α) (kind : Kind) (position : Point α) :
    (∃ r, g.startConflict kind = some r ∧ g.createNode kind position = (.error r, g)) ∨
      (g.startConflict kind = none ∧ g.createNode kind position =
        (.error .idsExhausted, { g with counter := max g.counter NodeId.maxNumber })) ∨
      ∃ n, g.startConflict kind = none ∧ g.counter < n ∧ n ≤ NodeId.maxNumber ∧ NodeId.numbered n ∉ g.nodes ∧
        g.createNode kind position = (.ok (.numbered n),
          { g with counter := n }.place ⟨.numbered n, kind, position.clamp, g.palette.defaultData kind⟩) := by
  cases conflict : g.startConflict kind with
  | some r => exact .inl ⟨r, rfl, by rw [createNode, conflict]⟩
  | none =>
    rcases nextId_cases g.nodes g.counter with full | ⟨n, above, bound, free, found⟩
    · refine .inr (.inl ⟨rfl, ?_⟩)
      simp only [createNode, conflict, allocate, full]
    · refine .inr (.inr ⟨n, rfl, above, bound, free, ?_⟩)
      simp only [createNode, conflict, allocate, found]

theorem restoreNode_of [Scalar α] (g : Graph α) {id : NodeId} {kind : Kind} (fresh : id ∉ g.nodes)
    (free : g.startConflict kind = none) (position : Point α) (data : Object) : g.restoreNode id kind position data =
      (.ok (), { g with counter := max g.counter (id.number?.getD 0) }.place ⟨id, kind, position.clamp, data⟩) := by
  rw [restoreNode, if_neg fun taken => fresh ((containsNode_iff g id).1 taken), free]

theorem restoreNode_cases [Scalar α] (g : Graph α) (id : NodeId) (kind : Kind) (position : Point α) (data : Object) :
    (∃ r, g.restoreNode id kind position data = (.error r, g)) ∨
      id ∉ g.nodes ∧ g.startConflict kind = none ∧ g.restoreNode id kind position data =
        (.ok (), { g with counter := max g.counter (id.number?.getD 0) }.place ⟨id, kind, position.clamp, data⟩) := by
  by_cases taken : g.containsNode id = true
  · exact .inl ⟨.idTaken id, by rw [restoreNode, if_pos taken]⟩
  · cases conflict : g.startConflict kind with
    | some r => exact .inl ⟨r, by rw [restoreNode, if_neg taken, conflict]⟩
    | none =>
      have fresh : id ∉ g.nodes := fun hm => taken ((containsNode_iff g id).2 hm)
      exact .inr ⟨fresh, rfl, g.restoreNode_of fresh conflict position data⟩

theorem createEdge_of (g : Graph α) {e : Edge} (apart : e.source ≠ e.target) (new : e ∉ g.edgeSet)
    (source : e.source ∈ g.nodes) (target : e.target ∈ g.nodes) (acyclic : g.wouldCycle e.source e.target = false) :
    g.createEdge e.source e.target e.outcome = (.ok e, g.addEdge e) := by
  have absent : g.containsEdge e = false := Bool.eq_false_iff.2 fun h => new ((containsEdge_iff g e).1 h)
  rw [createEdge, if_neg apart, absent, (containsNode_iff ..).2 source, (containsNode_iff ..).2 target, acyclic]
  rfl

theorem createEdge_cases (g : Graph α) (source target : NodeId) (outcome : Outcome) :
    (∃ r, g.createEdge source target outcome = (.error r, g)) ∨
      source ≠ target ∧ ⟨source, target, outcome⟩ ∉ g.edgeSet ∧ source ∈ g.nodes ∧ target ∈ g.nodes ∧
        g.wouldCycle source target = false ∧
        g.createEdge source target outcome = (.ok ⟨source, target, outcome⟩, g.addEdge ⟨source, target, outcome⟩) := by
  by_cases loop : source = target
  · exact .inl ⟨.selfLoop source, by rw [createEdge, if_pos loop]⟩
  by_cases present : g.containsEdge ⟨source, target, outcome⟩ = true
  · exact .inl ⟨.duplicateEdge ⟨source, target, outcome⟩, by rw [createEdge, if_neg loop, if_pos present]⟩
  cases hs : g.containsNode source with
  | false => exact .inl ⟨.missingEndpoint source, by simp [createEdge, loop, present, hs]⟩
  | true =>
    cases ht : g.containsNode target with
    | false => exact .inl ⟨.missingEndpoint target, by simp [createEdge, loop, present, hs, ht]⟩
    | true =>
      cases cycle : g.wouldCycle source target with
      | true => exact .inl ⟨.cycle source target, by simp [createEdge, loop, present, hs, ht, cycle]⟩
      | false =>
        have new : ⟨source, target, outcome⟩ ∉ g.edgeSet := fun hm => present ((containsEdge_iff ..).2 hm)
        have hs' := (containsNode_iff ..).1 hs
        have ht' := (containsNode_iff ..).1 ht
        exact .inr ⟨loop, new, hs', ht', rfl, g.createEdge_of loop new hs' ht' cycle⟩

theorem deleteEdge_cases (g : Graph α) (e : Edge) :
    (∃ r, g.deleteEdge e = (.error r, g)) ∨ e ∈ g.edgeSet ∧ g.deleteEdge e = (.ok (), g.dropEdge e) := by
  by_cases present : g.containsEdge e = true
  · exact .inr ⟨(containsEdge_iff g e).1 present, by rw [deleteEdge, if_pos present]⟩
  · exact .inl ⟨.unknownEdge e, by rw [deleteEdge, if_neg present]⟩

def cut (g : Graph α) (doomed : List Edge) : Graph α := doomed.foldl dropEdge g

theorem deleteNode_cases (g : Graph α) (id : NodeId) :
    (∃ r, g.deleteNode id = (.error r, g)) ∨
      ∃ n, g.startId ≠ some id ∧ g.node? id = some n ∧ g.deleteNode id = (.ok ⟨n, g.edgesTouching id⟩,
        { g.cut (g.edgesTouching id) with
          outgoing := (g.cut (g.edgesTouching id)).outgoing.forget id
          order := (g.cut (g.edgesTouching id)).order.filter (· ≠ id)
          nodes := (g.cut (g.edgesTouching id)).nodes.erase id }) := by
  by_cases start : g.isStart id = true
  · exact .inl ⟨.startProtected id, by rw [deleteNode, if_pos start]⟩
  · cases found : g.node? id with
    | none => exact .inl ⟨.unknownNode id, by rw [deleteNode, if_neg start, found]⟩
    | some n =>
      refine .inr ⟨n, fun hs => start ?_, rfl, by rw [deleteNode, if_neg start, found]; rfl⟩
      rw [isStart, hs, beq_self_eq_true]

/-- A change to a single node: an unknown one is refused, a known one is amended in place. -/
def Amends {β : Type} (g : Graph α) (id : NodeId) (next : Node α → Node α) (c : Change α β) : Prop :=
  g.node? id = none ∧ c = (.error (.unknownNode id), g) ∨
    ∃ n answer, g.node? id = some n ∧ c = (.ok answer, { g with nodes := g.nodes.insert id (next n) })

theorem moveNode_of_unknown [Scalar α] {g : Graph α} {id : NodeId} (unknown : g.node? id = none) (p : Point α) :
    g.moveNode id p = (.error (.unknownNode id), g) := by
  rw [moveNode, unknown]

theorem moveNode_of [Scalar α] {g : Graph α} {id : NodeId} {n : Node α} (found : g.node? id = some n) (p : Point α) :
    g.moveNode id p = (.ok p.clamp, { g with nodes := g.nodes.insert id { n with position := p.clamp } }) := by
  rw [moveNode, found]

theorem moveNode_amends [Scalar α] (g : Graph α) (id : NodeId) (position : Point α) :
    g.Amends id (fun n => { n with position := position.clamp }) (g.moveNode id position) := by
  cases found : g.node? id with
  | none => exact .inl ⟨found, moveNode_of_unknown found position⟩
  | some n => exact .inr ⟨n, _, found, moveNode_of found position⟩

theorem updateField_amends (g : Graph α) (id : NodeId) (name : String) (v : Value) :
    g.Amends id (fun n => { n with data := n.data.insert name v }) (g.updateField id name v) := by
  cases found : g.node? id with
  | none => exact .inl ⟨found, by rw [updateField, found]⟩
  | some n => exact .inr ⟨n, _, found, by rw [updateField, found]⟩

theorem replaceData_amends (g : Graph α) (id : NodeId) (data : Object) :
    g.Amends id (fun n => { n with data }) (g.replaceData id data) := by
  cases found : g.node? id with
  | none => exact .inl ⟨found, by rw [replaceData, found]⟩
  | some n => exact .inr ⟨n, _, found, by rw [replaceData, found]⟩

/-- Edges are all that is cut. -/
theorem exists_cut_eq (doomed : List Edge) (g : Graph α) : ∃ edgeSet outgoing,
    g.cut doomed = { g with edges := g.edges.filter (· ∉ doomed), edgeSet, outgoing } := by
  induction doomed generalizing g with
  | nil =>
    refine ⟨g.edgeSet, g.outgoing, ?_⟩
    rw [List.filter_eq_self.2 fun e _ => by simp]
    rfl
  | cons e doomed ih =>
    obtain ⟨edgeSet, outgoing, rest⟩ := ih (g.dropEdge e)
    have edges : (g.dropEdge e).edges.filter (· ∉ doomed) = g.edges.filter (· ∉ e :: doomed) := by
      show (g.edges.filter (· ≠ e)).filter (· ∉ doomed) = _
      rw [List.filter_filter]
      exact List.filter_congr fun other _ => by simp [Bool.and_comm]
    exact ⟨edgeSet, outgoing, by rw [cut, List.foldl_cons, ← cut, rest, edges]; rfl⟩

theorem node?_cut (doomed : List Edge) (g : Graph α) (id : NodeId) : (g.cut doomed).node? id = g.node? id := by
  obtain ⟨edgeSet, outgoing, e⟩ := g.exists_cut_eq doomed
  rw [e]
  rfl

theorem startId_cut (doomed : List Edge) (g : Graph α) : (g.cut doomed).startId = g.startId := by
  obtain ⟨edgeSet, outgoing, e⟩ := g.exists_cut_eq doomed
  rw [e]

theorem counter_cut (doomed : List Edge) (g : Graph α) : (g.cut doomed).counter = g.counter := by
  obtain ⟨edgeSet, outgoing, e⟩ := g.exists_cut_eq doomed
  rw [e]

theorem edges_cut (doomed : List Edge) (g : Graph α) : (g.cut doomed).edges = g.edges.filter (· ∉ doomed) := by
  obtain ⟨edgeSet, outgoing, e⟩ := g.exists_cut_eq doomed
  rw [e]

theorem palette_cut (doomed : List Edge) (g : Graph α) : (g.cut doomed).palette = g.palette := by
  obtain ⟨edgeSet, outgoing, e⟩ := g.exists_cut_eq doomed
  rw [e]

/-- No edge touches a node whose edges are cut. -/
theorem untouched_of_cut (g : Graph α) (id : NodeId) :
    ∀ e ∈ (g.cut (g.edgesTouching id)).edges, e.source ≠ id ∧ e.target ≠ id := by
  intro e he
  rw [edges_cut, List.mem_filter] at he
  have spared : ¬ (e.touches id = true) := fun touches =>
    of_decide_eq_true he.2 (List.mem_filter.2 ⟨he.1, touches⟩)
  simpa [Edge.touches] using spared

/-! ## What a change leaves alone -/

theorem edges_createNode [Scalar α] (g : Graph α) (kind : Kind) (position : Point α) :
    (g.createNode kind position).2.edges = g.edges := by
  rcases g.createNode_cases kind position with ⟨r, -, e⟩ | ⟨-, e⟩ | ⟨n, -, -, -, -, e⟩ <;> rw [e]
  rfl

theorem node?_createNode [Scalar α] (g : Graph α) (kind : Kind) (position : Point α) {id : NodeId}
    (present : id ∈ g.nodes) : (g.createNode kind position).2.node? id = g.node? id := by
  rcases g.createNode_cases kind position with ⟨r, -, e⟩ | ⟨-, e⟩ | ⟨n, -, -, -, fresh, e⟩ <;> rw [e]
  · rfl
  · have other : NodeId.numbered n ≠ id := fun same => fresh (same ▸ present)
    rw [node?_place, if_neg other]
    rfl

theorem Amends.edges {β : Type} {g : Graph α} {id : NodeId} {next : Node α → Node α} {c : Change α β}
    (amends : g.Amends id next c) : c.2.edges = g.edges := by
  rcases amends with ⟨-, rfl⟩ | ⟨n, answer, -, rfl⟩ <;> rfl

theorem Amends.order {β : Type} {g : Graph α} {id : NodeId} {next : Node α → Node α} {c : Change α β}
    (amends : g.Amends id next c) : c.2.order = g.order := by
  rcases amends with ⟨-, rfl⟩ | ⟨n, answer, -, rfl⟩ <;> rfl

theorem Amends.counter {β : Type} {g : Graph α} {id : NodeId} {next : Node α → Node α} {c : Change α β}
    (amends : g.Amends id next c) : c.2.counter = g.counter := by
  rcases amends with ⟨-, rfl⟩ | ⟨n, answer, -, rfl⟩ <;> rfl

theorem Amends.startId {β : Type} {g : Graph α} {id : NodeId} {next : Node α → Node α} {c : Change α β}
    (amends : g.Amends id next c) : c.2.startId = g.startId := by
  rcases amends with ⟨-, rfl⟩ | ⟨n, answer, -, rfl⟩ <;> rfl

theorem Amends.palette {β : Type} {g : Graph α} {id : NodeId} {next : Node α → Node α} {c : Change α β}
    (amends : g.Amends id next c) : c.2.palette = g.palette := by
  rcases amends with ⟨-, rfl⟩ | ⟨n, answer, -, rfl⟩ <;> rfl

theorem Amends.node? {β : Type} {g : Graph α} {id : NodeId} {next : Node α → Node α} {c : Change α β}
    (amends : g.Amends id next c) (k : NodeId) :
    c.2.node? k = if id = k then (g.node? k).map next else g.node? k := by
  rcases amends with ⟨absent, rfl⟩ | ⟨n, answer, found, rfl⟩
  · by_cases same : id = k
    · rw [if_pos same, ← same, absent]
      rfl
    · rw [if_neg same]
  · by_cases same : id = k
    · rw [if_pos same, ← same, found, Graph.node?, getElem?_insert_node, if_pos rfl]
      rfl
    · rw [if_neg same, Graph.node?, getElem?_insert_node, if_neg same, Graph.node?]

theorem node?_createEdge (g : Graph α) (source target : NodeId) (outcome : Outcome) (k : NodeId) :
    (g.createEdge source target outcome).2.node? k = g.node? k := by
  rcases g.createEdge_cases source target outcome with ⟨r, e⟩ | ⟨-, -, -, -, -, e⟩ <;> rw [e]
  rfl

theorem mem_createEdge_of_ne (g : Graph α) {source target : NodeId} {outcome : Outcome} {k : Edge}
    (other : ⟨source, target, outcome⟩ ≠ k) : k ∈ (g.createEdge source target outcome).2.edges ↔ k ∈ g.edges := by
  rcases g.createEdge_cases source target outcome with ⟨r, e⟩ | ⟨-, -, -, -, -, e⟩ <;> rw [e]
  show k ∈ g.edges ++ [_] ↔ _
  rw [List.mem_append, List.mem_singleton, or_iff_left other.symm]

theorem node?_deleteEdge (g : Graph α) (e : Edge) (k : NodeId) : (g.deleteEdge e).2.node? k = g.node? k := by
  rcases g.deleteEdge_cases e with ⟨r, e'⟩ | ⟨-, e'⟩ <;> rw [e']
  rfl

theorem edges_deleteNode (g : Graph α) {id : NodeId} {removed : Removed α}
    (done : (g.deleteNode id).1 = .ok removed) :
    (g.deleteNode id).2.edges = g.edges.filter (· ∉ g.edgesTouching id) := by
  rcases g.deleteNode_cases id with ⟨r, e⟩ | ⟨n, -, -, e⟩
  · rw [e] at done
    cases done
  · rw [e, ← edges_cut]

theorem mem_edges_of_deleteNode (g : Graph α) {id : NodeId} {e : Edge} (left : e ∈ (g.deleteNode id).2.edges) :
    e ∈ g.edges := by
  rcases g.deleteNode_cases id with ⟨r, done⟩ | ⟨n, -, -, done⟩ <;> rw [done] at left
  · exact left
  · have left : e ∈ (g.cut (g.edgesTouching id)).edges := left
    rw [edges_cut] at left
    exact (List.mem_filter.1 left).1

theorem node?_deleteNode (g : Graph α) {id k : NodeId} (other : id ≠ k) :
    (g.deleteNode id).2.node? k = g.node? k := by
  rcases g.deleteNode_cases id with ⟨r, e⟩ | ⟨n, -, -, e⟩ <;> rw [e]
  rw [node?, getElem?_erase_node, if_neg other]
  exact node?_cut _ g k

theorem startId_deleteNode (g : Graph α) (id : NodeId) : (g.deleteNode id).2.startId = g.startId := by
  rcases g.deleteNode_cases id with ⟨r, e⟩ | ⟨n, -, -, e⟩ <;> rw [e]
  exact startId_cut _ g

theorem counter_deleteNode (g : Graph α) (id : NodeId) : (g.deleteNode id).2.counter = g.counter := by
  rcases g.deleteNode_cases id with ⟨r, e⟩ | ⟨n, -, -, e⟩ <;> rw [e]
  exact counter_cut _ g

theorem startId_deleteEdge (g : Graph α) (e : Edge) : (g.deleteEdge e).2.startId = g.startId := by
  rcases g.deleteEdge_cases e with ⟨r, e'⟩ | ⟨-, e'⟩ <;> rw [e']
  rfl

theorem counter_deleteEdge (g : Graph α) (e : Edge) : (g.deleteEdge e).2.counter = g.counter := by
  rcases g.deleteEdge_cases e with ⟨r, e'⟩ | ⟨-, e'⟩ <;> rw [e']
  rfl

/-! ## Soundness -/

section Soundness

variable [Scalar α] {g : Graph α}

/-- **The cycle check looks for a path of edges** from the target of an edge to its source. -/
theorem Sound.wouldCycle_iff (h : g.Sound) (source target : NodeId) :
    g.wouldCycle source target = true ↔ Relation.ReflTransGen g.Next target source := by
  rw [wouldCycle, Adjacency.leadsTo_iff, h.tabulated.next_eq]

theorem Sound.amends {β : Type} (h : g.Sound) {id : NodeId} {next : Node α → Node α} {c : Change α β}
    (amends : g.Amends id next c) (same : ∀ n, (next n).id = n.id) (start : ∀ n, (next n).isStart = n.isStart)
    (clamped : ∀ n, (∃ p : Point α, n.position = p.clamp) → ∃ p : Point α, (next n).position = p.clamp) :
    c.2.Sound := by
  rcases amends with ⟨-, rfl⟩ | ⟨n, answer, found, rfl⟩
  · exact h
  · exact h.amend found (same n) (start n) (clamped n (h.clamped id n found))

theorem Sound.createNode (h : g.Sound) (kind : Kind) (position : Point α) : (g.createNode kind position).2.Sound := by
  rcases g.createNode_cases kind position with ⟨r, -, e⟩ | ⟨-, e⟩ | ⟨n, free, -, -, fresh, e⟩ <;> rw [e]
  · exact h
  · exact h.withCounter _
  · exact (h.withCounter n).place _ fresh (startId_of_startConflict free) ⟨position, rfl⟩

theorem Sound.restoreNode (h : g.Sound) (id : NodeId) (kind : Kind) (position : Point α) (data : Object) :
    (g.restoreNode id kind position data).2.Sound := by
  rcases g.restoreNode_cases id kind position data with ⟨r, e⟩ | ⟨fresh, free, e⟩ <;> rw [e]
  · exact h
  · exact (h.withCounter _).place _ fresh (startId_of_startConflict free) ⟨position, rfl⟩

theorem Sound.moveNode (h : g.Sound) (id : NodeId) (position : Point α) : (g.moveNode id position).2.Sound :=
  h.amends (g.moveNode_amends id position) (fun _ => rfl) (fun _ => rfl) fun _ _ => ⟨position, rfl⟩

theorem Sound.updateField (h : g.Sound) (id : NodeId) (name : String) (v : Value) :
    (g.updateField id name v).2.Sound :=
  h.amends (g.updateField_amends id name v) (fun _ => rfl) (fun _ => rfl) fun _ p => p

theorem Sound.replaceData (h : g.Sound) (id : NodeId) (data : Object) : (g.replaceData id data).2.Sound :=
  h.amends (g.replaceData_amends id data) (fun _ => rfl) (fun _ => rfl) fun _ p => p

theorem Sound.createEdge (h : g.Sound) (source target : NodeId) (outcome : Outcome) :
    (g.createEdge source target outcome).2.Sound := by
  rcases g.createEdge_cases source target outcome with ⟨r, e⟩ | ⟨-, new, hs, ht, apart, e⟩ <;> rw [e]
  · exact h
  · refine h.addEdge _ (fun hm => new ((h.mem_edgeSet _).2 hm)) hs ht fun path => ?_
    rw [(h.wouldCycle_iff source target).2 path] at apart
    cases apart

theorem Sound.mem_deleteEdge (h : g.Sound) (e k : Edge) : k ∈ (g.deleteEdge e).2.edges ↔ e ≠ k ∧ k ∈ g.edges := by
  by_cases present : g.containsEdge e = true
  · rw [Graph.deleteEdge, if_pos present]
    show k ∈ g.edges.filter (· ≠ e) ↔ _
    rw [List.mem_filter, decide_eq_true_eq, and_comm, ne_comm]
  · have absent : e ∉ g.edges := fun hm => present ((containsEdge_iff g e).2 ((h.mem_edgeSet e).2 hm))
    rw [Graph.deleteEdge, if_neg present]
    exact ⟨fun hk => ⟨fun same => absent (same ▸ hk), hk⟩, (·.2)⟩

theorem Sound.deleteEdge (h : g.Sound) (e : Edge) : (g.deleteEdge e).2.Sound := by
  rcases g.deleteEdge_cases e with ⟨r, e'⟩ | ⟨-, e'⟩ <;> rw [e']
  · exact h
  · exact h.dropEdge e

theorem Sound.cut (h : g.Sound) (doomed : List Edge) : (g.cut doomed).Sound := by
  induction doomed generalizing g with
  | nil => exact h
  | cons e doomed ih => exact ih (h.dropEdge e)

theorem Sound.deleteNode (h : g.Sound) (id : NodeId) : (g.deleteNode id).2.Sound := by
  rcases g.deleteNode_cases id with ⟨r, e⟩ | ⟨n, kept, -, e⟩ <;> rw [e]
  · exact h
  · exact (h.cut _).takeOut id (by rwa [startId_cut]) (g.untouched_of_cut id)

theorem settle_snd (placement : PlacementSettings α) (acc : List (NodeId × Point α) × Graph α)
    (n : NodeId × Nat × Nat) :
    (Layout.settle placement acc n).2 = (acc.2.moveNode n.1 (Layout.cell placement n.2.1 n.2.2)).2 := by
  rw [Layout.settle]
  split
  · next e => rw [e]
  · next e => rw [e]

/-- **What every move of a node keeps, a layout keeps**: it only moves nodes. -/
theorem arrange_induction {P : Graph α → Prop} (moved : ∀ g id position, P g → P (g.moveNode id position).2)
    (placement : PlacementSettings α) (h : P g) : P (Layout.arrange g placement).2 := by
  rw [Layout.arrange]
  split
  · exact h
  · refine List.foldlRecOn (motive := fun acc => P acc.2) _ (Layout.settle placement) (b := ([], g)) h
      fun acc ha n _ => ?_
    rw [settle_snd]
    exact moved _ _ _ ha

theorem Sound.arrange (h : g.Sound) (placement : PlacementSettings α) : (Layout.arrange g placement).2.Sound :=
  arrange_induction (fun _ id position h => h.moveNode id position) placement h

theorem Sound.clear (_ : g.Sound) : g.clear.Sound := sound_empty g.palette

theorem sound_withStart (palette : Palette) (position : Point α) : (withStart palette position).Sound :=
  ((sound_empty palette).withCounter 1).place _ (by simp [empty]) (fun _ => rfl) ⟨position, rfl⟩

end Soundness

end Workflow.Graph
