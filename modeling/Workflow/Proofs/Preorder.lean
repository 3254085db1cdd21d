import Workflow.Proofs.Upgrades
/-!
# The run order is a preorder

A sequential run walks a graph with a stack, on which a node may wait several times, and leaves a node out when it
comes off the stack again.  What it comes by is the order of the plain recursion: enter a node, then what its success
edges lead to, then what its error edges lead to, and pass over what was entered before (`Graph.preorder`).

The stack is what the recursion still has to do.  So the walk from some nodes with more below them on the stack is the
recursion over these nodes first and a walk from the rest after that, whatever the rest is (`append_runOrder`).
-/
namespace Workflow.Graph

open Json (Value)

variable {α : Type}

/-! ## The recursion -/

/-- What a node goes on to: the targets of its success edges, then those of its error edges. -/
def onward (g : Graph α) (id : NodeId) : List NodeId :=
  ((g.edges.filter fun e => e.source = id ∧ e.outcome = .success) ++
    g.edges.filter fun e => e.source = id ∧ e.outcome = .error).map (·.target)

/-- The number of edges that leave nodes not entered yet. -/
def ahead (g : Graph α) (entered : List NodeId) : Nat := g.edges.countP fun e => e.source ∉ entered

theorem ahead_enter (g : Graph α) {entered : List NodeId} {id : NodeId} (new : id ∉ entered) :
    g.ahead (entered ++ [id]) + (g.onward id).length = g.ahead entered := by
  simp only [ahead, onward, List.length_map, List.length_append]
  induction g.edges with
  | nil => rfl
  | cons e edges ih =>
    simp only [List.countP_cons, List.filter_cons]
    by_cases leaves : e.source = id
    · subst leaves
      cases e.outcome <;> simp [new] at ih ⊢ <;> omega
    · by_cases old : e.source ∈ entered <;> simp [leaves, old] at ih ⊢ <;> omega

theorem ahead_later (g : Graph α) {entered : List NodeId} {id : NodeId} (new : id ∉ entered)
    (later : { later : List NodeId // entered ++ [id] ⊆ later }) : g.ahead later.1 ≤ g.ahead entered := by
  have fewer : g.ahead later.1 ≤ g.ahead (entered ++ [id]) :=
    List.countP_mono_left fun _ _ left => decide_eq_true fun old => of_decide_eq_true left (later.2 old)
  have := g.ahead_enter new
  omega

/-- Enters some nodes in turn, each with all it goes on to before the next, and passes over those that were entered
before.  The nodes entered are kept in the order in which they were. -/
def enterAll (g : Graph α) (entered : List NodeId) : List NodeId → { later : List NodeId // entered ⊆ later }
  | [] => ⟨entered, List.Subset.refl _⟩
  | id :: ids =>
    if _ : id ∈ entered then enterAll g entered ids
    else
      let below := enterAll g (entered ++ [id]) (g.onward id)
      let rest := enterAll g below.1 ids
      ⟨rest.1, fun _ old => rest.2 (below.2 (List.mem_append_left _ old))⟩
termination_by ids => g.ahead entered + ids.length
decreasing_by
  · simp
  · next new =>
    have := g.ahead_enter new
    simp only [List.length_cons]
    omega
  · next new =>
    exact Nat.add_lt_add_of_le_of_lt (g.ahead_later new _) (Nat.lt_succ_self ids.length)

/-- The nodes that the recursion enters from a node, in order. -/
def preorder (g : Graph α) (start : NodeId) : List NodeId := (g.enterAll [] [start]).1

/-! ## The walk and the recursion -/

theorem insert_ofList (entered : List NodeId) (id : NodeId) :
    (.ofList entered : NodeSet).insert id = .ofList (entered ++ [id]) := by
  refine Std.ExtTreeSet.ext_mem fun v => ?_
  rw [Adjacency.mem_insert_nodeSet, Std.ExtTreeSet.mem_ofList, Std.ExtTreeSet.mem_ofList]
  simp [or_comm]

/-- **The stack is what the recursion still has to do.** -/
theorem append_runOrder (g : Graph α) (same : ∀ id, g.outgoing.branches id = g.onward id)
    (entered ids rest : List NodeId) : entered ++ g.outgoing.runOrder (.ofList entered) (ids ++ rest) =
      (g.enterAll entered ids).1 ++ g.outgoing.runOrder (.ofList (g.enterAll entered ids).1) rest := by
  induction entered, ids using enterAll.induct g generalizing rest with
  | case1 entered => rw [enterAll, List.nil_append]
  | case2 entered id ids old ih =>
    have visited : id ∈ (.ofList entered : NodeSet) := by simpa using old
    rw [List.cons_append, Adjacency.runOrder, dif_pos visited, enterAll, dif_pos old, ih]
  | case3 entered id ids new below ihBelow ihRest =>
    have unvisited : id ∉ (.ofList entered : NodeSet) := by simpa using new
    -- what the node goes on to is stacked above the nodes that were waiting, which the recursion comes to last
    rw [List.cons_append, Adjacency.runOrder, dif_neg unvisited, insert_ofList, same, List.append_cons, ihBelow,
      ihRest, enterAll, dif_neg new]

variable [Scalar α] {g : Graph α} {start : NodeId}

theorem Sound.branches_eq (h : g.Sound) (id : NodeId) : g.outgoing.branches id = g.onward id := by
  have whole : g.outgoing.successors id = g.edges.filter (·.source = id) := h.successors_eq id
  have part (outcome : Outcome) : (g.edges.filter (·.source = id)).filter (·.outcome == outcome) =
      g.edges.filter fun e => e.source = id ∧ e.outcome = outcome := by
    rw [List.filter_filter]
    exact List.filter_congr fun e _ => by simp [Bool.and_comm, Bool.decide_and, beq_eq_decide]
  rw [Adjacency.branches, whole, part, part, onward]

/-- **A sequential run comes by the nodes in the order of the recursion.** -/
theorem Sound.runOrder_eq_preorder (h : g.Sound) (noted : g.startId = some start) : g.runOrder = g.preorder start := by
  have empty : (.ofList ([] : List NodeId) : NodeSet) = ∅ := rfl
  have whole := g.append_runOrder h.branches_eq [] [start] []
  rw [List.nil_append, List.append_nil, Adjacency.runOrder, List.append_nil, empty] at whole
  rw [runOrder, noted]
  exact whole

theorem Sound.map_id_runNodes (h : g.Sound) (noted : g.startId = some start) :
    g.runNodes.map (·.id) = g.runOrder.filter (· ≠ start) := by
  have nodes : g.runNodes = (g.runOrder.filter (· ≠ start)).filterMap g.node? := by
    rw [runNodes, List.filter_filterMap, List.filterMap_filter]
    refine List.filterMap_congr fun id _ => ?_
    cases found : g.node? id with
    | none => simp
    | some n =>
      have isStart := h.isStart_iff noted found
      have ordinary : n.isStart = decide (id = start) := Bool.eq_iff_iff.2 (by simpa using isStart)
      by_cases same : id = start <;> simp [ordinary, same]
  rw [nodes]
  refine h.map_id_filterMap fun id listed => ?_
  have path := (h.mem_runOrder noted id).1 (List.mem_filter.1 listed).1
  exact h.mem_of_path path (h.start_mem noted)

/-- **Steps come in preorder.**  The nodes whose steps a graph has are those that the recursion from the start node
enters, in its order and without the start node, and the step of a node says its kind under `type`, all its data but
what stands under that name, and nothing else. -/
theorem steps_in_preorder (g : Graph α) (reached : g.Reachable) {start : NodeId} (noted : g.startId = some start) :
    ∃ nodes : List (Node α), g.steps = nodes.map Node.step ∧
      nodes.map (·.id) = (g.preorder start).filter (· ≠ start) ∧
      (∀ n ∈ nodes, g.node? n.id = some n ∧ n.isStart = false) ∧
      ∀ n ∈ nodes, ∀ name, n.step.get? name =
        if name = "type" then some (.string n.kind.tag) else n.data.get? name := by
  have h := reached.sound
  refine ⟨g.runNodes, g.steps_eq, ?_, fun n hn => ?_, fun n _ => n.get?_step⟩
  · rw [h.map_id_runNodes noted, h.runOrder_eq_preorder noted]
  · rw [runNodes, List.mem_filter, List.mem_filterMap] at hn
    obtain ⟨⟨id, -, found⟩, ordinary⟩ := hn
    refine ⟨?_, by simpa using ordinary⟩
    rwa [h.id_of_node id n found]

theorem steps_in_preorder_of_joining_branches : ∃ g : Graph Float, g.Reachable ∧ g.startId = some (.numbered 1) ∧
    ∃ nodes : List (Node Float), g.steps = nodes.map Node.step ∧
      nodes.map (·.id) = [.numbered 3, .numbered 4, .numbered 2] := by
  let g : Graph Float := (withStart ⟨∅⟩ ⟨5, 7⟩).after [.createNode (.action "click") ⟨1, 2⟩,
    .createNode (.action "wait") ⟨3, 4⟩, .createNode (.action "type") ⟨5, 6⟩,
    .createEdge (.numbered 1) (.numbered 2) .error, .createEdge (.numbered 1) (.numbered 3) .success,
    .createEdge (.numbered 3) (.numbered 4) .error, .createEdge (.numbered 4) (.numbered 2) .success]
  have reached : g.Reachable := (Reachable.withStart ⟨∅⟩ ⟨5, 7⟩).after _
  have noted : g.startId = some (.numbered 1) := by decide +kernel
  have order : (g.preorder (.numbered 1)).filter (· ≠ .numbered 1) = [.numbered 3, .numbered 4, .numbered 2] := by
    decide +kernel
  obtain ⟨nodes, steps, ids, -, -⟩ := steps_in_preorder g reached noted
  exact ⟨g, reached, noted, nodes, steps, ids.trans order⟩

end Workflow.Graph
