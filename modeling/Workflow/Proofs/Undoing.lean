import Workflow.Proofs.Grants
/-!
# Undoing a deletion

A node that is deleted takes the edges that touch it along, and all else stays (`deleteNode_of`).  What is answered is
enough to undo it: the node fits back in, and its edges can be put in together in any order, because with the edges that
were left they are the edges there were (`Sound.joinable_of_perm`).
-/
namespace Workflow.Graph

open Relation (TransGen)

variable {α : Type} {g : Graph α}

/-! ## What a deletion leaves -/

/-- **A deletion takes out the node and the edges that touch it**, and answers them. -/
theorem deleteNode_of {id : NodeId} {n : Node α} (found : g.node? id = some n) (other : g.startId ≠ some id) :
    ∃ edgeSet outgoing, g.deleteNode id = (.ok ⟨n, g.edges.filter (·.touches id)⟩,
      { g with
        nodes := g.nodes.erase id
        order := g.order.filter (· ≠ id)
        edges := g.edges.filter (!·.touches id)
        edgeSet
        outgoing }) := by
  have start : ¬ g.isStart id = true := by rwa [isStart, beq_iff_eq]
  have spared : g.edges.filter (· ∉ g.edgesTouching id) = g.edges.filter (!·.touches id) := by
    refine List.filter_congr fun e listed => ?_
    simp [edgesTouching, listed]
  obtain ⟨edgeSet, outgoing, cut⟩ := g.exists_cut_eq (g.edgesTouching id)
  rw [spared, Graph.cut] at cut
  refine ⟨edgeSet, outgoing.forget id, ?_⟩
  simp only [deleteNode, if_neg start, found, cut]
  rfl

variable [Scalar α]

theorem Sound.clamped_eq (h : g.Sound) {id : NodeId} {n : Node α} (found : g.node? id = some n) : n.clamped = n := by
  obtain ⟨p, place⟩ := h.clamped id n found
  rw [Node.clamped, place, Point.clamp_clamp, ← place]

theorem Sound.startId_ne_of (h : g.Sound) {id : NodeId} {n : Node α} (found : g.node? id = some n)
    (other : n.isStart = false) : g.startId ≠ some id := by
  intro noted
  obtain ⟨m, there, start⟩ := (h.startId_iff id).1 noted
  rw [found] at there
  cases there
  rw [other] at start
  cases start

/-! ## Putting it back -/

/-- Edges that make, with those that are there, the edges of a sound store can be put in together. -/
theorem Sound.joinable_of_perm {whole : Graph α} (h : whole.Sound) {l : List Edge} (nodes : g.nodes = whole.nodes)
    (edges : (g.edges ++ l).Perm whole.edges) : g.Joinable l where
  nodup := edges.nodup_iff.2 h.edges_nodup
  ends e he := by
    rw [nodes]
    exact h.ends e (edges.mem_iff.1 (List.mem_append_right _ he))
  acyclic id cycle := by
    refine h.acyclic id (TransGen.mono ?_ _ _ cycle)
    rintro u v ⟨e, he, ends⟩
    exact ⟨e, edges.mem_iff.1 he, ends⟩

/-- **The node is put back where it was**, under a number that is not above the counter. -/
theorem restore_deleted (h : g.Sound) (numbered : g.Numbered) {id : NodeId} {n : Node α} (found : g.node? id = some n)
    (other : n.isStart = false) :
    (g.deleteNode id).2.Fits n ∧ ((g.deleteNode id).2.perform (.restore n)).2.nodes = g.nodes ∧
      ((g.deleteNode id).2.perform (.restore n)).2.edges = g.edges.filter (!·.touches id) ∧
      ((g.deleteNode id).2.perform (.restore n)).2.startId = g.startId ∧
      ((g.deleteNode id).2.perform (.restore n)).2.counter = g.counter := by
  obtain ⟨edgeSet, outgoing, deleted⟩ := deleteNode_of found (h.startId_ne_of found other)
  obtain rfl : n.id = id := h.id_of_node id n found
  have fits : (g.deleteNode n.id).2.Fits n := by
    rw [deleted]
    refine ⟨fun there => ((mem_erase_node ..).1 there).1 rfl, fun start => ?_⟩
    rw [other] at start
    cases start
  have number : n.id.number?.getD 0 ≤ g.counter := by
    cases read : n.id.number? with
    | none => exact Nat.zero_le _
    | some m => exact numbered n.id ((g.mem_nodes_iff n.id).2 ⟨n, found⟩) m read
  rw [perform_restore fits, h.clamped_eq found, deleted]
  refine ⟨deleted ▸ fits, insert_erase_node found, rfl, ?_, Nat.max_eq_left number⟩
  show (if n.isStart then some n.id else g.startId) = g.startId
  rw [other]
  rfl

/-- **A deletion answers what is needed to undo it.**  Any node of a reachable store but the start node can be deleted;
the answer holds the node as it was and the edges that touched it, in their order, and all else stays as it is and in
its order.  Putting the node back and then the edges, in any order, is granted at every step, and leaves the nodes, the
set of edges, the start node and the counter there were. -/
theorem deletion_can_be_undone (reached : g.Reachable) {id : NodeId} {n : Node α} (found : g.node? id = some n)
    (other : n.isStart = false) : ∃ removed, (g.deleteNode id).1 = .ok removed ∧ removed.node = n ∧
      removed.edges = g.edges.filter (·.touches id) ∧
      (g.deleteNode id).2.order = g.order.filter (· ≠ id) ∧
      (∀ k, (g.deleteNode id).2.node? k = if id = k then none else g.node? k) ∧
      (g.deleteNode id).2.edges = g.edges.filter (!·.touches id) ∧
      (g.deleteNode id).2.startId = g.startId ∧ (g.deleteNode id).2.counter = g.counter ∧
      ∀ l : List Edge, l.Perm removed.edges →
        let undo : List (Request α) := .restore removed.node :: l.map .connect
        (g.deleteNode id).2.Grants undo ∧ ((g.deleteNode id).2.after undo).nodes = g.nodes ∧
          ((g.deleteNode id).2.after undo).edgeSet = g.edgeSet ∧
          ((g.deleteNode id).2.after undo).startId = g.startId ∧
          ((g.deleteNode id).2.after undo).counter = g.counter := by
  have h := reached.sound
  obtain ⟨edgeSet, outgoing, deleted⟩ := deleteNode_of found (h.startId_ne_of found other)
  obtain ⟨fits, nodes, edges, startId, counter⟩ := restore_deleted h reached.numbered found other
  refine ⟨⟨n, g.edges.filter (·.touches id)⟩, by rw [deleted], rfl, rfl, by rw [deleted], fun k => ?_, by rw [deleted],
    g.startId_deleteNode id, g.counter_deleteNode id, fun l perm => ?_⟩
  · rw [deleted]
    exact getElem?_erase_node g.nodes id k
  · let back := ((g.deleteNode id).2.perform (.restore n)).2
    have sound : back.Sound := (h.deleteNode id).perform (.restore n)
    have all : (back.edges ++ l).Perm g.edges := by
      rw [edges]
      refine List.perm_append_comm.trans ((perm.append_right _).trans ?_)
      exact List.filter_append_perm (·.touches id) g.edges
    have granted : back.Grants (l.map .connect) :=
      (sound.grants_connects_iff l).2 (h.joinable_of_perm nodes all)
    obtain ⟨edgeSet, outgoing, undone⟩ := after_connects granted
    have same : (back.after (l.map .connect)).edgeSet = g.edgeSet := by
      refine (sound.after _).edgeSet_eq h ?_
      rw [undone]
      exact all
    refine ⟨⟨(granted_restore_iff n).2 fits, granted⟩, ?_, same, ?_, ?_⟩
    · exact (congrArg Graph.nodes undone).trans nodes
    · exact (congrArg Graph.startId undone).trans startId
    · exact (congrArg Graph.counter undone).trans counter

theorem deletion_can_be_undone_between_others : ∃ (g : Graph Float) (n : Node Float), g.Reachable ∧
    g.node? (.numbered 2) = some n ∧ n.isStart = false ∧
    let undo : List (Request Float) := .restore n ::
      [⟨.numbered 2, .numbered 3, .error⟩, ⟨.numbered 1, .numbered 2, .success⟩].map .connect
    (g.deleteNode (.numbered 2)).2.Grants undo ∧ ((g.deleteNode (.numbered 2)).2.after undo).nodes = g.nodes ∧
      ((g.deleteNode (.numbered 2)).2.after undo).edgeSet = g.edgeSet := by
  let requests : List (Request Float) := [.createNode (.action "click") ⟨-1, 3⟩, .createNode (.action "click") ⟨40, 3⟩,
    .connect ⟨.numbered 1, .numbered 2, .success⟩, .connect ⟨.numbered 1, .numbered 3, .success⟩,
    .connect ⟨.numbered 2, .numbered 3, .error⟩]
  let g : Graph Float := (Graph.withStart ⟨∅⟩ ⟨5, -5⟩).after requests
  have reached : g.Reachable := (Reachable.withStart ⟨∅⟩ ⟨5, -5⟩).after requests
  obtain ⟨n, found⟩ := (g.mem_nodes_iff (.numbered 2)).1 (by decide +kernel)
  have action : (g.node? (.numbered 2)).all (!·.isStart) = true := by decide +kernel
  have other : n.isStart = false := by simpa [found] using action
  obtain ⟨removed, -, node, edges, -, -, -, -, -, undone⟩ := deletion_can_be_undone reached found other
  have touching : g.edges.filter (·.touches (.numbered 2)) =
      [⟨.numbered 1, .numbered 2, .success⟩, ⟨.numbered 2, .numbered 3, .error⟩] := by decide +kernel
  obtain ⟨granted, nodes, edgeSet, -⟩ := undone _ ((List.Perm.swap ..).trans (.of_eq (edges.trans touching).symm))
  exact ⟨g, n, reached, found, other, node ▸ granted, node ▸ nodes, node ▸ edgeSet⟩

end Workflow.Graph
