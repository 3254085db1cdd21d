import Workflow.Proofs.Accounts
/-!
# The order of records

An import that leaves nothing out has read every record and asked for all of them in turn, so what it asked for was
granted on conditions that mind no order.  Its records can come in any other order, then: nothing is left out again,
and the same nodes and edges come out.
-/
namespace Workflow

open Json (ReadError Value)
open Workflow.Graph (Request)

namespace Import

/-! ## Imports that leave nothing out -/

section

variable {ρ : Type} {record : RecordKind} {read : Value → Except ReadError ρ} {request : ρ → Request Float}
  {step : Progress → Value × Nat → Progress}

def recordsOf (read : Value → Except ReadError ρ) (items : List Value) : List ρ :=
  items.filterMap fun v => (read v).toOption

def Readable (read : Value → Except ReadError ρ) (items : List Value) : Prop := ∀ v ∈ items, ∃ r, read v = .ok r

theorem recordsOf_cons {v : Value} {r : ρ} (value : read v = .ok r) (items : List Value) :
    recordsOf read (v :: items) = r :: recordsOf read items := by
  rw [recordsOf, List.filterMap_cons, value]
  rfl

theorem length_skip (p : Progress) (record : RecordKind) (index : Nat) (reason : SkipReason) :
    (p.skip record index reason).skipped.length = p.skipped.length + 1 := by
  simp [Progress.skip]

theorem Tolerant.length_skipped_le (tolerant : Tolerant record read request step) (items : List (Value × Nat))
    (p : Progress) : p.skipped.length ≤ (items.foldl step p).skipped.length := by
  induction items generalizing p with
  | nil => exact Nat.le_refl _
  | cons item items ih =>
    have rest := ih (step p item)
    rw [List.foldl_cons]
    rcases tolerant p item.1 item.2 with ⟨r, -, -, done⟩ | ⟨-, reason, done⟩
    · rwa [done] at rest ⊢
    · have := length_skip p record item.2 reason
      rw [done] at rest ⊢
      omega

/-- **A fold that skips nothing read every item, and was granted all of them in turn.** -/
theorem Tolerant.of_lossless (tolerant : Tolerant record read request step) (items : List Value) (index : Nat)
    (p : Progress) (lossless : ((items.zipIdx index).foldl step p).skipped.length = p.skipped.length) :
    Readable read items ∧ p.graph.Grants ((recordsOf read items).map request) := by
  induction items generalizing index p with
  | nil => exact ⟨nofun, trivial⟩
  | cons v items ih =>
    rw [List.zipIdx_cons, List.foldl_cons] at lossless
    rcases tolerant p v index with ⟨r, value, granted, done⟩ | ⟨-, reason, done⟩
    · rw [done] at lossless
      obtain ⟨readable, rest⟩ := ih (index + 1) _ lossless
      rw [recordsOf_cons value]
      refine ⟨fun w hw => ?_, granted, rest⟩
      rcases List.mem_cons.1 hw with rfl | hw
      · exact ⟨r, value⟩
      · exact readable w hw
    · have more := tolerant.length_skipped_le (items.zipIdx (index + 1)) (step p (v, index))
      have := length_skip p record index reason
      rw [done] at more lossless
      omega

/-- **What is read and granted in turn is rebuilt**, and nothing is skipped. -/
theorem Tolerant.foldl_of_grants (tolerant : Tolerant record read request step) (items : List Value) (index : Nat)
    (p : Progress) (readable : Readable read items) (granted : p.graph.Grants ((recordsOf read items).map request)) :
    (items.zipIdx index).foldl step p =
      { p with graph := p.graph.after ((recordsOf read items).map request) } := by
  induction items generalizing index p with
  | nil => rfl
  | cons v items ih =>
    obtain ⟨r, value⟩ := readable v List.mem_cons_self
    rw [recordsOf_cons value] at granted ⊢
    rw [List.zipIdx_cons, List.foldl_cons]
    rcases tolerant p v index with ⟨r', value', -, done⟩ | ⟨refused, -⟩
    · have same : r' = r := Except.ok.inj (value'.symm.trans value)
      rw [done, same, ih (index + 1) _ (fun w hw => readable w (List.mem_cons_of_mem v hw)) granted.2]
      rfl
    · exact absurd granted.1 (refused r value)

end

def graphOf (palette : Palette) (nodes connections : List Value) : Graph Float :=
  rebuilt palette (recordsOf readNodeRecord nodes) (recordsOf readEdge connections)

/-- Everything in a visual document is rebuilt. -/
structure Lossless (palette : Palette) (nodes connections : List Value) : Prop where
  readableNodes : Readable readNodeRecord nodes
  readableConnections : Readable readEdge connections
  apart : ((recordsOf readNodeRecord nodes).map NodeRecord.node).Pairwise Node.Apart
  connected : (graphOf palette nodes []).Grants ((recordsOf readEdge connections).map .connect)

theorem grants_restores {palette : Palette} (l : List NodeRecord) :
    (Graph.empty palette).Grants (l.map fun r => .restore r.node) ↔ (l.map NodeRecord.node).Pairwise Node.Apart := by
  rw [map_restore, Graph.grants_restores_empty]

theorem lossless_of_visual {palette : Palette} {v : Value} (complete : (visual palette v).skipped = []) :
    Lossless palette (itemsOf (v.member? "nodes")) (itemsOf (v.member? "connections")) := by
  let start : Progress := ⟨.empty palette, []⟩
  let half := (itemsOf (v.member? "nodes")).zipIdx.foldl node start
  have whole : ((itemsOf (v.member? "connections")).zipIdx.foldl connection half).skipped = [] := complete
  have fewer := tolerant_connection.length_skipped_le (itemsOf (v.member? "connections")).zipIdx half
  rw [whole] at fewer
  have noneHalf : half.skipped = [] := List.length_eq_zero_iff.1 (Nat.le_zero.1 fewer)
  obtain ⟨nodes, restored⟩ := tolerant_node.of_lossless _ 0 start (by rw [noneHalf])
  have base := tolerant_node.foldl_of_grants _ 0 start nodes restored
  obtain ⟨connections, connected⟩ := tolerant_connection.of_lossless _ 0 half (by rw [whole, noneHalf])
  rw [show half.graph = _ from congrArg Progress.graph base] at connected
  exact ⟨nodes, connections, (grants_restores _).1 restored, connected⟩

theorem visual_of_lossless {palette : Palette} {v : Value}
    (h : Lossless palette (itemsOf (v.member? "nodes")) (itemsOf (v.member? "connections"))) :
    visual palette v = ⟨graphOf palette (itemsOf (v.member? "nodes")) (itemsOf (v.member? "connections")),
      .visual (versionOf v), []⟩ := by
  have nodes := tolerant_node.foldl_of_grants _ 0 ⟨.empty palette, []⟩ h.readableNodes ((grants_restores _).2 h.apart)
  have connections := tolerant_connection.foldl_of_grants _ 0
    ⟨graphOf palette (itemsOf (v.member? "nodes")) [], []⟩ h.readableConnections h.connected
  have half : (itemsOf (v.member? "nodes")).zipIdx.foldl node ⟨.empty palette, []⟩ =
      ⟨graphOf palette (itemsOf (v.member? "nodes")) [], []⟩ := nodes
  simp only [visual, half, connections]
  rfl

/-! ## Records in another order -/

section

variable {palette : Palette} {nodes connections nodes' connections' : List Value}

theorem sound_graphOf : (graphOf palette nodes connections).Sound := sound_rebuilt

theorem Lossless.nodes_eq (h : Lossless palette nodes connections) (h' : Lossless palette nodes' connections')
    (perm : nodes.Perm nodes') :
    (graphOf palette nodes connections).nodes = (graphOf palette nodes' connections').nodes ∧
      (graphOf palette nodes connections).startId = (graphOf palette nodes' connections').startId := by
  refine sound_graphOf.nodes_eq sound_graphOf ?_
  rw [graphOf, graphOf, (rebuilt_eq h.apart h.connected).1, (rebuilt_eq h'.apart h'.connected).1]
  exact (perm.filterMap _).map _

theorem Lossless.edges_perm (h : Lossless palette nodes connections) (h' : Lossless palette nodes' connections')
    (perm : connections.Perm connections') :
    (graphOf palette nodes connections).edges.Perm (graphOf palette nodes' connections').edges := by
  rw [graphOf, graphOf, (rebuilt_eq h.apart h.connected).2.1, (rebuilt_eq h'.apart h'.connected).2.1]
  exact perm.filterMap _

theorem Lossless.counter_eq (h : Lossless palette nodes connections) (h' : Lossless palette nodes' connections')
    (perm : nodes.Perm nodes') :
    (graphOf palette nodes connections).counter = (graphOf palette nodes' connections').counter := by
  rw [graphOf, graphOf, (rebuilt_eq h.apart h.connected).2.2, (rebuilt_eq h'.apart h'.connected).2.2]
  exact ((perm.filterMap _).map _).foldl_eq' (fun n _ m _ counter => by omega) 0

/-- **What leaves nothing out leaves nothing out in any other order.** -/
theorem Lossless.perm (h : Lossless palette nodes connections) (sameNodes : nodes.Perm nodes')
    (sameConnections : connections.Perm connections') : Lossless palette nodes' connections' := by
  have records : ((recordsOf readNodeRecord nodes).map NodeRecord.node).Perm
      ((recordsOf readNodeRecord nodes').map NodeRecord.node) := (sameNodes.filterMap _).map _
  have before : Lossless palette nodes [] := ⟨h.readableNodes, nofun, h.apart, trivial⟩
  have after : Lossless palette nodes' [] :=
    ⟨fun v hv => h.readableNodes v (sameNodes.mem_iff.2 hv), nofun, (records.pairwise_iff Node.Apart.symm).1 h.apart,
      trivial⟩
  have edges : (graphOf palette nodes []).edges = (graphOf palette nodes' []).edges := by
    rw [graphOf, graphOf, (rebuilt_eq before.apart before.connected).2.1, (rebuilt_eq after.apart after.connected).2.1]
  have joinable := (sound_graphOf.grants_connects_iff _).1 h.connected
  have joinable' := (joinable.congr (before.nodes_eq after sameNodes).1 edges).perm (sameConnections.filterMap _)
  exact ⟨after.readableNodes, fun v hv => h.readableConnections v (sameConnections.mem_iff.2 hv), after.apart,
    (sound_graphOf.grants_connects_iff _).2 joinable'⟩

end

end Import

/-- The items of an array in some order, and anything else as it is. -/
def Shuffled (v v' : Option Value) : Prop :=
  v' = v ∨ ∃ items items', v = some (.array items) ∧ v' = some (.array items') ∧ items.Perm items'

/-- A document with its nodes and its connections in some order. -/
structure Rearranged (v v' : Value) : Prop where
  nodes : Shuffled (v.member? "nodes") (v'.member? "nodes")
  connections : Shuffled (v.member? "connections") (v'.member? "connections")
  others : ∀ name, name ≠ "nodes" → name ≠ "connections" → v'.member? name = v.member? name

theorem Shuffled.items_perm {v v' : Option Value} (h : Shuffled v v') :
    (Import.itemsOf v).Perm (Import.itemsOf v') := by
  rcases h with rfl | ⟨items, items', rfl, rfl, perm⟩
  · exact .refl _
  · exact perm

theorem Rearranged.isVisual {v v' : Value} (h : Rearranged v v') (visual : Import.isVisual v = true) :
    Import.isVisual v' = true := by
  rw [Import.isVisual_iff] at visual ⊢
  obtain ⟨tagged, items, nodes⟩ := visual
  rw [h.others _ (by decide) (by decide), h.others "formatTag" (by decide) (by decide)]
  refine ⟨tagged, ?_⟩
  rcases h.nodes with same | ⟨-, items', -, there, -⟩
  · exact ⟨items, same.trans nodes⟩
  · exact ⟨items', there⟩

theorem Graph.Sound.connects_perm {α : Type} [Scalar α] {g : Graph α} (sound : g.Sound) {l l' : List Edge}
    (granted : g.Grants (l.map .connect)) (perm : l.Perm l') :
    g.Grants (l'.map .connect) ∧
      (g.after (l'.map .connect)).edges.Perm (g.after (l.map .connect)).edges ∧
      (g.after (l'.map .connect)).edgeSet = (g.after (l.map .connect)).edgeSet := by
  have joinable := (sound.grants_connects_iff l).1 granted
  have granted' := (sound.grants_connects_iff l').2 (joinable.perm perm)
  have edges : (g.after (l'.map .connect)).edges.Perm (g.after (l.map .connect)).edges := by
    obtain ⟨edgeSet, outgoing, all⟩ := after_connects granted
    obtain ⟨edgeSet', outgoing', all'⟩ := after_connects granted'
    rw [all, all']
    exact perm.symm.append_left g.edges
  exact ⟨granted', edges, (sound.after _).edgeSet_eq (sound.after _) edges⟩

/-- **The order of records makes no difference** to an import that leaves nothing out: with its nodes and its
connections in any other order a document is imported without loss again, to the same nodes under their identifiers,
the same edges, the same start node and the same counter.  And edges that a store admits one after the other it admits
in every order. -/
theorem record_order_makes_no_difference (palette : Palette) (placement : PlacementSettings Float) :
    (∀ v v' i, Import.isVisual v = true → Import.ofValue palette placement v = .ok i → i.skipped = [] →
      Rearranged v v' → ∃ i', Import.ofValue palette placement v' = .ok i' ∧ i'.skipped = [] ∧
        i'.graph.nodes = i.graph.nodes ∧ i'.graph.edges.Perm i.graph.edges ∧ i'.graph.edgeSet = i.graph.edgeSet ∧
        i'.graph.startId = i.graph.startId ∧ i'.graph.counter = i.graph.counter) ∧
    ∀ (g : Graph Float) (l l' : List Edge), g.Reachable → g.Grants (l.map .connect) → l.Perm l' →
      g.Grants (l'.map .connect) ∧
        (g.after (l'.map .connect)).edges.Perm (g.after (l.map .connect)).edges ∧
        (g.after (l'.map .connect)).edgeSet = (g.after (l.map .connect)).edgeSet := by
  refine ⟨fun v v' i tagged imported complete rearranged => ?_, fun g l l' reached => reached.sound.connects_perm⟩
  have object (w : Value) (shape : Import.isVisual w = true) :
      Import.ofValue palette placement w = .ok (Import.visual palette w) := by
    refine (Import.ofValue_eq_ok_iff ..).2 (.inr ⟨?_, shape, rfl⟩)
    cases w with
    | object members => exact ⟨members, rfl⟩
    | _ => cases shape
  cases (object v tagged).symm.trans imported
  have h := Import.lossless_of_visual complete
  have nodes := rearranged.nodes.items_perm
  have connections := rearranged.connections.items_perm
  have h' := h.perm nodes connections
  have edges := h'.edges_perm h connections.symm
  refine ⟨_, object v' (rearranged.isVisual tagged), ?_⟩
  rw [Import.visual_of_lossless h, Import.visual_of_lossless h']
  exact ⟨rfl, (h'.nodes_eq h nodes.symm).1, edges, Import.sound_graphOf.edgeSet_eq Import.sound_graphOf edges,
    (h'.nodes_eq h nodes.symm).2, h'.counter_eq h nodes.symm⟩

theorem record_order_makes_no_difference_to_two_nodes : ∃ v v' i', Rearranged v v' ∧
    Import.ofValue ⟨∅⟩ .standard v' = .ok i' ∧ i'.skipped = [] ∧
    i'.graph.edges.Perm [⟨⟨"a"⟩, ⟨"b"⟩, .success⟩] ∧ i'.graph.startId = some ⟨"a"⟩ := by
  let a : Value := .object [("id", .string "a"), ("type", .string "start")]
  let b : Value := .object [("id", .string "b"), ("type", .string "click")]
  let e : Value := .object [("source", .string "a"), ("target", .string "b"), ("type", .string "success")]
  let document (nodes : List Value) : Value :=
    .object [("workflow_type", .string "visual"), ("nodes", .array nodes), ("connections", .array [e])]
  have rearranged : Rearranged (document [a, b]) (document [b, a]) :=
    ⟨.inr ⟨[a, b], [b, a], rfl, rfl, .swap b a []⟩, .inl rfl, fun name other _ => by
      simp [document, Value.member?, Json.Object.lookup_entry, other]⟩
  have complete : (Import.visual ⟨∅⟩ (document [a, b])).skipped = [] := List.isEmpty_iff.1 (by decide +kernel)
  obtain ⟨i', imported, nothing, -, edges, -, startId, -⟩ :=
    (record_order_makes_no_difference ⟨∅⟩ .standard).1 _ _ _ rfl rfl complete rearranged
  have before : (Import.visual ⟨∅⟩ (document [a, b])).graph.edges = [⟨⟨"a"⟩, ⟨"b"⟩, .success⟩] ∧
      (Import.visual ⟨∅⟩ (document [a, b])).graph.startId = some ⟨"a"⟩ := by decide +kernel
  exact ⟨_, _, i', rearranged, imported, nothing, before.1 ▸ edges, startId.trans before.2⟩

end Workflow
