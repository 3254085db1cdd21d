import Workflow.Proofs.Chains
import Workflow.Proofs.Traversals
/-!
# Steps imported again

The steps of a graph are a list of steps like any other, and importing them gives a chain.  What a step says of its
node comes back as long as its names mean the same to both sides: a kind that reading would trim, or data under a name
that stands for something else on a step, would not.
-/
namespace Workflow

open Json (Object Value)

/-! ## What a step says -/

/-- What a step says of its node. -/
def Node.content {α : Type} (n : Node α) : Kind × Object := (n.kind, n.data)

/-- The nodes whose steps a graph has, in order. -/
def Graph.runNodes {α : Type} (g : Graph α) : List (Node α) :=
  (g.runOrder.filterMap g.node?).filter fun n => !n.isStart

theorem Graph.steps_eq {α : Type} (g : Graph α) : g.steps = g.runNodes.map Node.step := by
  rw [steps, runNodes, ← List.filterMap_eq_map, List.filterMap_filter]
  refine List.filterMap_congr fun n _ => ?_
  cases n.isStart <;> rfl

namespace Node

variable {α : Type} {n : Node α}

theorem get?_step (n : Node α) (name : String) :
    n.step.get? name = if name = "type" then some (.string n.kind.tag) else n.data.get? name := by
  rw [step, Object.get?_insertAll_entries, Object.get?_filter, Object.get?_insert]
  by_cases type : name = "type"
  · simp [type]
  · simp [type, Object.empty, Object.get?]

theorem stepOf_step (ordinary : n.isStart = false) (named : n.kind.Named) (tag : n.kind.tag ≠ "")
    (trimmed : Text.trim n.kind.tag = n.kind.tag) : Import.stepOf n.step.toValue = some (n.step.entries, n.kind) := by
  have type : n.step.toValue.member? "type" = some (.string n.kind.tag) := by
    show n.step.get? "type" = _
    rw [get?_step, if_pos rfl]
  have kind : Import.stepKind n.step.toValue = some n.kind := by
    simp [Import.stepKind, type, Value.string?, trimmed, tag, n.kind.named_iff.1 named]
  have ordinary : n.kind.isStart = false := ordinary
  simp only [Import.stepOf, Object.toValue] at kind ⊢
  rw [kind]
  simp [ordinary]

/-- **The data of a step is laid over the data its kind starts with.** -/
theorem stepData_step (unreserved : ∀ name ∈ ["type", "kind", "data"], n.data.get? name = none) (standard : Object) :
    Import.stepData n.step.entries standard = standard.insertAll n.data.entries := by
  have data : n.step.entries.lookup "data" = none := by
    show n.step.get? "data" = none
    rw [get?_step, if_neg (by decide), unreserved "data" (by decide)]
  have rest : n.step.entries.filter (fun e => !Import.stepNames.contains e.1) =
      (n.step.filter fun name => !Import.stepNames.contains name).entries := rfl
  refine Object.ext_get? fun name => ?_
  rw [Import.stepData, data, rest]
  simp only [Object.get?_insertAll_entries, Object.get?_filter, get?_step]
  by_cases reserved : name ∈ ["type", "kind", "data"]
  · have kept : Import.stepNames.contains name = true := List.contains_iff_mem.2 reserved
    rw [kept, unreserved name reserved]
    rfl
  · have kept : Import.stepNames.contains name = false :=
      Bool.eq_false_iff.2 fun listed => reserved (List.contains_iff_mem.1 listed)
    have other : name ≠ "type" := fun same => reserved (by simp [same])
    rw [kept, if_neg other]
    rfl

end Node

theorem Json.Object.insertAll_entries_of_covers {o o' : Object}
    (covers : ∀ name, o.get? name ≠ none → o'.get? name ≠ none) : o.insertAll o'.entries = o' := by
  refine ext_get? fun name => ?_
  rw [get?_insertAll_entries]
  cases found : o'.get? name with
  | some v => rfl
  | none =>
    have absent : o.get? name = none := Classical.not_not.1 fun there => covers name there found
    rw [absent]
    rfl

/-! ## The chain of a graph's steps -/

namespace Graph

variable {g : Graph Float}

theorem Sound.length_runNodes_lt (h : g.Sound) {start : NodeId} (noted : g.startId = some start) :
    g.runNodes.length < g.nodeCount := by
  obtain ⟨n, found, -⟩ := (h.startId_iff start).1 noted
  have listed : n ∈ g.nodeList := ((h.node?_eq_some_iff start n).1 found).1
  have length := (h.steps_perm noted).length_eq
  rw [g.steps_eq, List.length_map, List.length_map] at length
  rw [length, h.nodeCount_eq]
  refine List.length_filter_lt_length_iff_exists.2 ⟨n, listed, ?_⟩
  simp [h.id_of_node start n found]

theorem filterMap_stepOf {nodes : List (Node Float)} (ordinary : ∀ n ∈ nodes, n.isStart = false)
    (named : ∀ n ∈ nodes, n.kind.Named)
    (tags : ∀ n ∈ nodes, n.kind.tag ≠ "" ∧ Text.trim n.kind.tag = n.kind.tag) :
    (nodes.map fun n => n.step.toValue).filterMap Import.stepOf = nodes.map fun n => (n.step.entries, n.kind) := by
  rw [List.filterMap_map, ← List.filterMap_eq_map]
  refine List.filterMap_congr fun n hn => ?_
  exact Node.stepOf_step (ordinary n hn) (named n hn) (tags n hn).1 (tags n hn).2

theorem map_step_of_content {l l' : List (Node Float)} (same : l.map Node.content = l'.map Node.content) :
    l.map Node.step = l'.map Node.step := by
  let stepOf (t : Kind × Object) : Object := Node.step (⟨⟨""⟩, t.1, .origin, t.2⟩ : Node Float)
  have through (l : List (Node Float)) : l.map Node.step = (l.map Node.content).map stepOf := by
    rw [List.map_map]
    rfl
  rw [through, same, ← through]

theorem content_chainNodes (palette : Palette) (placement : PlacementSettings Float) {nodes : List (Node Float)}
    (unreserved : ∀ n ∈ nodes, ∀ name ∈ ["type", "kind", "data"], n.data.get? name = none) :
    ((nodes.map fun n => (n.step.entries, n.kind)).zipIdx.map (Import.chainNode palette placement)).map Node.content =
      nodes.map fun n => (n.kind, (palette.defaultData n.kind).insertAll n.data.entries) := by
  have first (taken : List (List (String × Value) × Kind)) :
      (taken.zipIdx.map (Import.chainNode palette placement)).map Node.content =
        (taken.zipIdx.map Prod.fst).map fun t => (t.2, Import.stepData t.1 (palette.defaultData t.2)) := by
    rw [List.map_map, List.map_map]
    rfl
  rw [first, List.zipIdx_map_fst, List.map_map]
  refine List.map_congr_left fun n hn => ?_
  rw [Function.comp_apply, Node.stepData_step (unreserved n hn)]

/-- **The steps of a graph are imported as a chain** of the nodes they came from: the same kinds in the same order, each
with its data laid over what its kind starts with.  A graph in memory has no more nodes than can be numbered.  If the
nodes kept every name that their kinds start with, their data comes back as it was, and so do the steps. -/
theorem steps_survive_upgrade (g : Graph Float) (reached : g.Reachable) {start : NodeId}
    (noted : g.startId = some start) (countable : g.nodeCount ≤ NodeId.maxNumber)
    (named : ∀ n ∈ g.runNodes, n.kind.Named)
    (tags : ∀ n ∈ g.runNodes, n.kind.tag ≠ "" ∧ Text.trim n.kind.tag = n.kind.tag)
    (unreserved : ∀ n ∈ g.runNodes, ∀ name ∈ ["type", "kind", "data"], n.data.get? name = none)
    (placement : PlacementSettings Float) :
    g.steps = g.runNodes.map Node.step ∧
    ∃ i, Import.ofValue g.palette placement (.array (g.steps.map (·.toValue))) = .ok i ∧
      i.source = .steps ∧ i.skipped = [] ∧
      i.graph.order = (List.range' 1 (g.runNodes.length + 1)).map .numbered ∧
      i.graph.startId = some (.numbered 1) ∧
      i.graph.edges =
        (List.range g.runNodes.length).map (fun j => ⟨.numbered (j + 1), .numbered (j + 2), .success⟩) ∧
      i.graph.nodeList.map Node.content = (.start, g.palette.defaultData .start) ::
        g.runNodes.map (fun n => (n.kind, (g.palette.defaultData n.kind).insertAll n.data.entries)) ∧
      ((∀ n ∈ g.runNodes, ∀ name, (g.palette.defaultData n.kind).get? name ≠ none → n.data.get? name ≠ none) →
        i.graph.nodeList.tail.map Node.content = g.runNodes.map Node.content ∧
        i.graph.steps = g.steps) := by
  have ordinary : ∀ n ∈ g.runNodes, n.isStart = false := fun n hn => by
    simpa using (List.mem_filter.1 hn).2
  have short : g.runNodes.length < NodeId.maxNumber :=
    Nat.lt_of_lt_of_le (reached.sound.length_runNodes_lt noted) countable
  let items := g.runNodes.map fun n => n.step.toValue
  let taken := g.runNodes.map fun n => (n.step.entries, n.kind)
  have accepted : items.filterMap Import.stepOf = taken := filterMap_stepOf ordinary named tags
  have count : taken.length = g.runNodes.length := List.length_map _
  have values : g.steps.map (·.toValue) = items := by
    rw [g.steps_eq, List.map_map]
    rfl
  obtain ⟨chained, skipped⟩ := (Import.chained_start g.palette placement).foldl items 0
    (by rw [accepted, count]; simpa using short)
  rw [accepted, List.nil_append] at chained
  have none : (items.zipIdx.filter fun e => (Import.stepOf e.1).isNone) = [] := by
    refine List.filter_eq_nil_iff.2 fun e he => ?_
    obtain ⟨n, hn, same⟩ := List.mem_map.1 (List.fst_mem_of_mem_zipIdx he)
    rw [← same, Node.stepOf_step (ordinary n hn) (named n hn) (tags n hn).1 (tags n hn).2]
    simp
  rw [none] at skipped
  have contents := content_chainNodes g.palette placement unreserved
  rw [values]
  refine ⟨g.steps_eq, _, rfl, rfl, List.map_eq_nil_iff.1 skipped, count ▸ chained.order_eq, chained.startId,
    count ▸ chained.edges, ?_, fun covered => ?_⟩
  · rw [← contents]
    exact congrArg (List.map Node.content) chained.nodeList
  · have kept : (taken.zipIdx.map (Import.chainNode g.palette placement)).map Node.content =
        g.runNodes.map Node.content := by
      refine contents.trans (List.map_congr_left fun n hn => ?_)
      rw [Object.insertAll_entries_of_covers (covered n hn)]
      rfl
    have tail := congrArg List.tail chained.nodeList
    refine ⟨?_, ?_⟩
    · rw [← kept]
      exact congrArg (List.map Node.content) tail
    · rw [g.steps_eq, ← map_step_of_content kept]
      exact chained.steps_eq (count ▸ short)

theorem steps_survive_upgrade_of_branching_graph : ∃ g : Graph Float, g.Reachable ∧ g.runNodes.length = 2 ∧
    ∃ i, Import.ofValue g.palette .standard (.array (g.steps.map (·.toValue))) = .ok i ∧ i.skipped = [] ∧
      i.graph.steps = g.steps := by
  let g : Graph Float := (withStart ⟨∅⟩ ⟨5, 7⟩).after [.createNode (.action "click") ⟨1, 2⟩,
    .restoreNode ⟨"other"⟩ (.action "wait") ⟨3, 4⟩ (Object.empty.insert "seconds" .null),
    .createEdge (.numbered 1) ⟨"other"⟩ .error, .createEdge (.numbered 1) (.numbered 2) .success]
  have reached : g.Reachable := (Reachable.withStart ⟨∅⟩ ⟨5, 7⟩).after _
  have noted : g.startId = some (.numbered 1) := by decide +kernel
  obtain ⟨-, i, imported, -, complete, -, -, -, -, same⟩ := steps_survive_upgrade g reached noted
    (by decide +kernel) (by decide +kernel) (by decide +kernel) (by decide +kernel) .standard
  have unknown : g.palette.entries = ∅ := Std.ExtTreeMap.isEmpty_iff.1 (by decide +kernel)
  refine ⟨g, reached, by decide +kernel, i, imported, complete, (same fun n _ name there => ?_).2⟩
  simp [Palette.defaultData, Palette.get?, unknown, Object.get?, Object.empty] at there

end Graph

end Workflow
