import Mathlib.Data.List.Forall2
import Workflow.Proofs.Chains
import Workflow.Proofs.RoundTrip
/-!
# What a list of steps becomes

Whatever the items of a list are, it is imported, and what it becomes is told by the items alone: those that name a kind
are the nodes of one chain below the start node (`Import.IsChain`), each a level further down than the one before, and
the others are skipped.  Nothing else can go wrong on the way (`Import.Chained`), so no node of the chain is left
unconnected, and no kind of item moves the nodes after it.
-/
namespace Workflow

open Json (Object Value)

/-! ## Distances along a chain -/

namespace Adjacency

theorem successors_of_branches {a : Adjacency} {id next : NodeId} (only : a.branches id = [next]) :
    ∃ e, a.successors id = [e] ∧ e.target = next := by
  have length := a.length_branches id
  rw [only] at length
  obtain ⟨e, single⟩ := List.length_eq_one_iff.1 length.symm
  refine ⟨e, single, ?_⟩
  rw [branches, single] at only
  cases outcome : e.outcome <;> simpa [outcome] using only

theorem levelsFrom_of_leads (a : Adjacency) : ∀ (id : NodeId) (rest : List NodeId) (level : Nat) (marked : NodeSet),
    rest.Nodup → (∀ v ∈ rest, v ∉ marked) → a.Leads id rest →
      a.levelsFrom marked [(id, level)] = (id :: rest).zipIdx level
  | id, [], level, marked, _, _, last => by
    have last : a.branches id = [] := last
    have none : a.successors id = [] := by
      rw [← List.length_eq_zero_iff, ← a.length_branches, last]
      rfl
    rw [levelsFrom, none]
    simp [markNew, levelsFrom]
  | id, next :: rest, level, marked, nodup, unmarked, leads => by
    obtain ⟨only, leads⟩ := leads
    obtain ⟨e, single, rfl⟩ := successors_of_branches only
    obtain ⟨apart, nodup⟩ := List.nodup_cons.1 nodup
    have new : markNew marked [e] = (marked.insert e.target, [e.target]) := by
      simp [markNew, unmarked e.target List.mem_cons_self]
    have unmarked' : ∀ v ∈ rest, v ∉ marked.insert e.target := fun v hv seen => by
      rcases (mem_insert_nodeSet marked e.target v).1 seen with rfl | seen
      · exact apart hv
      · exact unmarked v (List.mem_cons_of_mem _ hv) seen
    rw [levelsFrom, single, new, List.zipIdx_cons,
      ← levelsFrom_of_leads a e.target rest (level + 1) _ nodup unmarked' leads]
    rfl

end Adjacency

namespace Import

/-! ## The data of a step -/

/-- What the node of a step has under a name: what is written on the step, unless the name stands for something else
there; or else what the data of the step says, or what its kind starts with if the step has no data. -/
def dataUnder (members : List (String × Value)) (standard : Object) (name : String) : Option Value :=
  (if name ∈ ["type", "kind", "data"] then none else (Object.ofList members).get? name).or
    (match members.lookup "data" with
      | some (.object explicit) => (Object.ofList explicit).get? name
      | _ => standard.get? name)

theorem get?_stepData (members : List (String × Value)) (standard : Object) (name : String) :
    (stepData members standard).get? name = dataUnder members standard name := by
  rw [stepData, dataUnder, Object.get?_insertAll, Object.get?_ofList, ← List.filter_reverse,
    Object.lookup_filter fun name => !stepNames.contains name]
  congr 1
  · by_cases kept : name ∈ ["type", "kind", "data"] <;> simp_all [stepNames]
  · split <;> simp_all

/-! ## The whole list -/

/-- Does a step become a node? -/
def Accepted (v : Value) : Prop := ∃ members kind, Becomes v members kind

theorem accepted_iff (v : Value) : (stepOf v).isSome = true ↔ Accepted v := by
  simp only [Option.isSome_iff_exists, Prod.exists, stepOf_eq_some_iff, Accepted]

instance : DecidablePred Accepted := fun v => decidable_of_iff _ (accepted_iff v)

theorem isNone_stepOf (v : Value) : (stepOf v).isNone = decide (¬ Accepted v) := by
  rw [Bool.eq_iff_iff, decide_eq_true_iff, ← accepted_iff, Option.isNone_iff_eq_none, ← Option.not_isSome_iff_eq_none]

theorem forall₂_becomes (items : List Value) :
    List.Forall₂ (fun v t => Becomes v t.1 t.2) (items.filter Accepted) (items.filterMap stepOf) := by
  induction items with
  | nil => exact .nil
  | cons v items ih =>
    cases found : stepOf v with
    | none =>
      have refused : ¬ Accepted v := fun accepted => by simp [← accepted_iff, found] at accepted
      rw [List.filterMap_cons_none found, List.filter_cons_of_neg (by simpa using refused)]
      exact ih
    | some t =>
      have becomes := stepOf_eq_some_iff.1 found
      have accepted : Accepted v := ⟨_, _, becomes⟩
      rw [List.filterMap_cons_some found, List.filter_cons_of_pos (by simpa using accepted)]
      exact .cons becomes ih

/-- **A graph is the chain of some steps**, given with their members and kinds: a start node, and below it a node for
each of them, connected to the one before by a success edge. -/
structure IsChain (palette : Palette) (placement : PlacementSettings Float)
    (taken : List (List (String × Value) × Kind)) (g : Graph Float) : Prop where
  order : g.order = (List.range' 1 (taken.length + 1)).map .numbered
  nodes : ∀ id, id ∈ g.nodes ↔ id ∈ g.order
  startId : g.startId = some (.numbered 1)
  first : g.node? (.numbered 1) =
    some ⟨.numbered 1, .start, placement.startPosition.clamp, palette.defaultData .start⟩
  next : ∀ j members kind, taken[j]? = some (members, kind) → ∃ n : Node Float,
    g.node? (.numbered (j + 2)) = some n ∧ g.steps[j]? = some n.step ∧ n.id = .numbered (j + 2) ∧ n.kind = kind ∧
      n.position = Point.clamp ⟨placement.stepColumnX, rowY placement j⟩ ∧
      ∀ name, n.data.get? name = dataUnder members (palette.defaultData kind) name
  edges : g.edges = (List.range taken.length).map fun j => ⟨.numbered (j + 1), .numbered (j + 2), .success⟩
  levels : g.levels (.numbered 1) = g.order.zipIdx
  steps : g.steps.length = taken.length

variable {palette : Palette} {placement : PlacementSettings Float} {taken : List (List (String × Value) × Kind)}
  {c : Chain}

theorem Chained.levels_eq (h : Chained palette placement taken c) (below : taken.length < NodeId.maxNumber) :
    c.progress.graph.levels (.numbered 1) = c.progress.graph.order.zipIdx := by
  have nodup := h.reached.sound.order_nodup
  have present : (.numbered 1) ∈ c.progress.graph.nodes := by
    rw [← h.reached.sound.mem_order, h.order_cons]
    exact List.mem_cons_self
  rw [h.order_cons] at nodup ⊢
  obtain ⟨apart, nodup⟩ := List.nodup_cons.1 nodup
  rw [Graph.levels, if_pos ((c.progress.graph.containsNode_iff _).2 present)]
  refine Adjacency.levelsFrom_of_leads _ _ _ 0 _ nodup (fun v hv seen => ?_) (h.leads below)
  rcases (Adjacency.mem_insert_nodeSet ∅ _ v).1 seen with rfl | seen
  · exact apart hv
  · simp at seen

theorem Chained.isChain (h : Chained palette placement taken c) (below : taken.length < NodeId.maxNumber) :
    IsChain palette placement taken c.progress.graph := by
  have steps := h.steps_eq below
  have node : ∀ n ∈ chainNodes palette placement taken, c.progress.graph.node? n.id = some n := fun n hn => by
    rw [← h.nodeList] at hn
    exact (h.reached.sound.mem_nodeList n).1 hn
  refine ⟨h.order_eq, fun id => (h.reached.sound.mem_order id).symm, h.startId, node _ List.mem_cons_self,
    fun j members kind there => ?_, h.edges, h.levels_eq below, ?_⟩
  · have listed : ((members, kind), j) ∈ taken.zipIdx := List.mk_mem_zipIdx_iff_getElem?.2 there
    refine ⟨_, node _ (List.mem_cons_of_mem _ (List.mem_map_of_mem listed)), ?_, rfl, rfl, rfl, get?_stepData _ _⟩
    rw [steps]
    simp [there]
  · rw [steps, List.length_map, List.length_map, List.length_zipIdx]

/-- **A list of fewer steps than there are numbers is imported, whatever its steps are**, and becomes one chain: the
steps that name a kind are its nodes, in order, and of each of the others it is noted at which place it stands and
why it is left out. -/
theorem step_list_becomes_chain (palette : Palette) (placement : PlacementSettings Float) (items : List Value)
    (few : items.length < NodeId.maxNumber) : ∃ i taken,
      ofValue palette placement (.array items) = .ok i ∧ i.source = .steps ∧
      List.Forall₂ (fun v t => Becomes v t.1 t.2) (items.filter Accepted) taken ∧
      List.Forall₂ TellsOf (items.zipIdx.filter fun e => ¬ Accepted e.1) i.skipped ∧
      IsChain palette placement taken i.graph := by
  have short := Nat.lt_of_le_of_lt (List.length_filterMap_le stepOf items) few
  obtain ⟨chained, new, skipped, tells⟩ := (chained_start palette placement).foldl_tells items 0 (by simpa using short)
  have others : (steps palette placement items).skipped = new := skipped
  simp only [isNone_stepOf] at tells
  exact ⟨_, _, rfl, rfl, forall₂_becomes items, others ▸ tells, chained.isChain short⟩

theorem step_list_becomes_chain_of_two : ∃ i,
    ofValue ⟨∅⟩ .standard (.array [.null, .object [("type", .string " click "), ("xpath", .string "//a")],
      .object [("type", .null), ("kind", .string "wait")], .object [("kind", .string "wait")],
      .object [("type", .string "start")]]) = .ok i ∧ i.skipped.map (·.index) = [0, 2, 4] ∧
    i.graph.nodeList.map (fun n => (n.kind, n.position)) =
      [(.start, ⟨100, 100⟩), (.action "click", ⟨200, 150⟩), (.action "wait", ⟨200, 250⟩)] ∧
    i.graph.levels (.numbered 1) = [(.numbered 1, 0), (.numbered 2, 1), (.numbered 3, 2)] := by
  let items : List Value := [.null, .object [("type", .string " click "), ("xpath", .string "//a")],
    .object [("type", .null), ("kind", .string "wait")], .object [("kind", .string "wait")],
    .object [("type", .string "start")]]
  obtain ⟨i, taken, imported, -, becomes, tells, chain⟩ := step_list_becomes_chain ⟨∅⟩ .standard items (by decide)
  have built : steps ⟨∅⟩ .standard items = i := Except.ok.inj imported
  refine ⟨i, imported, ?_, ?_, ?_⟩
  · have entries := congrArg (List.map Prod.snd) (map_entry_of_tellsOf tells)
    rw [List.map_map, List.map_map] at entries
    exact entries.trans (by decide +kernel)
  · rw [← built]
    decide +kernel
  · have count : taken.length = 2 := becomes.length_eq.symm.trans (by decide +kernel)
    rw [chain.levels, chain.order, count]
    rfl

end Import

end Workflow
