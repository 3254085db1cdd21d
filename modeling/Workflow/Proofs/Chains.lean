import Workflow.Proofs.Accounts
import Workflow.Proofs.Walks
/-!
# Chains of steps

A list of steps is imported as a chain.  A step that names a kind becomes the next node, and the edge to it from the
node before is never refused: the new node leads nowhere.  So what is built of a list is known in closed form
(`Chained`), and a run along it comes by its nodes in their order (`Chained.runOrder_eq`).
-/
namespace Workflow

open Json (Object Value)
open Relation (ReflTransGen)

namespace Graph

variable {α : Type} {g : Graph α}

theorem replaceData_place (g : Graph α) (n : Node α) (data : Object) :
    ((g.place n).replaceData n.id data).2 = g.place { n with data } := by
  have found : (g.place n).node? n.id = some n := by rw [node?_place, if_pos rfl]
  rw [replaceData, found]
  show { g.place n with nodes := (g.nodes.insert n.id n).insert n.id { n with data } } = _
  rw [insert_insert_node]
  rfl

variable [Scalar α]

theorem Sound.eq_of_path (h : g.Sound) {id v : NodeId} (new : id ∉ g.nodes) (path : ReflTransGen g.Next id v) :
    v = id := by
  rcases ReflTransGen.cases_head path with same | ⟨w, ⟨e, he, source, -⟩, -⟩
  · exact same.symm
  · exact absurd (source ▸ (h.ends e he).1) new

/-- **A new node can be connected to any other**, since it leads nowhere. -/
theorem Sound.granted_connect_place (h : g.Sound) {n : Node α} (fresh : n.id ∉ g.nodes) (still : (g.place n).Sound)
    {source : NodeId} (there : source ∈ g.nodes) (outcome : Outcome) :
    (g.place n).Granted (.connect ⟨source, n.id, outcome⟩) := by
  refine (still.granted_connect_iff _).2 ⟨fun listed => ?_, ?_, ?_, fun path => ?_⟩
  · exact fresh (h.ends _ listed).2
  · exact (mem_insert_node ..).2 (.inr there)
  · exact (mem_insert_node ..).2 (.inl rfl)
  · have same : source = n.id := h.eq_of_path fresh path
    exact fresh (same ▸ there)

end Graph

namespace Adjacency

/-- Each node goes on to the next one only, and the last one nowhere. -/
def Leads (a : Adjacency) : NodeId → List NodeId → Prop
  | id, [] => a.branches id = []
  | id, next :: rest => a.branches id = [next] ∧ a.Leads next rest

theorem runOrder_of_leads (a : Adjacency) : ∀ (id : NodeId) (rest : List NodeId) (visited : NodeSet),
    (id :: rest).Nodup → (∀ v ∈ id :: rest, v ∉ visited) → a.Leads id rest → a.runOrder visited [id] = id :: rest
  | id, [], visited, _, unseen, last => by
    have new : id ∉ visited := unseen id List.mem_cons_self
    have last : a.branches id = [] := last
    rw [runOrder, dif_neg new, last, List.nil_append, runOrder]
  | id, next :: rest, visited, nodup, unseen, leads => by
    obtain ⟨only, leads⟩ := leads
    obtain ⟨apart, nodup⟩ := List.nodup_cons.1 nodup
    have unseen' : ∀ v ∈ next :: rest, v ∉ visited.insert id := fun v hv seen => by
      rcases (mem_insert_nodeSet visited id v).1 seen with rfl | seen
      · exact apart hv
      · exact unseen v (List.mem_cons_of_mem id hv) seen
    rw [runOrder, dif_neg (unseen id List.mem_cons_self), only, List.append_nil,
      runOrder_of_leads a next rest _ nodup unseen' leads]

theorem leads_numbered (a : Adjacency) (count first : Nat)
    (next : ∀ i, first ≤ i → i < first + count → a.branches (.numbered i) = [.numbered (i + 1)])
    (last : a.branches (.numbered (first + count)) = []) :
    a.Leads (.numbered first) ((List.range' (first + 1) count).map .numbered) := by
  induction count generalizing first with
  | zero => exact last
  | succ count ih =>
    rw [List.range'_succ]
    refine ⟨next first (Nat.le_refl _) (by omega), ih (first + 1) (fun i le lt => next i (by omega) (by omega)) ?_⟩
    rwa [Nat.add_assoc, Nat.add_comm 1]

end Adjacency

namespace Import

/-! ## Steps that become nodes -/

/-- The members of a step name its kind by a text: under `type`, or under `kind` where that is absent. -/
def Names (members : List (String × Value)) (text : String) : Prop :=
  members.lookup "type" = some (.string text) ∨
    members.lookup "type" = none ∧ members.lookup "kind" = some (.string text)

/-- A step becomes a node of a kind: it is an object that names an action. -/
def Becomes (v : Value) (members : List (String × Value)) (kind : Kind) : Prop :=
  v = .object members ∧ ∃ text, Names members text ∧ kind = .action (Text.trim text) ∧ Text.trim text ≠ "" ∧
    Text.trim text ≠ "start"

/-- A step does not become a node, for a reason. -/
inductive Refused : Value → SkipReason → Prop
  | notObject {v : Value} : (∀ members, v ≠ .object members) → Refused v .stepNotObject
  | withoutType {members : List (String × Value)} :
    (∀ text, Names members text → Text.trim text = "") → Refused (.object members) .stepWithoutType
  | isStart {members : List (String × Value)} {text : String} :
    Names members text → Text.trim text = "start" → Refused (.object members) .stepIsStart

def stepOf (v : Value) : Option (List (String × Value) × Kind) :=
  match v with
  | .object members =>
    match stepKind v with
    | none => none
    | some kind => if kind.isStart then none else some (members, kind)
  | _ => none

theorem string?_eq_some_iff (v : Value) (text : String) : v.string? = some text ↔ v = .string text := by
  cases v <;> simp [Value.string?]

theorem names_iff (members : List (String × Value)) (text : String) : Names members text ↔
    (((Value.object members).member? "type" <|> (Value.object members).member? "kind").bind (·.string?)) =
      some text := by
  show _ ↔ ((members.lookup "type" <|> members.lookup "kind").bind _) = _
  rw [Names]
  cases members.lookup "type" with
  | some v => simp [string?_eq_some_iff]
  | none => simp [Option.bind_eq_some_iff, string?_eq_some_iff]

theorem stepKind_eq_some_iff (members : List (String × Value)) (kind : Kind) :
    stepKind (.object members) = some kind ↔
      ∃ text, Names members text ∧ Text.trim text ≠ "" ∧ Kind.ofTag (Text.trim text) = kind := by
  simp only [names_iff, stepKind]
  generalize (_ : Option Value).bind _ = named
  cases named with
  | none => simp
  | some text => by_cases blank : Text.trim text = "" <;> simp [blank]

theorem stepOf_eq_some_iff {v : Value} {members : List (String × Value)} {kind : Kind} :
    stepOf v = some (members, kind) ↔ Becomes v members kind := by
  constructor
  · intro taken
    cases v with
    | object list =>
      simp only [stepOf] at taken
      split at taken
      · cases taken
      · next named =>
        split at taken
        · cases taken
        · next ordinary =>
          cases taken
          obtain ⟨text, names, differs, rfl⟩ := (stepKind_eq_some_iff members kind).1 named
          have other : Text.trim text ≠ "start" := mt (Kind.isStart_ofTag _).2 ordinary
          exact ⟨rfl, text, names, if_neg other, differs, other⟩
    | _ => cases taken
  · rintro ⟨rfl, text, names, rfl, differs, other⟩
    have named := (stepKind_eq_some_iff members _).2 ⟨text, names, differs, if_neg other⟩
    simp [stepOf, named, Kind.isStart]

/-- **A step that does not become a node is skipped** with a reason. -/
theorem step_of_none (placement : PlacementSettings Float) (c : Chain) {v : Value} (index : Nat)
    (none : stepOf v = none) : ∃ reason, Refused v reason ∧ step placement c (v, index) =
      { c with progress := c.progress.skip .step index reason } := by
  cases v with
  | object members =>
    simp only [stepOf] at none
    simp only [step]
    split
    · next unnamed =>
      refine ⟨_, .withoutType fun text names => Classical.not_not.1 fun differs => ?_, rfl⟩
      have named := (stepKind_eq_some_iff members _).2 ⟨text, names, differs, rfl⟩
      rw [unnamed] at named
      cases named
    · next kind named =>
      obtain ⟨text, names, -, rfl⟩ := (stepKind_eq_some_iff members kind).1 named
      split
      · next start => exact ⟨_, .isStart names ((Kind.isStart_ofTag _).1 start), rfl⟩
      · next ordinary => simp [named, ordinary] at none
  | _ => exact ⟨_, .notObject nofun, rfl⟩

theorem step_of_some (placement : PlacementSettings Float) (c : Chain) {v : Value} (index : Nat)
    {members : List (String × Value)} {kind : Kind} (taken : stepOf v = some (members, kind)) :
    step placement c (v, index) = extend placement c members kind index ∧ kind.isStart = false := by
  obtain ⟨rfl, text, names, rfl, differs, other⟩ := stepOf_eq_some_iff.1 taken
  have named := (stepKind_eq_some_iff members _).2 ⟨text, names, differs, if_neg other⟩
  exact ⟨by simp [step, named, Kind.isStart], rfl⟩

/-! ## The end of a chain -/

section

variable {placement : PlacementSettings Float} {c : Chain}

/-- **A step of a known kind becomes the next node**, connected to the one before. -/
theorem extend_eq (reached : c.progress.graph.Reachable) (below : c.progress.graph.counter < NodeId.maxNumber)
    {source : NodeId} (last : c.last = some source) (there : source ∈ c.progress.graph.nodes)
    (members : List (String × Value)) {kind : Kind} (ordinary : kind.isStart = false) (index : Nat) :
    ∃ n : Node Float, n = ⟨.numbered (c.progress.graph.counter + 1), kind, Point.clamp ⟨placement.stepColumnX, c.y⟩,
        stepData members (c.progress.graph.palette.defaultData kind)⟩ ∧ n.id ∉ c.progress.graph.nodes ∧
      extend placement c members kind index =
        ⟨{ c.progress with
            graph := ({ c.progress.graph with counter := c.progress.graph.counter + 1 }.place n).addEdge
              ⟨source, n.id, .success⟩ },
          some n.id, c.y + placement.stepPitch⟩ := by
  let g : Graph Float := { c.progress.graph with counter := c.progress.graph.counter + 1 }
  let n : Node Float := ⟨.numbered g.counter, kind, Point.clamp ⟨placement.stepColumnX, c.y⟩,
    stepData members (g.palette.defaultData kind)⟩
  have admissible : kind.isStart = true → c.progress.graph.startId = none := fun start => by simp [start] at ordinary
  have fresh : n.id ∉ g.nodes := reached.numbered.not_mem (Nat.lt_succ_self _) below
  have sound : g.Sound := reached.sound.withCounter _
  have granted := sound.granted_connect_place fresh (sound.place n fresh admissible ⟨_, rfl⟩) there .success
  have edge : (g.place n).createEdge source n.id .success = (.ok ⟨source, n.id, .success⟩, (g.place n).addEdge _) :=
    Prod.ext ((Graph.granted_connect _ _).1 granted) (Graph.perform_connect granted)
  have created := reached.numbered.createNode_eq admissible below ⟨placement.stepColumnX, c.y⟩
  have data := Graph.replaceData_place g { n with data := g.palette.defaultData kind } n.data
  have linked : link { c.progress with graph := g.place n } c.last n.id index =
      { c.progress with graph := (g.place n).addEdge ⟨source, n.id, .success⟩ } := by
    rw [last]
    simp only [link, edge]
  refine ⟨n, rfl, fresh, ?_⟩
  simp only [extend, created]
  exact congrArg (Chain.mk · (some n.id) (c.y + placement.stepPitch))
    ((congrArg (fun graph => link { c.progress with graph } c.last n.id index) data).trans linked)

end

/-! ## The whole chain -/

/-- How far down a node of a chain goes that comes after some number of others. -/
def rowY (placement : PlacementSettings Float) : Nat → Float
  | 0 => placement.firstStepY
  | before + 1 => rowY placement before + placement.stepPitch

/-- The node of a step that comes after some number of others. -/
def chainNode (palette : Palette) (placement : PlacementSettings Float)
    (step : (List (String × Value) × Kind) × Nat) : Node Float :=
  ⟨.numbered (step.2 + 2), step.1.2, Point.clamp ⟨placement.stepColumnX, rowY placement step.2⟩,
    stepData step.1.1 (palette.defaultData step.1.2)⟩

def chainNodes (palette : Palette) (placement : PlacementSettings Float) (taken : List (List (String × Value) × Kind)) :
    List (Node Float) :=
  ⟨.numbered 1, .start, placement.startPosition.clamp, palette.defaultData .start⟩ ::
    taken.zipIdx.map (chainNode palette placement)

def chainEdges (count : Nat) : List Edge :=
  (List.range count).map fun i => ⟨.numbered (i + 1), .numbered (i + 2), .success⟩

/-- **What is built of some steps.** -/
structure Chained (palette : Palette) (placement : PlacementSettings Float)
    (taken : List (List (String × Value) × Kind)) (c : Chain) : Prop where
  reached : c.progress.graph.Reachable
  palette_eq : c.progress.graph.palette = palette
  nodeList : c.progress.graph.nodeList = chainNodes palette placement taken
  edges : c.progress.graph.edges = chainEdges taken.length
  startId : c.progress.graph.startId = some (.numbered 1)
  counter : c.progress.graph.counter = taken.length + 1
  last : c.last = some (.numbered (taken.length + 1))
  y : c.y = rowY placement taken.length
  ordinary : ∀ t ∈ taken, t.2.isStart = false

theorem map_id_chainNodes (palette : Palette) (placement : PlacementSettings Float)
    (taken : List (List (String × Value) × Kind)) :
    (chainNodes palette placement taken).map (·.id) = (List.range' 1 (taken.length + 1)).map .numbered := by
  have numbers : (taken.zipIdx.map (chainNode palette placement)).map (·.id) =
      (taken.zipIdx.map Prod.snd).map fun i => .numbered (i + 2) := by
    rw [List.map_map, List.map_map]
    rfl
  have shift : (List.range' 0 taken.length).map (fun i => NodeId.numbered (i + 2)) =
      (List.range' 2 taken.length).map .numbered := by
    have from_two : List.range' 2 taken.length = (List.range' 0 taken.length).map (2 + ·) :=
      (List.map_add_range' 0 taken.length 1).symm
    rw [from_two, List.map_map]
    exact List.map_congr_left fun i _ => congrArg NodeId.numbered (Nat.add_comm i 2)
  rw [chainNodes, List.map_cons, numbers, List.zipIdx_map_snd, shift, List.range'_succ]
  rfl

section

variable {palette : Palette} {placement : PlacementSettings Float} {taken : List (List (String × Value) × Kind)}
  {c : Chain}

theorem chained_start (palette : Palette) (placement : PlacementSettings Float) : Chained palette placement []
    ⟨⟨.withStart palette placement.startPosition, []⟩, (Graph.withStart palette placement.startPosition).startId,
      placement.firstStepY⟩ where
  reached := .withStart palette placement.startPosition
  palette_eq := rfl
  nodeList := ((Graph.sound_empty palette).nodeList_place (by simp [Graph.empty]) 1).trans rfl
  edges := rfl
  startId := rfl
  counter := rfl
  last := rfl
  y := rfl
  ordinary := nofun

theorem Chained.order_eq (h : Chained palette placement taken c) :
    c.progress.graph.order = (List.range' 1 (taken.length + 1)).map .numbered := by
  rw [← h.reached.sound.map_id_nodeList, h.nodeList, map_id_chainNodes]

/-- **One more step makes the chain one node longer.** -/
theorem Chained.snoc (h : Chained palette placement taken c) (below : taken.length + 1 < NodeId.maxNumber)
    (members : List (String × Value)) {kind : Kind} (ordinary : kind.isStart = false) (index : Nat) :
    Chained palette placement (taken ++ [(members, kind)]) (extend placement c members kind index) ∧
      (extend placement c members kind index).progress.skipped = c.progress.skipped := by
  have there : .numbered (taken.length + 1) ∈ c.progress.graph.nodes := by
    rw [← h.reached.sound.mem_order, h.order_eq]
    exact List.mem_map_of_mem (List.mem_range'_1.2 (by omega))
  have still := extend_induction (fun _ r h => h.perform r) placement members kind index h.reached
  obtain ⟨n, rfl, fresh, done⟩ := extend_eq h.reached (h.counter ▸ below) h.last there members ordinary index
  rw [done] at still ⊢
  have length : (taken ++ [(members, kind)]).length = taken.length + 1 := by simp
  refine ⟨⟨still, h.palette_eq, ?_, ?_, ?_, ?_, ?_, ?_, fun t ht => ?_⟩, rfl⟩
  · refine (h.reached.sound.nodeList_place fresh _).trans ?_
    rw [h.nodeList, chainNodes, chainNodes, List.zipIdx_append, List.map_append, Nat.zero_add, h.counter,
      h.palette_eq, h.y]
    rfl
  · show c.progress.graph.edges ++ [_] = _
    rw [h.edges, length, chainEdges, chainEdges, List.range_succ, List.map_append, h.counter]
    rfl
  · show (if kind.isStart then _ else c.progress.graph.startId) = _
    rw [ordinary, h.startId]
    rfl
  · show c.progress.graph.counter + 1 = _
    rw [h.counter, length]
  · show some (NodeId.numbered (c.progress.graph.counter + 1)) = _
    rw [h.counter, length]
  · show c.y + placement.stepPitch = _
    rw [h.y, length, rowY]
  · rcases List.mem_append.1 ht with ht | ht
    · exact h.ordinary t ht
    · rw [List.mem_singleton.1 ht]
      exact ordinary

/-- A skipped entry tells of a step which place it has, and why it does not become a node. -/
structure TellsOf (e : Value × Nat) (s : Skipped) : Prop where
  record : s.record = .step
  index : s.index = e.2
  reason : Refused e.1 s.reason

theorem map_entry_of_tellsOf {refused : List (Value × Nat)} {skipped : List Skipped}
    (tells : List.Forall₂ TellsOf refused skipped) :
    skipped.map Skipped.entry = refused.map fun e => (.step, e.2) := by
  induction tells with
  | nil => rfl
  | cons one _ ih => rw [List.map_cons, List.map_cons, ih, Skipped.entry, one.record, one.index]

/-- **A list of steps becomes a chain of those that become nodes**, and the others are skipped with a reason. -/
theorem Chained.foldl_tells (h : Chained palette placement taken c) (items : List Value) (index : Nat)
    (below : taken.length + (items.filterMap stepOf).length < NodeId.maxNumber) :
    Chained palette placement (taken ++ items.filterMap stepOf) ((items.zipIdx index).foldl (step placement) c) ∧
      ∃ new, ((items.zipIdx index).foldl (step placement) c).progress.skipped = c.progress.skipped ++ new ∧
        List.Forall₂ TellsOf ((items.zipIdx index).filter fun e => (stepOf e.1).isNone) new := by
  induction items generalizing taken c index with
  | nil => exact ⟨by simpa using h, [], (List.append_nil _).symm, .nil⟩
  | cons v items ih =>
    rw [List.zipIdx_cons, List.foldl_cons]
    cases found : stepOf v with
    | none =>
      obtain ⟨reason, refused, done⟩ := step_of_none placement c index found
      rw [List.filterMap_cons_none found] at below ⊢
      have same : Chained palette placement taken (step placement c (v, index)) := by
        rw [done]
        exact ⟨h.reached, h.palette_eq, h.nodeList, h.edges, h.startId, h.counter, h.last, h.y, h.ordinary⟩
      obtain ⟨chained, new, skipped, tells⟩ := ih same (index + 1) below
      refine ⟨chained, ⟨.step, index, reason⟩ :: new, skipped.trans ?_, ?_⟩
      · rw [done]
        exact List.append_assoc ..
      · rw [List.filter_cons_of_pos (by rw [found]; rfl)]
        exact .cons ⟨rfl, rfl, refused⟩ tells
    | some t =>
      obtain ⟨members, kind⟩ := t
      obtain ⟨done, ordinary⟩ := step_of_some placement c index found
      rw [List.filterMap_cons_some found, List.length_cons] at below
      obtain ⟨longer, kept⟩ := h.snoc (by omega) members ordinary index
      rw [← done] at longer kept
      obtain ⟨chained, new, skipped, tells⟩ := ih longer (index + 1) (by simp; omega)
      rw [List.filterMap_cons_some found, List.append_cons, List.filter_cons_of_neg (by simp [found])]
      exact ⟨chained, new, kept ▸ skipped, tells⟩

/-- The steps that are skipped are those that do not become nodes. -/
theorem Chained.foldl (h : Chained palette placement taken c) (items : List Value) (index : Nat)
    (below : taken.length + (items.filterMap stepOf).length < NodeId.maxNumber) :
    Chained palette placement (taken ++ items.filterMap stepOf) ((items.zipIdx index).foldl (step placement) c) ∧
      ((items.zipIdx index).foldl (step placement) c).progress.skipped.map Skipped.entry =
        c.progress.skipped.map Skipped.entry ++
          ((items.zipIdx index).filter fun e => (stepOf e.1).isNone).map fun e => (.step, e.2) := by
  obtain ⟨chained, new, skipped, tells⟩ := h.foldl_tells items index below
  refine ⟨chained, ?_⟩
  rw [skipped, List.map_append, map_entry_of_tellsOf tells]

/-! ## A run along a chain -/

theorem filter_chainEdges {count i : Nat} (bound : count ≤ NodeId.maxNumber) (below : i + 1 ≤ NodeId.maxNumber) :
    (chainEdges count).filter (·.source = .numbered (i + 1)) =
      if i < count then [⟨.numbered (i + 1), .numbered (i + 2), .success⟩] else [] := by
  induction count with
  | zero => rfl
  | succ count ih =>
    have split : chainEdges (count + 1) =
        chainEdges count ++ [⟨.numbered (count + 1), .numbered (count + 2), .success⟩] := by
      rw [chainEdges, List.range_succ, List.map_append]
      rfl
    have same : NodeId.numbered (count + 1) = .numbered (i + 1) ↔ count = i := by
      rw [NodeId.numbered_inj bound below]
      omega
    rw [split, List.filter_append, ih (by omega)]
    rcases Nat.lt_trichotomy i count with less | rfl | more
    · have other : count ≠ i := by omega
      have within : i < count + 1 := by omega
      simp [less, within, same, other]
    · simp
    · have other : count ≠ i := by omega
      have outside : ¬ i < count + 1 := by omega
      have outside' : ¬ i < count := by omega
      simp [same, other, outside, outside']

theorem Chained.leads (h : Chained palette placement taken c) (below : taken.length < NodeId.maxNumber) :
    c.progress.graph.outgoing.Leads (.numbered 1) ((List.range' 2 taken.length).map .numbered) := by
  have branches (i : Nat) (inside : i ≤ taken.length) : c.progress.graph.outgoing.branches (.numbered (i + 1)) =
      if i < taken.length then [.numbered (i + 2)] else [] := by
    have out : c.progress.graph.outgoing.successors (.numbered (i + 1)) = _ :=
      h.reached.sound.successors_eq (.numbered (i + 1))
    rw [h.edges, filter_chainEdges (by omega) (by omega)] at out
    rw [Adjacency.branches, out]
    split <;> rfl
  refine Adjacency.leads_numbered _ taken.length 1 (fun i first inside => ?_) ?_
  · obtain ⟨j, rfl⟩ : ∃ j, i = j + 1 := ⟨i - 1, by omega⟩
    rw [branches j (by omega), if_pos (by omega)]
  · rw [Nat.add_comm, branches _ (Nat.le_refl _), if_neg (Nat.lt_irrefl _)]

theorem Chained.order_cons (h : Chained palette placement taken c) :
    c.progress.graph.order = .numbered 1 :: (List.range' 2 taken.length).map .numbered := by
  rw [h.order_eq, List.range'_succ, List.map_cons]

/-- **A run along a chain comes by its nodes in order.** -/
theorem Chained.runOrder_eq (h : Chained palette placement taken c) (below : taken.length < NodeId.maxNumber) :
    c.progress.graph.runOrder = c.progress.graph.order := by
  have nodup := h.reached.sound.order_nodup
  rw [h.order_cons] at nodup
  rw [Graph.runOrder, h.startId, h.order_cons]
  exact Adjacency.runOrder_of_leads _ _ _ ∅ nodup (fun v _ => by simp) (h.leads below)

theorem Chained.steps_eq (h : Chained palette placement taken c) (below : taken.length < NodeId.maxNumber) :
    c.progress.graph.steps = (taken.zipIdx.map (chainNode palette placement)).map Node.step := by
  have nodes : c.progress.graph.runOrder.filterMap c.progress.graph.node? = chainNodes palette placement taken := by
    rw [h.runOrder_eq below]
    exact h.nodeList
  rw [Graph.steps, nodes, chainNodes, List.filterMap_cons]
  show (taken.zipIdx.map (chainNode palette placement)).filterMap _ = _
  rw [List.filterMap_map, List.map_map, ← List.filterMap_eq_map]
  refine List.filterMap_congr fun t ht => ?_
  have ordinary := h.ordinary t.1 (List.fst_mem_of_mem_zipIdx ht)
  show (if t.1.2.isStart then none else some _) = _
  rw [ordinary]
  rfl

end

end Import

end Workflow
