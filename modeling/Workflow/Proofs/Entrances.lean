import Workflow.Proofs.Accounts
import Workflow.Proofs.Wires
/-!
# Edges into the start node

A start node has no input port, and a release over it connects nothing.  The store, however, does not look at ports: it
is asked for an edge between two nodes and grants it unless it closes a cycle.  So the edges of a workflow spare its
start node (`Graph.Rooted`) just until an edge into it is asked for that the start node does not lead to, or a document
is loaded that holds one (`Graph.Enters`, `Session.Enters`); no gesture and no list of steps brings one in.
-/
namespace Workflow

open Json (Value)

/-- What holds first and is kept by all but some steps holds throughout just where none of those are taken. -/
theorem throughout_iff {σ β : Type} {step : σ → β → σ} {s : σ} {P : σ → Prop} {breaks : σ → β → Prop} (first : P s)
    (one : ∀ (done : List β) (b : β), P (done.foldl step s) →
      (P (step (done.foldl step s) b) ↔ ¬ breaks (done.foldl step s) b)) (all : List β) :
    (∀ done, done <+: all → P (done.foldl step s)) ↔
      ∀ done b, done ++ [b] <+: all → ¬ breaks (done.foldl step s) b := by
  have last (done : List β) (b : β) : (done ++ [b]).foldl step s = step (done.foldl step s) b := by simp
  constructor
  · intro throughout done b part
    have next := throughout _ part
    rw [last] at next
    exact (one done b (throughout done ((List.prefix_append done [b]).trans part))).1 next
  · intro unbroken done
    -- from the end: what comes before the last step is a prefix too
    induction done using List.reverseRecOn with
    | nil => exact fun _ => first
    | append_singleton done b ih =>
      intro part
      rw [last]
      exact (one done b (ih ((List.prefix_append done [b]).trans part))).2 (unbroken done b part)

namespace Graph

variable {α : Type}

/-- **No edge goes into the start node.** -/
def Rooted (g : Graph α) : Prop := ∀ e ∈ g.edges, g.startId ≠ some e.target

theorem rooted_of_no_start {g : Graph α} (unset : g.startId = none) : g.Rooted := fun e _ noted => by
  rw [unset] at noted
  cases noted

theorem rooted_of_no_edges {g : Graph α} (none : g.edges = []) : g.Rooted := fun e he => by
  rw [none] at he
  cases he

/-- A store that lost edges at most. -/
theorem Rooted.of_subset {g g' : Graph α} (h : g.Rooted) (edges : ∀ e ∈ g'.edges, e ∈ g.edges)
    (startId : g'.startId = g.startId) : g'.Rooted := fun e he => startId ▸ h e (edges e he)

theorem Amends.rooted {β : Type} {g : Graph α} {id : NodeId} {next : Node α → Node α} {c : Change α β}
    (amends : g.Amends id next c) (h : g.Rooted) : c.2.Rooted :=
  h.of_subset (fun _ he => amends.edges ▸ he) amends.startId

variable [Scalar α] {g : Graph α}

theorem Rooted.place (h : g.Rooted) (sound : g.Sound) {n : Node α} (fresh : n.id ∉ g.nodes) (counter : Nat) :
    ({ g with counter }.place n).Rooted := by
  intro e he
  show (if n.isStart then some n.id else g.startId) ≠ some e.target
  split
  -- a node that is new may be the start node: edges end in nodes that are there
  · intro same
    exact fresh (Option.some.inj same ▸ (sound.ends e he).2)
  · exact h e he

/-! ## Requests -/

/-- Is an edge into the start node asked for, and granted? -/
def Enters (g : Graph α) : Request α → Prop
  | .createEdge source target outcome => g.startId = some target ∧ g.Granted (.createEdge source target outcome)
  | _ => False

/-- **The start node is entered from where it does not lead to.** -/
theorem Sound.enters_iff (h : g.Sound) (e : Edge) : g.Enters (.connect e) ↔
    g.startId = some e.target ∧ e ∉ g.edges ∧ e.source ∈ g.nodes ∧
      ¬ Relation.ReflTransGen g.Next e.target e.source := by
  show g.startId = some e.target ∧ g.Granted (.connect e) ↔ _
  rw [h.granted_connect_iff]
  refine and_congr_right fun noted => ?_
  obtain ⟨n, found, -⟩ := (h.startId_iff e.target).1 noted
  have here : e.target ∈ g.nodes := (g.mem_nodes_iff e.target).2 ⟨n, found⟩
  simp [here]

theorem Rooted.connect_iff (h : g.Rooted) (e : Edge) : (g.perform (.connect e)).2.Rooted ↔ ¬ g.Enters (.connect e) := by
  show _ ↔ ¬ (g.startId = some e.target ∧ g.Granted (.connect e))
  by_cases granted : g.Granted (.connect e)
  · rw [perform_connect granted]
    constructor
    · exact fun rooted entered => rooted e (List.mem_append_right _ (List.mem_singleton_self e)) entered.1
    · intro spared k hk
      rcases List.mem_append.1 hk with old | new
      · exact h k old
      · rw [List.mem_singleton.1 new]
        exact fun noted => spared ⟨noted, granted⟩
  · have same : (g.perform (.connect e)).2 = g := by
      rcases g.createEdge_cases e.source e.target e.outcome with ⟨r, done⟩ | ⟨-, -, -, -, -, done⟩
      · exact congrArg (·.2) done
      · exact absurd ((g.granted_connect e).2 (congrArg (·.1) done)) granted
    rw [same]
    exact iff_of_true h fun entered => granted entered.2

/-- **The edges spare the start node until one is granted into it.** -/
theorem Rooted.perform_iff (h : g.Rooted) (sound : g.Sound) (r : Request α) :
    (g.perform r).2.Rooted ↔ ¬ g.Enters r := by
  cases r with
  | createEdge source target outcome => exact h.connect_iff ⟨source, target, outcome⟩
  | createNode kind position =>
    refine iff_of_true ?_ not_false
    show (g.createNode kind position).2.Rooted
    rcases g.createNode_cases kind position with ⟨r, -, done⟩ | ⟨-, done⟩ | ⟨n, -, -, -, fresh, done⟩ <;> rw [done]
    · exact h
    · exact h
    · exact h.place sound fresh n
  | restoreNode id kind position data =>
    refine iff_of_true ?_ not_false
    show (g.restoreNode id kind position data).2.Rooted
    rcases g.restoreNode_cases id kind position data with ⟨r, done⟩ | ⟨fresh, -, done⟩ <;> rw [done]
    · exact h
    · exact h.place sound fresh _
  | deleteNode id =>
    exact iff_of_true (h.of_subset (fun e he => g.mem_edges_of_deleteNode he) (g.startId_deleteNode id)) not_false
  | moveNode id position => exact iff_of_true ((g.moveNode_amends id position).rooted h) not_false
  | updateField id name v => exact iff_of_true ((g.updateField_amends id name v).rooted h) not_false
  | replaceData id data => exact iff_of_true ((g.replaceData_amends id data).rooted h) not_false
  | deleteEdge e =>
    refine iff_of_true (h.of_subset (fun k hk => ?_) (g.startId_deleteEdge e)) not_false
    exact ((sound.mem_deleteEdge e k).1 hk).2
  | clear => exact iff_of_true (rooted_of_no_edges rfl) not_false
  | arrange placement =>
    have moved := fun (g : Graph α) id position (h : g.Rooted) => (g.moveNode_amends id position).rooted h
    exact iff_of_true (arrange_induction moved placement h) not_false

theorem rooted_after_iff (h : g.Rooted) (sound : g.Sound) (requests : List (Request α)) :
    (∀ done, done <+: requests → (g.after done).Rooted) ↔
      ∀ done r, done ++ [r] <+: requests → ¬ (g.after done).Enters r :=
  throughout_iff h (fun done r rooted => rooted.perform_iff (sound.after done) r) requests

end Graph

/-! ## Imports -/

namespace Import

open Workflow.Graph (Request)

/-- Does a document hold a connection whose target is a start node of its own? -/
def HoldsEntrance (document : Value) : Prop :=
  ∃ c ∈ itemsOf (document.member? "connections"), ∃ n ∈ itemsOf (document.member? "nodes"), ∃ e r,
    readEdge c = .ok e ∧ readNodeRecord n = .ok r ∧ r.kind.isStart = true ∧ r.id = e.target

/-- The edges of a graph are told by some items, and so is its start node. -/
structure Told (nodes connections : List Value) (g : Graph Float) : Prop where
  edges : ∀ e ∈ g.edges, ∃ v ∈ connections, readEdge v = .ok e
  start : ∀ id, g.startId = some id → ∃ v ∈ nodes, ∃ r, readNodeRecord v = .ok r ∧ r.kind.isStart = true ∧ r.id = id

variable {nodes connections : List Value} {p : Progress}

theorem Told.node (told : Told nodes connections p.graph) {entry : Value × Nat} (listed : entry.1 ∈ nodes) :
    Told nodes connections (node p entry).graph := by
  rcases tolerant_node p entry.1 entry.2 with ⟨r, value, granted, done⟩ | ⟨-, reason, done⟩ <;> rw [done]
  · show Told nodes connections (p.graph.perform (.restore r.node)).2
    rw [Graph.perform_restore ((Graph.granted_restore_iff r.node).1 granted)]
    refine ⟨told.edges, fun id noted => ?_⟩
    have noted : (if r.kind.isStart then some r.id else p.graph.startId) = some id := noted
    split at noted
    · next start => exact ⟨entry.1, listed, r, value, start, Option.some.inj noted⟩
    · exact told.start id noted
  · exact told

theorem Told.connection (told : Told nodes connections p.graph) {entry : Value × Nat} (listed : entry.1 ∈ connections) :
    Told nodes connections (connection p entry).graph := by
  rcases tolerant_connection p entry.1 entry.2 with ⟨e, value, granted, done⟩ | ⟨-, reason, done⟩ <;> rw [done]
  · show Told nodes connections (p.graph.perform (.connect e)).2
    rw [Graph.perform_connect granted]
    refine ⟨fun k hk => ?_, told.start⟩
    rcases List.mem_append.1 hk with old | new
    · exact told.edges k old
    · rw [List.mem_singleton.1 new]
      exact ⟨entry.1, listed, value⟩
  · exact told

theorem told_visual (palette : Palette) (document : Value) : Told (itemsOf (document.member? "nodes"))
    (itemsOf (document.member? "connections")) (visual palette document).graph := by
  refine List.foldlRecOn (motive := fun p => Told _ _ p.graph) _ connection ?_
    fun _ told entry listed => told.connection (List.fst_mem_of_mem_zipIdx listed)
  exact List.foldlRecOn (motive := fun p => Told _ _ p.graph) _ node (b := ⟨.empty palette, []⟩) ⟨nofun, nofun⟩
    fun _ told entry listed => told.node (List.fst_mem_of_mem_zipIdx listed)

theorem rooted_visual {palette : Palette} {document : Value} (spared : ¬ HoldsEntrance document) :
    (visual palette document).graph.Rooted := by
  intro e he noted
  have told := told_visual palette document
  obtain ⟨c, hc, edge⟩ := told.edges e he
  obtain ⟨n, hn, r, record, start, same⟩ := told.start _ noted
  exact spared ⟨c, hc, n, hn, e, r, edge, record, start, same⟩

theorem rooted_link (h : p.graph.Rooted) {id : NodeId} (other : p.graph.startId ≠ some id) (last : Option NodeId)
    (index : Nat) : (link p last id index).graph.Rooted := by
  cases last with
  | none => exact h
  | some source =>
    have next := (h.connect_iff ⟨source, id, .success⟩).2 fun entered => other entered.1
    rw [Graph.Request.connect, Graph.perform] at next
    rw [link]
    split
    · next e => rwa [e] at next
    · next e => rwa [e] at next

theorem rooted_extend {c : Chain} (h : c.progress.graph.Rooted) (sound : c.progress.graph.Sound) {kind : Kind}
    (ordinary : kind.isStart = false) (placement : PlacementSettings Float) (members : List (String × Value))
    (index : Nat) : (extend placement c members kind index).progress.graph.Rooted := by
  rw [extend]
  rcases c.progress.graph.createNode_cases kind ⟨placement.stepColumnX, c.y⟩ with
    ⟨r, -, e⟩ | ⟨-, e⟩ | ⟨n, -, -, -, fresh, e⟩ <;> rw [e]
  · exact h
  · exact h
  · let g := { c.progress.graph with counter := n }.place
      ⟨.numbered n, kind, (⟨placement.stepColumnX, c.y⟩ : Point Float).clamp, c.progress.graph.palette.defaultData kind⟩
    have kept := g.replaceData_amends (.numbered n) (stepData members (g.palette.defaultData kind))
    refine rooted_link (kept.rooted (h.place sound fresh n)) (fun noted => ?_) c.last index
    -- the node of the step is no start node, and it is new, so it is not the one that was there before
    have noted : (if kind.isStart then some (.numbered n) else c.progress.graph.startId) = some (.numbered n) :=
      kept.startId.symm.trans noted
    rw [ordinary, if_neg Bool.false_ne_true] at noted
    obtain ⟨m, found, -⟩ := (sound.startId_iff _).1 noted
    exact fresh ((Graph.mem_nodes_iff ..).2 ⟨m, found⟩)

theorem rooted_step {c : Chain} (h : c.progress.graph.Rooted) (sound : c.progress.graph.Sound)
    (placement : PlacementSettings Float) (entry : Value × Nat) : (step placement c entry).progress.graph.Rooted := by
  rw [step]
  split
  · split
    · exact h
    · split
      · exact h
      · next ordinary => exact rooted_extend h sound (eq_false_of_ne_true ordinary) placement _ _
  · exact h

/-- **No list of steps leads into its start node.** -/
theorem rooted_steps (palette : Palette) (placement : PlacementSettings Float) (list : List Value) :
    (steps palette placement list).graph.Rooted := by
  let start := Graph.withStart palette placement.startPosition
  -- soundness goes along: only in a sound graph is the next node a new one
  refine (List.foldlRecOn (motive := fun c => c.progress.graph.Rooted ∧ c.progress.graph.Sound) _ (step placement)
    (b := ⟨⟨start, []⟩, start.startId, placement.firstStepY⟩) ⟨Graph.rooted_of_no_edges rfl, Graph.sound_withStart ..⟩
    fun c h entry _ => ⟨rooted_step h.1 h.2 placement entry, ?_⟩).1
  exact step_induction (fun _ r sound => sound.perform r) placement entry h.2

/-- **What no document holds, no import brings in.** -/
theorem rooted_of_import {palette : Palette} {placement : PlacementSettings Float} {v : Value} {i : Imported}
    (imported : ofValue palette placement v = .ok i) (spared : ¬ HoldsEntrance v) : i.graph.Rooted := by
  obtain ⟨list, -, rfl⟩ | ⟨-, -, rfl⟩ := (ofValue_eq_ok_iff ..).1 imported
  · exact rooted_steps palette placement list
  · exact rooted_visual spared

end Import

/-! ## Sessions -/

theorem Hand.Effect.rooted {h : Hand} {c : Canvas} {gesture : Gesture} {r : Handled} (effect : h.Effect c gesture r)
    (sound : c.graph.Sound) (rooted : c.graph.Rooted) : r.2.2.graph.Rooted := by
  cases effect with
  | dragged id => exact (c.graph.moveNode_amends id _).rooted rooted
  | connected source target outcome n was found enters =>
    -- a node that a connection may be dropped on has an input port
    refine (rooted.connect_iff ⟨source, target, outcome⟩).2 fun entered => ?_
    obtain ⟨m, there, start⟩ := (sound.startId_iff target).1 entered.1
    rw [found] at there
    cases there
    rw [enters] at start
    cases start
  | _ => exact rooted

namespace Session

open Workflow.Action (Reply Refusal)

variable {s : Session}

/-- Does an action bring in an edge into the start node: one that is asked for, or one in what is loaded? -/
def Enters (s : Session) : Action → Prop
  | .createEdge source target outcome => s.graph.Enters (.createEdge source target outcome)
  | .loadText text => ∃ i, Import.ofText s.graph.palette s.settings.placement text = .ok i ∧ ¬ i.graph.Rooted
  | .loadValue v => ∃ i, Import.ofValue s.graph.palette s.settings.placement v = .ok i ∧ ¬ i.graph.Rooted
  | _ => False

theorem rooted_started_iff {g : Graph Float} (sound : g.Sound) : (s.started g).Rooted ↔ g.Rooted := by
  rcases s.started_cases g with ⟨-, e⟩ | e <;> rw [e]
  rcases g.createNode_cases .start s.settings.placement.startPosition with
    ⟨r, -, done⟩ | ⟨-, done⟩ | ⟨n, free, -, -, fresh, done⟩ <;> rw [done]
  · exact .rfl
  -- a start node is created only where there is none, so the graph before has nothing to spare
  · have rooted := Graph.rooted_of_no_start (Graph.startId_of_startConflict free rfl)
    exact iff_of_true (rooted.place sound fresh n) rooted

theorem Loads.enters {a : Action} {i : Imported} (loads : s.Loads a i) (entered : ¬ i.graph.Rooted) : s.Enters a := by
  cases loads with
  | text text i imported => exact ⟨i, imported, entered⟩
  | value v i imported => exact ⟨i, imported, entered⟩

/-- An action that brings in no edge into the start node asks the store for one thing at most, and not for such an
edge. -/
theorem Effect.rooted {a : Action} {r : Except Refusal Reply × Session} (effect : s.Effect a r) (h : s.graph.Rooted)
    (sound : s.graph.Sound) (spared : ¬ s.Enters a) : r.2.graph.Rooted := by
  have kept (r : Graph.Request Float) (spared : ¬ s.graph.Enters r) : (s.graph.perform r).2.Rooted :=
    (h.perform_iff sound r).2 spared
  cases effect with
  | refused | spared | selected | deselected | clicked | expired | viewed => exact h
  | handled g r effect => exact effect.rooted sound h
  | created _ kind position | uncreated _ kind position => exact kept (.createNode kind position) not_false
  | deleted _ id => exact kept (.deleteNode id) not_false
  | moved id position => exact kept (.moveNode id position) not_false
  | updated id name v => exact kept (.updateField id name v) not_false
  | connected source target outcome => exact kept (.createEdge source target outcome) spared
  | disconnected _ e => exact kept (.deleteEdge e) not_false
  | arranged => exact kept (.arrange s.settings.placement) not_false
  | cleared => exact (rooted_started_iff sound.clear).2 (Graph.rooted_of_no_edges rfl)
  | loaded _ i loads =>
    exact (rooted_started_iff loads.reachable.sound).2 (not_not.1 fun entered => spared (loads.enters entered))

theorem graph_createEdge (s : Session) (source target : NodeId) (outcome : Outcome) :
    (s.createEdge source target outcome).2.graph = (s.graph.perform (.createEdge source target outcome)).2 := by
  show _ = (s.graph.createEdge source target outcome).2
  rw [createEdge]
  split <;> next done => rw [done]; rfl

theorem not_rooted_load {i : Imported} (sound : i.graph.Sound) (entered : ¬ i.graph.Rooted) :
    ¬ (s.load (.ok i)).2.graph.Rooted := by
  rw [load_ok]
  exact fun rooted => entered ((rooted_started_iff sound).1 rooted)

/-- **The edges of a workflow spare its start node until an action brings one in.** -/
theorem rooted_perform_iff (h : s.graph.Rooted) (sound : s.graph.Sound) (a : Action) :
    (s.perform a).2.graph.Rooted ↔ ¬ s.Enters a := by
  refine ⟨fun rooted entered => ?_, (s.effect_perform a).rooted h sound⟩
  cases a with
  | createEdge source target outcome =>
    have rooted : (s.createEdge source target outcome).2.graph.Rooted := rooted
    rw [graph_createEdge] at rooted
    exact (h.perform_iff sound _).1 rooted entered
  | loadText text =>
    obtain ⟨i, imported, enters⟩ := entered
    have rooted : (s.load (Import.ofText s.graph.palette s.settings.placement text)).2.graph.Rooted := rooted
    rw [imported] at rooted
    exact not_rooted_load (Import.reachable_of_text imported).sound enters rooted
  | loadValue v =>
    obtain ⟨i, imported, enters⟩ := entered
    have rooted : (s.load (Import.ofValue s.graph.palette s.settings.placement v)).2.graph.Rooted := rooted
    rw [imported] at rooted
    exact not_rooted_load (Import.reachable_of_import imported).sound enters rooted
  | _ => exact entered

variable {palette : Palette} {settings : Settings Float} {mode : Mode}

/-- **The start node is entered only by an edge that names it.**  Throughout a history the edges spare the start node
just if no action brings in an edge into it, and the same holds of the requests to a store.  Of the actions only two
can: an edge is asked for whose target is the start node, and it is granted wherever the start node does not lead to its
source; or a document is loaded with a connection whose target is a start node of its own.  No gesture does, nor any
list of steps. -/
theorem entered_only_by_name (opened : ofSettings palette settings mode = .ok s) (history : List Action) :
    ((∀ done, done <+: history → ∀ e ∈ (s.after done).graph.edges, (s.after done).graph.startId ≠ some e.target) ↔
      ∀ done a, done ++ [a] <+: history → ¬ (s.after done).Enters a) ∧
    (∀ e, (s.after history).Enters (.createEdge e.source e.target e.outcome) ↔
      (s.after history).graph.startId = some e.target ∧ e ∉ (s.after history).graph.edges ∧
        e.source ∈ (s.after history).graph.nodes ∧
        ¬ Relation.ReflTransGen (s.after history).graph.Next e.target e.source) ∧
    (∀ placement v i, Import.ofValue palette placement v = .ok i → ¬ Import.HoldsEntrance v →
      ∀ e ∈ i.graph.edges, i.graph.startId ≠ some e.target) ∧
    ∀ g : Graph Float, g.Reachable → (∀ e ∈ g.edges, g.startId ≠ some e.target) → ∀ requests,
      (∀ done, done <+: requests → ∀ e ∈ (g.after done).edges, (g.after done).startId ≠ some e.target) ↔
        ∀ done r, done ++ [r] <+: requests → ¬ (g.after done).Enters r := by
  have sound (done : List Action) : (s.after done).graph.Sound :=
    (inStep_after (inStep_ofSettings opened) done).reached.sound
  have first : s.graph.Rooted := by
    rw [ofSettings_eq opened]
    exact Graph.rooted_of_no_edges (by cases mode <;> rfl)
  exact ⟨throughout_iff (P := fun s : Session => s.graph.Rooted) first
      (fun done a rooted => rooted_perform_iff rooted (sound done) a) history,
    (sound history).enters_iff, fun placement v i imported spared => Import.rooted_of_import imported spared,
    fun g reached rooted requests => Graph.rooted_after_iff rooted reached.sound requests⟩

theorem entered_only_by_name_not_by_releasing : ∃ s, ofSettings ⟨∅⟩ .standard .create = .ok s ∧
    ∀ e ∈ (s.after [.createNode (.action "click") ⟨300, 100⟩, .gesture (.beginConnection (.numbered 2) .success),
        .gesture (.release (some (.numbered 1)))]).graph.edges,
      (s.after [.createNode (.action "click") ⟨300, 100⟩, .gesture (.beginConnection (.numbered 2) .success),
        .gesture (.release (some (.numbered 1)))]).graph.startId ≠ some e.target := by
  obtain ⟨s, opened⟩ := @exists_ofSettings .standard (by decide +kernel) ⟨∅⟩ .create
  refine ⟨s, opened, (entered_only_by_name opened _).1.2 (fun done a part => ?_) _ (List.prefix_refl _)⟩
  have listed := part.subset (List.mem_append_right done (List.mem_singleton_self a))
  simp only [List.mem_cons, List.not_mem_nil, or_false] at listed
  rcases listed with rfl | rfl | rfl <;> exact not_false

theorem start_entered_by_connecting_back :
    (∃ s, ofSettings ⟨∅⟩ .standard .create = .ok s ∧ ∃ e ∈ (s.after [.createNode (.action "click") ⟨300, 100⟩,
      .createEdge (.numbered 2) (.numbered 1) .success]).graph.edges,
      (s.after [.createNode (.action "click") ⟨300, 100⟩,
        .createEdge (.numbered 2) (.numbered 1) .success]).graph.startId = some e.target) ∧
    (∃ g : Graph Float, g.Reachable ∧ ∃ e ∈ g.edges, g.startId = some e.target) ∧
    ∃ i, Import.ofValue ⟨∅⟩ .standard (.object [("workflow_type", .string "visual"),
      ("nodes", .array [.object [("id", .string "a"), ("type", .string "start")],
        .object [("id", .string "b"), ("type", .string "click")]]),
      ("connections", .array [.object [("source", .string "b"), ("target", .string "a"),
        ("type", .string "success")]])]) = .ok i ∧ ∃ e ∈ i.graph.edges, i.graph.startId = some e.target := by
  refine ⟨?_, ?_, ?_⟩
  · obtain ⟨s, opened⟩ := @exists_ofSettings .standard (by decide +kernel) ⟨∅⟩ .create
    refine ⟨s, opened, ⟨.numbered 2, .numbered 1, .success⟩, ?_⟩
    obtain rfl := ofSettings_eq opened
    exact ⟨by decide +kernel, by decide +kernel⟩
  · refine ⟨((Graph.withStart ⟨∅⟩ ⟨100, 100⟩).after [.createNode (.action "click") ⟨300, 100⟩,
      .createEdge (.numbered 2) (.numbered 1) .success]), (Graph.Reachable.withStart _ _).after _,
      ⟨.numbered 2, .numbered 1, .success⟩, ?_⟩
    exact ⟨by decide +kernel, by decide +kernel⟩
  · exact ⟨_, rfl, ⟨⟨"b"⟩, ⟨"a"⟩, .success⟩, by decide +kernel, by decide +kernel⟩

end Session

end Workflow
