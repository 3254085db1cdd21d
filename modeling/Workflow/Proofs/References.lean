import Workflow.Proofs.Sessions
/-!
# What a session holds on to

A session points into its graph from four places: the selection, the hand, the click that waits for a second one, and
the start node a session needs that authors a workflow.  `Session.Anchored` says that none of them dangles.  Changes
that only add to a graph (`Graph.Keeps`) leave them all as they are; what deletes or replaces lets go of just what it
takes away.

A waiting click says more than that its edge is there: the edge has been there ever since (`Session.ClickedSince`), so
an edge deleted and drawn again starts afresh.
-/
namespace Workflow

/-! ## Changes that only add -/

namespace Graph

variable {α : Type}

/-- Nothing of a graph is missing from another, and its numbering goes on. -/
structure Keeps (g g' : Graph α) : Prop where
  nodes : ∀ id ∈ g.nodes, id ∈ g'.nodes
  edges : ∀ e ∈ g.edges, e ∈ g'.edges
  startId : g'.startId = none → g.startId = none
  counter : g.counter ≤ g'.counter

theorem Keeps.refl (g : Graph α) : g.Keeps g := ⟨fun _ h => h, fun _ h => h, fun h => h, Nat.le_refl _⟩

theorem Keeps.trans {g g' g'' : Graph α} (h : g.Keeps g') (h' : g'.Keeps g'') : g.Keeps g'' where
  nodes id hm := h'.nodes id (h.nodes id hm)
  edges e he := h'.edges e (h.edges e he)
  startId unset := h.startId (h'.startId unset)
  counter := Nat.le_trans h.counter h'.counter

theorem Amends.keeps {β : Type} {g : Graph α} {id : NodeId} {next : Node α → Node α} {c : Change α β}
    (amends : g.Amends id next c) : g.Keeps c.2 := by
  rcases amends with ⟨-, rfl⟩ | ⟨n, answer, -, rfl⟩
  · exact .refl g
  · exact ⟨fun k hk => (mem_insert_node ..).2 (.inr hk), fun _ h => h, fun h => h, Nat.le_refl _⟩

theorem keeps_createEdge (g : Graph α) (source target : NodeId) (outcome : Outcome) :
    g.Keeps (g.createEdge source target outcome).2 := by
  rcases g.createEdge_cases source target outcome with ⟨r, e⟩ | ⟨-, -, -, -, -, e⟩ <;> rw [e]
  · exact .refl g
  · exact ⟨fun _ h => h, fun _ h => List.mem_append_left _ h, fun h => h, Nat.le_refl _⟩

variable [Scalar α]

theorem keeps_createNode (g : Graph α) (kind : Kind) (position : Point α) :
    g.Keeps (g.createNode kind position).2 := by
  rcases g.createNode_cases kind position with ⟨r, -, e⟩ | ⟨-, e⟩ | ⟨n, -, above, -, -, e⟩ <;> rw [e]
  · exact .refl g
  · exact ⟨fun _ h => h, fun _ h => h, fun h => h, Nat.le_max_left _ _⟩
  · refine ⟨fun id hm => (mem_insert_node ..).2 (.inr hm), fun _ h => h, fun unset => ?_, Nat.le_of_lt above⟩
    rw [place] at unset
    split at unset
    · cases unset
    · exact unset

theorem mem_createNode_of_ok (g : Graph α) {kind : Kind} {position : Point α} {id : NodeId}
    (created : (g.createNode kind position).1 = .ok id) : id ∈ (g.createNode kind position).2.nodes := by
  rcases g.createNode_cases kind position with ⟨r, -, e⟩ | ⟨-, e⟩ | ⟨n, -, -, -, -, e⟩ <;> rw [e] at created ⊢
  · cases created
  · cases created
  · cases created
    exact (mem_insert_node ..).2 (.inl rfl)

theorem keeps_arrange (g : Graph α) (placement : PlacementSettings α) : g.Keeps (Layout.arrange g placement).2 :=
  arrange_induction (fun next id position h => h.trans (next.moveNode_amends id position).keeps) placement (.refl g)

/-- A graph that was to be given a start node has one, or has no number left for one. -/
theorem counter_of_createNode_start {g : Graph α} (bound : g.counter ≤ NodeId.maxNumber) (position : Point α)
    (unset : (g.createNode .start position).2.startId = none) :
    (g.createNode .start position).2.counter = NodeId.maxNumber := by
  rcases g.createNode_cases .start position with ⟨r, conflict, e⟩ | ⟨-, e⟩ | ⟨n, -, -, -, -, e⟩ <;> rw [e] at unset ⊢
  · rw [startConflict, unset, Option.map_none, ite_self] at conflict
    cases conflict
  · exact Nat.max_eq_right bound
  · cases unset

end Graph

/-! ## The hand -/

namespace Hand

/-- What a hand holds is in the graph, and it draws a preview only while it makes a connection. -/
structure Anchored (h : Hand) (g : Graph Float) : Prop where
  held : ∀ id, h.activity.involves id = true → id ∈ g.nodes
  previews : h.Previews

theorem anchored_idle (g : Graph Float) : idle.Anchored g :=
  ⟨fun _ h => (Bool.false_ne_true h).elim, fun h => (Bool.false_ne_true h).elim⟩

theorem Anchored.dragged {h : Hand} {g : Graph Float} (anchored : h.Anchored g) {id : NodeId}
    {anchor origin : Point Float} (was : h.activity = .dragging id anchor origin) : id ∈ g.nodes := by
  refine anchored.held id ?_
  rw [was]
  exact beq_self_eq_true id

theorem Anchored.source {h : Hand} {g : Graph Float} (anchored : h.Anchored g) {source : NodeId} {outcome : Outcome}
    (was : h.activity = .connecting source outcome) : source ∈ g.nodes := by
  refine anchored.held source ?_
  rw [was]
  exact beq_self_eq_true source

theorem Anchored.keeps {h : Hand} {g g' : Graph Float} (anchored : h.Anchored g) (keeps : g.Keeps g') :
    h.Anchored g' :=
  ⟨fun id holds => keeps.nodes id (anchored.held id holds), anchored.previews⟩

/-- A gesture only adds to the graph. -/
theorem Effect.keeps {h : Hand} {c : Canvas} {gesture : Gesture} {r : Handled} (effect : h.Effect c gesture r) :
    c.graph.Keeps r.2.2.graph := by
  cases effect with
  | dragged id => exact (c.graph.moveNode_amends id _).keeps
  | connected source target outcome => exact c.graph.keeps_createEdge source target outcome
  | _ => exact .refl _

/-- **A gesture leaves the hand anchored.** -/
theorem Effect.anchored {h : Hand} {c : Canvas} {gesture : Gesture} {r : Handled} (effect : h.Effect c gesture r)
    (anchored : h.Anchored c.graph) : r.2.1.Anchored r.2.2.graph := by
  refine ⟨fun k holds => ?_, effect.previews anchored.previews⟩
  have keeps := effect.keeps
  cases effect with
  | ignored | refused | dragged | panned => exact keeps.nodes k (anchored.held k holds)
  | ended | lost | declined | grasped | connected => cases holds
  | grabbed id point n was found =>
    rw [← eq_of_beq holds]
    exact (c.graph.mem_nodes_iff id).2 ⟨n, found⟩
  | drawn id port outcome out found => rwa [← eq_of_beq holds]
  | previewed source outcome point preview was =>
    refine anchored.held k ?_
    rwa [was]

theorem Effect.of_dragStarted {h : Hand} {c : Canvas} {gesture : Gesture} {r : Handled} (effect : h.Effect c gesture r)
    {id : NodeId} (started : r.1 = .ok (.dragStarted id)) : id ∈ r.2.2.graph.nodes := by
  cases effect with
  | ended gesture response quiet => exact absurd (Except.ok.inj started) (quiet id)
  | grabbed k point n was found =>
    cases started
    exact (c.graph.mem_nodes_iff id).2 ⟨n, found⟩
  | _ => cases started

/-- **A hand that holds a node of the graph can move.** -/
theorem exists_handle_move {h : Hand} {c : Canvas} (anchored : h.Anchored c.graph) (point : Point Float) :
    ∃ r, (h.handle c (.move point)).1 = .ok r := by
  unfold handle
  cases activity : h.activity with
  | idle => exact ⟨_, rfl⟩
  | panning anchor => exact ⟨_, rfl⟩
  | connecting source outcome => exact ⟨_, rfl⟩
  | dragging id anchor origin =>
    obtain ⟨n, found⟩ := (c.graph.mem_nodes_iff id).1 (anchored.dragged activity)
    refine ⟨.nodeMoved id (origin + (point - anchor).scale (1 / c.viewport.zoom)).clamp, ?_⟩
    show (h.drag c id anchor origin point).1 = _
    rw [drag, Graph.moveNode, found]

end Hand

/-! ## Sessions -/

namespace Session

open Workflow.Action (Reply Refusal)

/-- **Nothing that a session of some mode holds on to is missing.** -/
structure Anchored (mode : Mode) (s : Session) : Prop where
  reached : s.graph.Reachable
  mode_eq : s.mode = mode
  selected : ∀ id, s.selection = some id → id ∈ s.graph.nodes
  hand : s.hand.Anchored s.graph
  waiting : ∀ p, s.clicks.pending = some p → p.edge ∈ s.graph.edges
  start : mode = .create → s.graph.startId = none → s.graph.counter = NodeId.maxNumber

variable {mode : Mode} {s t : Session}

/-- A start node that could not be given to a graph cannot be given to one that has more. -/
theorem Anchored.start_keeps (h : s.Anchored mode) {g : Graph Float} (reached : g.Reachable) (keeps : s.graph.Keeps g)
    (authors : mode = .create) (unset : g.startId = none) : g.counter = NodeId.maxNumber := by
  have full := h.start authors (keeps.startId unset)
  have more := keeps.counter
  rw [full] at more
  exact Nat.le_antisymm reached.counter_le more

/-- The graph gets more; selection, hand and clicks are as before. -/
theorem Anchored.withMore (h : s.Anchored mode) {canvas : Canvas} (reached : canvas.graph.Reachable)
    (keeps : s.graph.Keeps canvas.graph) : Anchored mode { s with canvas } where
  reached := reached
  mode_eq := h.mode_eq
  selected id chosen := keeps.nodes id (h.selected id chosen)
  hand := h.hand.keeps keeps
  waiting p held := keeps.edges p.edge (h.waiting p held)
  start := h.start_keeps reached keeps

theorem Anchored.withSelection (h : s.Anchored mode) {selection : Option NodeId}
    (selected : ∀ id, selection = some id → id ∈ s.graph.nodes) : Anchored mode { s with selection } :=
  { h with selected }

theorem Anchored.withClicks (h : s.Anchored mode) {clicks : DoubleClick}
    (waiting : ∀ p, clicks.pending = some p → p.edge ∈ s.graph.edges) : Anchored mode { s with clicks } :=
  { h with waiting }

theorem Anchored.handled (h : s.Anchored mode) {g : Gesture} {r : Hand.Handled} (effect : s.hand.Effect s.canvas g r)
    (reached : r.2.2.graph.Reachable) {selection : Option NodeId}
    (chosen : selection = s.selection ∨ ∃ id, r.1 = .ok (.dragStarted id) ∧ selection = some id) :
    Anchored mode { s with hand := r.2.1, canvas := r.2.2, selection } where
  reached := reached
  mode_eq := h.mode_eq
  selected id selected := by
    rcases chosen with rfl | ⟨k, started, rfl⟩
    · exact effect.keeps.nodes id (h.selected id selected)
    · cases selected
      exact effect.of_dragStarted started
  hand := effect.anchored h.hand
  waiting p held := effect.keeps.edges p.edge (h.waiting p held)
  start := h.start_keeps reached effect.keeps

/-- A node is taken out, and neither selected nor held, and its edges wait for no click. -/
theorem Anchored.deleted (h : s.Anchored mode) {id : NodeId} {removed : Graph.Removed Float}
    (done : (s.graph.deleteNode id).1 = .ok removed) : Anchored mode
      { s with
        canvas := s.canvas.without id
        clicks := s.clicks.without (s.graph.edgesTouching id)
        selection := if s.selection = some id then none else s.selection
        hand := if s.hand.activity.involves id then .idle else s.hand } := by
  have others : ∀ k ∈ s.graph.nodes, id ≠ k → k ∈ (s.graph.deleteNode id).2.nodes := by
    intro k present other
    rw [Graph.mem_nodes_iff, s.graph.node?_deleteNode other, ← Graph.mem_nodes_iff]
    exact present
  refine ⟨h.reached.perform (.deleteNode id), h.mode_eq, fun k chosen => ?_, ?_, fun p held => ?_, ?_⟩
  · have chosen : (if s.selection = some id then none else s.selection) = some k := chosen
    show k ∈ (s.graph.deleteNode id).2.nodes
    split at chosen
    · cases chosen
    · next kept =>
      refine others k (h.selected k chosen) fun same => kept ?_
      rw [chosen, same]
  · show (if s.hand.activity.involves id then Hand.idle else s.hand).Anchored (s.graph.deleteNode id).2
    split
    · exact Hand.anchored_idle _
    · next free =>
      refine ⟨fun k holds => others k (h.hand.held k holds) fun same => free ?_, h.hand.previews⟩
      rwa [same]
  · obtain ⟨waited, spared⟩ := s.clicks.pending_of_without held
    show p.edge ∈ (s.graph.deleteNode id).2.edges
    rw [s.graph.edges_deleteNode done, List.mem_filter]
    exact ⟨h.waiting p waited, decide_eq_true spared⟩
  · intro authors unset
    rw [← h.start authors ((s.graph.startId_deleteNode id).symm.trans unset)]
    exact s.graph.counter_deleteNode id

/-- An edge is taken out, and waits for no click. -/
theorem Anchored.disconnected (h : s.Anchored mode) (e : Edge) :
    Anchored mode { s with canvas := s.canvas.disconnected e, clicks := s.clicks.without [e] } where
  reached := h.reached.perform (.deleteEdge e)
  mode_eq := h.mode_eq
  selected id chosen := by
    show id ∈ (s.graph.deleteEdge e).2.nodes
    rw [Graph.mem_nodes_iff, s.graph.node?_deleteEdge e, ← Graph.mem_nodes_iff]
    exact h.selected id chosen
  hand := by
    refine ⟨fun id holds => ?_, h.hand.previews⟩
    show id ∈ (s.graph.deleteEdge e).2.nodes
    rw [Graph.mem_nodes_iff, s.graph.node?_deleteEdge e, ← Graph.mem_nodes_iff]
    exact h.hand.held id holds
  waiting p held := by
    obtain ⟨waited, spared⟩ := s.clicks.pending_of_without held
    have other : e ≠ p.edge := fun same => spared (List.mem_singleton.2 same.symm)
    exact (h.reached.sound.mem_deleteEdge e p.edge).2 ⟨other, h.waiting p waited⟩
  start authors unset := by
    rw [← h.start authors ((s.graph.startId_deleteEdge e).symm.trans unset)]
    exact s.graph.counter_deleteEdge e

/-- A session that begins anew with some graph holds on to nothing but the start node it needs. -/
theorem anchored_started (s : Session) {g : Graph Float} (reached : g.Reachable) (settings : Settings Float)
    (viewport : Viewport Float) (wiring : Wiring) :
    Anchored s.mode ⟨settings, s.mode, ⟨s.started g, viewport, wiring⟩, .idle, s.clicks.reset, none⟩ where
  reached := s.reachable_started reached
  mode_eq := rfl
  selected _ chosen := by cases chosen
  hand := Hand.anchored_idle _
  waiting _ held := by cases held
  start authors unset := by
    show (s.started g).counter = NodeId.maxNumber
    have unset : (s.started g).startId = none := unset
    rcases s.started_cases g with ⟨set, e⟩ | e <;> rw [e] at unset ⊢
    · exact (set authors unset).elim
    · exact Graph.counter_of_createNode_start reached.counter_le _ unset

/-- **Every action keeps a session anchored.** -/
theorem Effect.anchored {a : Action} {r : Except Refusal Reply × Session} (effect : s.Effect a r)
    (h : s.Anchored mode) : r.2.Anchored mode := by
  have reached := effect.reachable h.reached
  cases effect with
  | refused | spared => exact h
  | handled g r effect selection chosen => exact h.handled effect reached chosen
  | created _ kind position id selection _ done chosen =>
    refine (h.withMore reached (s.graph.keeps_createNode kind position)).withSelection fun k selected => ?_
    rcases chosen with rfl | rfl
    · exact (s.graph.keeps_createNode kind position).nodes k (h.selected k selected)
    · cases selected
      exact s.graph.mem_createNode_of_ok done
  | uncreated _ kind position => exact h.withMore reached (s.graph.keeps_createNode kind position)
  | deleted _ id removed _ done => exact h.deleted done
  | moved id position => exact h.withMore reached (s.graph.moveNode_amends id position).keeps
  | updated id name v => exact h.withMore reached (s.graph.updateField_amends id name v).keeps
  | selected id there =>
    refine h.withSelection fun k chosen => ?_
    cases chosen
    exact there
  | deselected => exact h.withSelection nofun
  | connected source target outcome => exact h.withMore reached (s.graph.keeps_createEdge source target outcome)
  | disconnected _ e => exact h.disconnected e
  | clicked e now present =>
    refine h.withClicks fun p held => ?_
    cases held
    exact (h.reached.sound.mem_edgeSet e).1 present
  | expired now => exact h.withClicks fun p held => h.waiting p (s.clicks.pending_of_expire held)
  | viewed => exact h.withMore reached (.refl _)
  | arranged => exact h.withMore reached (s.graph.keeps_arrange _)
  | cleared =>
    rw [← h.mode_eq]
    exact s.anchored_started (h.reached.perform .clear) _ _ _
  | loaded _ i loads =>
    rw [← h.mode_eq]
    exact s.anchored_started loads.reachable _ _ _

theorem Anchored.perform (h : s.Anchored mode) (a : Action) : (s.perform a).2.Anchored mode :=
  (s.effect_perform a).anchored h

theorem Anchored.after (h : s.Anchored mode) (history : List Action) : (s.after history).Anchored mode :=
  after_induction (P := fun s => s.Anchored mode) (fun _ a h => h.perform a) h history

theorem anchored_ofSettings {palette : Palette} {settings : Settings Float}
    (opened : ofSettings palette settings mode = .ok s) : s.Anchored mode := by
  rw [ofSettings_eq opened]
  refine ⟨?_, rfl, fun _ chosen => ?_, Hand.anchored_idle _, fun _ held => ?_, ?_⟩
  · cases mode with
    | create => exact .withStart palette _
    | edit => exact .empty palette
  · cases chosen
  · cases held
  · rintro rfl unset
    cases unset

/-! ## Waiting clicks -/

/-- An edge is in the graph now and after each of some actions, none of which loads another graph. -/
def Stays (e : Edge) : Session → List Action → Prop
  | s, [] => e ∈ s.graph.edges
  | s, a :: rest => e ∈ s.graph.edges ∧ (∀ l, (s.perform a).1 ≠ .ok (.loaded l)) ∧ Stays e (s.perform a).2 rest

/-- **An edge was clicked at some moment of a history**, was left to wait for a second click, and has stayed since. -/
def ClickedSince (s : Session) (e : Edge) (time : Int) (history : List Action) : Prop :=
  ∃ before rest, history = before ++ .clickEdge e time :: rest ∧
    ((s.after before).perform (.clickEdge e time)).1 = .ok (.click .pending e) ∧
    Stays e ((s.after before).perform (.clickEdge e time)).2 rest

theorem ClickedSince.cons {e : Edge} {time : Int} {a : Action} {history : List Action}
    (since : (s.perform a).2.ClickedSince e time history) : s.ClickedSince e time (a :: history) := by
  obtain ⟨before, rest, rfl, answer, stays⟩ := since
  exact ⟨a :: before, rest, rfl, answer, stays⟩

theorem answer_of_ne {ε β : Type} {refusal : ε → Refusal} {reply : β → Reply}
    {step : Except ε β × Session} {r : Reply} (others : ∀ b, step.1 = .ok b → reply b ≠ r) :
    (Reply.of refusal reply step).1 ≠ .ok r := by
  rw [Reply.of]
  cases answer : step.1 with
  | error e => exact nofun
  | ok b => exact fun same => others b answer (Except.ok.inj same)

/-- **A click that waits after an action waited before it**, and the graph is still the same one; or the action is that
click. -/
theorem Effect.pending {a : Action} {r : Except Refusal Reply × Session} (effect : s.Effect a r) {p : PendingClick}
    (held : r.2.clicks.pending = some p) : s.clicks.pending = some p ∧ (∀ l, r.1 ≠ .ok (.loaded l)) ∨
      a = .clickEdge p.edge p.time ∧ r.1 = .ok (.click .pending p.edge) := by
  cases effect with
  | handled => exact .inl ⟨held, fun l => answer_of_ne fun _ _ => nofun⟩
  | deleted => exact .inl ⟨(s.clicks.pending_of_without held).1, nofun⟩
  | disconnected _ e reply asked =>
    refine .inl ⟨(s.clicks.pending_of_without held).1, fun l same => ?_⟩
    rcases asked with ⟨-, rfl⟩ | ⟨now, -, -, rfl⟩ <;> cases same
  | clicked e now =>
    cases held
    exact .inr ⟨rfl, rfl⟩
  | expired now => exact .inl ⟨s.clicks.pending_of_expire held, nofun⟩
  | cleared | loaded => cases held
  | _ => exact .inl ⟨held, nofun⟩

theorem clickedSince_of_pending (h : s.Anchored mode) (history : List Action) {p : PendingClick}
    (held : (s.after history).clicks.pending = some p) :
    s.clicks.pending = some p ∧ Stays p.edge s history ∨ s.ClickedSince p.edge p.time history := by
  induction history generalizing s with
  | nil => exact .inl ⟨held, h.waiting p held⟩
  | cons a history ih =>
    rcases ih (h.perform a) held with ⟨after, stays⟩ | since
    · rcases (s.effect_perform a).pending after with ⟨before, same⟩ | ⟨rfl, answer⟩
      · exact .inl ⟨before, h.waiting p before, same, stays⟩
      · exact .inr ⟨[], history, rfl, answer, stays⟩
    · exact .inr since.cons

/-- Only the second click on an edge deletes an edge, that one. -/
theorem eq_of_clickEdge (h : s.Anchored mode) {e k : Edge} {now : Int} (present : k ∈ s.graph.edges)
    (gone : k ∉ (s.perform (.clickEdge e now)).2.graph.edges) :
    k = e ∧ ∃ time, s.clicks.pending = some ⟨e, time⟩ := by
  rcases s.clickEdge_cases e now with ⟨r, e'⟩ | ⟨-, e'⟩ | ⟨held, e'⟩ <;> rw [perform, Reply.of, e'] at gone
  · exact (gone present).elim
  · exact (gone present).elim
  · refine ⟨?_, ?_⟩
    · by_cases same : e = k
      · exact same.symm
      · exact (gone ((h.reached.sound.mem_deleteEdge e k).2 ⟨same, present⟩)).elim
    · obtain ⟨⟨edge, time⟩, pending, rfl⟩ := Option.map_eq_some_iff.1 held
      exact ⟨time, pending⟩

/-- **Nothing dangles after any history of a session**: the selected node, the dragged node and the source of a
connection are in the graph; a preview is only drawn for a connection; a click waits on an edge that has stayed since,
so no edge is deleted by a click unless it was clicked before and has stayed since; a session that authors a workflow
has a start node or no number left for one; and the pointer can always be moved. -/
theorem nothing_dangles_after_history {palette : Palette} {settings : Settings Float}
    (opened : ofSettings palette settings mode = .ok s) (history : List Action) :
    (∀ id, (s.after history).selection = some id → id ∈ (s.after history).graph.nodes) ∧
    (∀ id anchor origin, (s.after history).hand.activity = .dragging id anchor origin →
      id ∈ (s.after history).graph.nodes) ∧
    (∀ source outcome, (s.after history).hand.activity = .connecting source outcome →
      source ∈ (s.after history).graph.nodes) ∧
    ((s.after history).hand.preview.isSome = true →
      ∃ source outcome, (s.after history).hand.activity = .connecting source outcome) ∧
    (∀ e time, (s.after history).clicks.pending = some ⟨e, time⟩ →
      e ∈ (s.after history).graph.edges ∧ s.ClickedSince e time history) ∧
    (∀ e now k, k ∈ (s.after history).graph.edges →
      k ∉ ((s.after history).perform (.clickEdge e now)).2.graph.edges →
      k = e ∧ ∃ time, s.ClickedSince e time history) ∧
    (mode = .create → (∃ id n, (s.after history).graph.node? id = some n ∧ n.isStart = true) ∨
      (s.after history).graph.counter = NodeId.maxNumber) ∧
    ∀ point, ∃ r, ((s.after history).handle (.move point)).1 = .ok r := by
  have before := anchored_ofSettings opened
  have h := before.after history
  have since : ∀ e time, (s.after history).clicks.pending = some ⟨e, time⟩ → s.ClickedSince e time history := by
    intro e time held
    rcases clickedSince_of_pending before history held with ⟨already, -⟩ | since
    · rw [ofSettings_eq opened] at already
      cases already
    · exact since
  refine ⟨h.selected, fun _ _ _ dragging => h.hand.dragged dragging, fun _ _ connecting => h.hand.source connecting,
    h.hand.previews, fun e time held => ⟨h.waiting ⟨e, time⟩ held, since e time held⟩, fun e now k present gone => ?_,
    fun authors => ?_, fun point => ?_⟩
  · obtain ⟨same, time, pending⟩ := eq_of_clickEdge h present gone
    exact ⟨same, time, since e time pending⟩
  · cases noted : (s.after history).graph.startId with
    | none => exact .inr (h.start authors noted)
    | some id =>
      obtain ⟨n, found, start⟩ := (h.reached.sound.startId_iff id).1 noted
      exact .inl ⟨id, n, found, start⟩
  · rw [answer_handle]
    exact Hand.exists_handle_move h.hand point

theorem nothing_dangles_after_clicking_and_deleting : ∃ s, ofSettings ⟨∅⟩ .standard .create = .ok s ∧
    ∀ point, ∃ r, ((s.after [.createNode (.action "click") ⟨10, 20⟩, .createEdge (.numbered 1) (.numbered 2) .success,
      .clickEdge ⟨.numbered 1, .numbered 2, .success⟩ 7, .gesture (.beginDrag (.numbered 2) ⟨12, 21⟩),
      .deleteNode (.numbered 2)]).handle (.move point)).1 = .ok r := by
  obtain ⟨s, opened⟩ := @exists_ofSettings .standard (by decide +kernel) ⟨∅⟩ .create
  exact ⟨s, opened, (nothing_dangles_after_history opened _).2.2.2.2.2.2.2⟩

end Session

end Workflow
