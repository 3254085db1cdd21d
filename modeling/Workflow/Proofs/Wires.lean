import Workflow.Proofs.Sessions
/-!
# Wires in step with the graph

A canvas is in step when each edge is remembered as it would be routed now, and nothing else is remembered.  A wire
depends on its edge being there and on where its two ends are (`route_congr`), so a change that leaves an edge and its
ends alone leaves its wire right, and routing again the edges that a change does reach is enough.  Which those are,
soundness of the store says: both ends of an edge are nodes, and a new node has no edges yet.

With every wire right, the wiring is the one that routing everything afresh gives (`InStep.eq_all`).
-/
namespace Workflow

namespace Wiring

variable (w : Wiring) (g : Graph Float)

/-! ## What is remembered -/

theorem getElem?_insert_wire (wires : Std.ExtTreeMap Edge Wire) (e k : Edge) (wire : Wire) :
    (wires.insert e wire)[k]? = if e = k then some wire else wires[k]? := by
  simp only [Std.ExtTreeMap.getElem?_insert, Std.LawfulEqCmp.compare_eq_iff_eq]

/-- **Wirings that remember the same are equal.** -/
theorem ext_wire? {w w' : Wiring} (settings : w.settings = w'.settings) (wires : ∀ e, w.wire? e = w'.wire? e) :
    w = w' := by
  obtain ⟨own, all⟩ := w
  obtain ⟨own', all'⟩ := w'
  have same : all = all' := Std.ExtTreeMap.ext_getElem? wires
  rw [same, show own = own' from settings]

theorem wire?_forget (e k : Edge) : (w.forget e).wire? k = if e = k then none else w.wire? k := by
  simp only [wire?, forget, Std.ExtTreeMap.getElem?_erase, Std.LawfulEqCmp.compare_eq_iff_eq]

theorem wire?_reroute (e k : Edge) : (w.reroute g e).wire? k = if e = k then w.route g k else w.wire? k := by
  rw [reroute]
  by_cases same : e = k
  · subst same
    rw [if_pos rfl]
    cases routed : w.route g e with
    | none => simp [wire?]
    | some wire => simp [wire?]
  · rw [if_neg same]
    split
    · rw [wire?, getElem?_insert_wire, if_neg same, wire?]
    · exact (w.wire?_forget e k).trans (if_neg same)

theorem settings_reroute (e : Edge) : (w.reroute g e).settings = w.settings := by
  rw [reroute]
  split <;> rfl

theorem settings_refresh (e : Edge) : (w.refresh g e).settings = w.settings := by
  rw [refresh]
  split <;> rfl

theorem wire?_refresh (e k : Edge) :
    (w.refresh g e).wire? k = if e = k then (w.route g k).or (w.wire? k) else w.wire? k := by
  rw [refresh]
  split
  · next wire routed =>
    rw [wire?, getElem?_insert_wire]
    by_cases same : e = k
    · rw [if_pos same, if_pos same, ← same, routed, Option.some_or]
    · rw [if_neg same, if_neg same, wire?]
  · next routed =>
    by_cases same : e = k
    · rw [if_pos same, ← same, routed, Option.none_or]
    · rw [if_neg same]

/-! ## What a wire depends on -/

def wireBetween (settings : WireSettings Float) (outcome : Outcome) (source target : Point Float) : Wire :=
  let start := settings.portAt source outcome.port
  let stop := settings.portAt target .input
  let middle := start.midpoint stop
  ⟨.between settings start stop, ⟨middle.x, middle.y - settings.labelLift⟩⟩

def positionOf (g : Graph Float) (id : NodeId) : Option (Point Float) := (g.node? id).map (·.position)

theorem route_eq (e : Edge) : w.route g e =
    if g.containsEdge e then
      match positionOf g e.source, positionOf g e.target with
      | some p, some q => some (wireBetween w.settings e.outcome p q)
      | _, _ => none
    else none := by
  rw [route, positionOf, positionOf]
  cases g.node? e.source <;> cases g.node? e.target <;> rfl

theorem route_settings {w w' : Wiring} (settings : w.settings = w'.settings) (g : Graph Float) (e : Edge) :
    w.route g e = w'.route g e := by
  rw [route_eq, route_eq, settings]

theorem route_of_not_mem {g : Graph Float} (sound : g.Sound) {e : Edge} (absent : e ∉ g.edges) :
    w.route g e = none := by
  rw [route, if_neg fun present => absent ((sound.mem_edgeSet e).1 ((g.containsEdge_iff e).1 present))]

/-- **A wire depends on its edge being there and on where its ends are.** -/
theorem route_congr {g g' : Graph Float} (sound : g.Sound) (sound' : g'.Sound) {e : Edge}
    (edge : e ∈ g'.edges ↔ e ∈ g.edges)
    (ends : e ∈ g.edges → ∀ id, e.touches id = true → positionOf g' id = positionOf g id) :
    w.route g' e = w.route g e := by
  by_cases present : e ∈ g.edges
  · have contains : g'.containsEdge e = g.containsEdge e := by
      rw [(g'.containsEdge_iff e).2 ((sound'.mem_edgeSet e).2 (edge.2 present)),
        (g.containsEdge_iff e).2 ((sound.mem_edgeSet e).2 present)]
    rw [route_eq, route_eq, contains, ends present e.source (by simp [Edge.touches]),
      ends present e.target (by simp [Edge.touches])]
  · rw [w.route_of_not_mem sound present, w.route_of_not_mem sound' fun h => present (edge.1 h)]

/-- **Every edge of a sound graph has a wire.** -/
theorem exists_route_of_mem {g : Graph Float} (sound : g.Sound) {e : Edge} (present : e ∈ g.edges) :
    ∃ wire, w.route g e = some wire := by
  obtain ⟨source, target⟩ := sound.ends e present
  obtain ⟨n, hn⟩ := (g.mem_nodes_iff e.source).1 source
  obtain ⟨m, hm⟩ := (g.mem_nodes_iff e.target).1 target
  rw [route, if_pos ((g.containsEdge_iff e).2 ((sound.mem_edgeSet e).2 present)), hn, hm]
  exact ⟨_, rfl⟩

/-! ## Routing several edges again -/

theorem settings_refreshAll (l : List Edge) : (l.foldl (fun w e => w.refresh g e) w).settings = w.settings := by
  induction l generalizing w with
  | nil => rfl
  | cons e l ih => exact (ih _).trans (w.settings_refresh g e)

theorem wire?_refreshAll (l : List Edge) (k : Edge) :
    (l.foldl (fun w e => w.refresh g e) w).wire? k = if k ∈ l then (w.route g k).or (w.wire? k) else w.wire? k := by
  induction l generalizing w with
  | nil => simp
  | cons e l ih =>
    rw [List.foldl_cons, ih, route_settings (w.settings_refresh g e), wire?_refresh]
    by_cases same : e = k
    · subst same
      cases w.route g e <;> simp
    · have other : k ≠ e := fun h => same h.symm
      simp [same, other]

theorem settings_all : (w.all g).settings = w.settings := settings_refreshAll w.clear g g.edges

/-- **Routing everything remembers every edge as it is routed now, and nothing else.** -/
theorem wire?_all {g : Graph Float} (sound : g.Sound) (k : Edge) : (w.all g).wire? k = w.route g k := by
  have forgotten : w.clear.wire? k = none := by simp [wire?, clear]
  rw [all, wire?_refreshAll, forgotten, Option.or_none, @route_settings w.clear w rfl]
  by_cases present : k ∈ g.edges
  · rw [if_pos present]
  · rw [if_neg present, w.route_of_not_mem sound present]

theorem settings_forgetAll (l : List Edge) : (l.foldl forget w).settings = w.settings := by
  induction l generalizing w with
  | nil => rfl
  | cons e l ih => exact ih (w.forget e)

theorem wire?_forgetAll (l : List Edge) (k : Edge) :
    (l.foldl forget w).wire? k = if k ∈ l then none else w.wire? k := by
  induction l generalizing w with
  | nil => simp
  | cons e l ih =>
    rw [List.foldl_cons, ih, wire?_forget]
    by_cases same : e = k
    · simp [same]
    · have other : k ≠ e := fun h => same h.symm
      simp [same, other]

end Wiring

/-! ## A canvas in step -/

namespace Canvas

open Wiring (positionOf)

/-- **Each edge is remembered as it would be routed now**, and nothing else is remembered. -/
structure InStep (settings : WireSettings Float) (c : Canvas) : Prop where
  reached : c.graph.Reachable
  settings_eq : c.wiring.settings = settings
  wires : ∀ e, c.wiring.wire? e = c.wiring.route c.graph e

variable {settings : WireSettings Float} {c : Canvas}

/-- The graph changes, but no edge, and no end of one moves. -/
theorem InStep.withGraph (h : c.InStep settings) {graph : Graph Float} (reached : graph.Reachable)
    (edges : graph.edges = c.graph.edges)
    (positions : ∀ id ∈ c.graph.nodes, positionOf graph id = positionOf c.graph id) :
    InStep settings { c with graph } where
  reached := reached
  settings_eq := h.settings_eq
  wires e := by
    show c.wiring.wire? e = c.wiring.route graph e
    have sound := h.reached.sound
    rw [h.wires]
    refine (c.wiring.route_congr sound reached.sound (by rw [edges]) fun present id touches => positions id ?_).symm
    obtain ⟨source, target⟩ := sound.ends e present
    rw [Edge.touches, Bool.or_eq_true, beq_iff_eq, beq_iff_eq] at touches
    rcases touches with rfl | rfl
    · exact source
    · exact target

theorem InStep.createNode (h : c.InStep settings) (kind : Kind) (position : Point Float) :
    InStep settings { c with graph := (c.graph.createNode kind position).2 } := by
  refine h.withGraph (h.reached.perform (.createNode kind position)) (c.graph.edges_createNode kind position) ?_
  intro id present
  rw [positionOf, c.graph.node?_createNode kind position present, positionOf]

theorem InStep.updateField (h : c.InStep settings) (id : NodeId) (name : String) (v : Json.Value) :
    InStep settings { c with graph := (c.graph.updateField id name v).2 } := by
  have amends := c.graph.updateField_amends id name v
  refine h.withGraph (h.reached.perform (.updateField id name v)) amends.edges fun k _ => ?_
  rw [positionOf, positionOf, amends.node?]
  split
  · rw [Option.map_map]
    rfl
  · rfl

theorem InStep.moved (h : c.InStep settings) (id : NodeId) (position : Point Float) :
    (c.moved id position).InStep settings where
  reached := h.reached.perform (.moveNode id position)
  settings_eq := (Wiring.settings_refreshAll ..).trans h.settings_eq
  wires e := by
    let g := (c.graph.moveNode id position).2
    show (c.wiring.rerouteNode g id).wire? e = (c.wiring.rerouteNode g id).route g e
    have amends := c.graph.moveNode_amends id position
    have same : g.edges = c.graph.edges := amends.edges
    have sound : g.Sound := (h.reached.perform (.moveNode id position)).sound
    rw [Wiring.rerouteNode, Wiring.route_settings (Wiring.settings_refreshAll ..), Wiring.wire?_refreshAll, h.wires]
    split
    · next touching =>
      obtain ⟨wire, routed⟩ := c.wiring.exists_route_of_mem sound (List.mem_filter.1 touching).1
      rw [routed, Option.some_or]
    · next apart =>
      -- an edge that does not touch the node has both its ends where they were
      refine (c.wiring.route_congr h.reached.sound sound (by rw [same]) fun present k touches => ?_).symm
      have other : id ≠ k := by
        rintro rfl
        exact apart (List.mem_filter.2 ⟨same ▸ present, touches⟩)
      rw [positionOf, amends.node?, if_neg other, positionOf]

theorem InStep.connected (h : c.InStep settings) (source target : NodeId) (outcome : Outcome) :
    (c.connected source target outcome).InStep settings where
  reached := h.reached.perform (.createEdge source target outcome)
  settings_eq := (Wiring.settings_reroute ..).trans h.settings_eq
  wires e := by
    let g := (c.graph.createEdge source target outcome).2
    let new : Edge := ⟨source, target, outcome⟩
    show (c.wiring.reroute g new).wire? e = (c.wiring.reroute g new).route g e
    have sound : g.Sound := (h.reached.perform (.createEdge source target outcome)).sound
    rw [Wiring.route_settings (Wiring.settings_reroute ..), Wiring.wire?_reroute]
    split
    · rfl
    · next other =>
      rw [h.wires]
      have edge : e ∈ g.edges ↔ e ∈ c.graph.edges := c.graph.mem_createEdge_of_ne other
      refine (c.wiring.route_congr h.reached.sound sound edge fun _ k _ => ?_).symm
      rw [positionOf, c.graph.node?_createEdge source target outcome, positionOf]

theorem InStep.disconnected (h : c.InStep settings) (e : Edge) : (c.disconnected e).InStep settings where
  reached := h.reached.perform (.deleteEdge e)
  settings_eq := h.settings_eq
  wires k := by
    let g := (c.graph.deleteEdge e).2
    show (c.wiring.forget e).wire? k = c.wiring.route g k
    have sound : g.Sound := (h.reached.perform (.deleteEdge e)).sound
    have member : k ∈ g.edges ↔ e ≠ k ∧ k ∈ c.graph.edges := h.reached.sound.mem_deleteEdge e k
    rw [Wiring.wire?_forget]
    split
    · next same => exact (c.wiring.route_of_not_mem sound fun hk => (member.1 hk).1 same).symm
    · next other =>
      rw [h.wires]
      refine (c.wiring.route_congr h.reached.sound sound (member.trans (and_iff_right other)) fun _ id _ => ?_).symm
      rw [positionOf, c.graph.node?_deleteEdge e, positionOf]

/-- A node is taken out.  A refusal would leave its edges in the graph, so there must be none. -/
theorem InStep.without (h : c.InStep settings) {id : NodeId} {removed : Graph.Removed Float}
    (done : (c.graph.deleteNode id).1 = .ok removed) : (c.without id).InStep settings where
  reached := h.reached.perform (.deleteNode id)
  settings_eq := (Wiring.settings_forgetAll ..).trans h.settings_eq
  wires e := by
    let g := (c.graph.deleteNode id).2
    let gone := c.graph.edgesTouching id
    show (gone.foldl Wiring.forget c.wiring).wire? e = (gone.foldl Wiring.forget c.wiring).route g e
    have sound : g.Sound := (h.reached.perform (.deleteNode id)).sound
    have edges : g.edges = c.graph.edges.filter (· ∉ gone) := c.graph.edges_deleteNode done
    rw [Wiring.route_settings (Wiring.settings_forgetAll ..), Wiring.wire?_forgetAll]
    split
    · next doomed =>
      refine (c.wiring.route_of_not_mem sound fun hm => ?_).symm
      rw [edges, List.mem_filter] at hm
      exact of_decide_eq_true hm.2 doomed
    · next spared =>
      rw [h.wires]
      refine (c.wiring.route_congr h.reached.sound sound ?_ fun present k touches => ?_).symm
      · rw [edges, List.mem_filter]
        exact and_iff_left (decide_eq_true spared)
      · have other : id ≠ k := by
          rintro rfl
          exact spared (List.mem_filter.2 ⟨present, touches⟩)
        rw [positionOf, c.graph.node?_deleteNode other, positionOf]

theorem InStep.redrawn (h : c.InStep settings) {graph : Graph Float} (reached : graph.Reachable)
    (viewport : Viewport Float) : (c.redrawn graph viewport).InStep settings where
  reached := reached
  settings_eq := (Wiring.settings_all ..).trans h.settings_eq
  wires e := by
    show (c.wiring.all graph).wire? e = (c.wiring.all graph).route graph e
    rw [Wiring.wire?_all c.wiring reached.sound, Wiring.route_settings (Wiring.settings_all ..)]

/-- Nothing is drawn of a graph without edges. -/
theorem inStep_blank {graph : Graph Float} (reached : graph.Reachable) (edges : graph.edges = [])
    (viewport : Viewport Float) : InStep settings ⟨graph, viewport, .empty settings⟩ where
  reached := reached
  settings_eq := rfl
  wires e := by
    have absent : e ∉ graph.edges := by simp [edges]
    rw [Wiring.route_of_not_mem _ reached.sound absent]
    simp [Wiring.wire?, Wiring.empty]

/-- **A wiring in step is the one that routing everything afresh gives.** -/
theorem InStep.eq_all (h : c.InStep settings) : c.wiring = (Wiring.empty settings).all c.graph := by
  have wires : ∀ e, c.wiring.wire? e = ((Wiring.empty settings).all c.graph).wire? e := fun e => by
    rw [h.wires, Wiring.wire?_all _ h.reached.sound]
    exact Wiring.route_settings h.settings_eq c.graph e
  exact Wiring.ext_wire? (h.settings_eq.trans (Wiring.settings_all (.empty settings) c.graph).symm) wires

/-- Every gesture keeps a canvas in step. -/
theorem InStep.handled (h : c.InStep settings) {hand : Hand} {gesture : Gesture} {r : Hand.Handled}
    (effect : hand.Effect c gesture r) : r.2.2.InStep settings := by
  cases effect with
  | dragged id => exact h.moved id _
  | panned => exact h.redrawn h.reached _
  | connected source target outcome => exact h.connected source target outcome
  | _ => exact h

end Canvas

/-! ## Sessions -/

namespace Session

open Workflow.Action (Reply Refusal)

variable {s : Session} {settings : WireSettings Float}

/-- **Every action keeps the canvas in step.** -/
theorem Effect.inStep {a : Action} {r : Except Refusal Reply × Session} (effect : s.Effect a r)
    (h : s.canvas.InStep settings) : r.2.canvas.InStep settings := by
  cases effect with
  | refused | spared | selected | deselected | clicked | expired => exact h
  | handled g r effect => exact h.handled effect
  | created _ kind position | uncreated _ kind position => exact h.createNode kind position
  | deleted _ id removed _ done => exact h.without done
  | moved id position => exact h.moved id position
  | updated id name v => exact h.updateField id name v
  | connected source target outcome => exact h.connected source target outcome
  | disconnected _ e => exact h.disconnected e
  | viewed _ viewport => exact h.redrawn h.reached viewport
  | arranged => exact h.redrawn (h.reached.perform (.arrange _)) _
  | cleared =>
    have forgotten : s.wiring.clear = .empty settings := by
      rw [← h.settings_eq]
      rfl
    rw [forgotten]
    exact Canvas.inStep_blank (s.reachable_started (h.reached.perform .clear)) (s.edges_started s.graph.clear) _
  | loaded _ i loads => exact h.redrawn (s.reachable_started loads.reachable) _

theorem inStep_after (h : s.canvas.InStep settings) (history : List Action) :
    (s.after history).canvas.InStep settings :=
  after_induction (P := fun s => s.canvas.InStep settings) (fun s a => (s.effect_perform a).inStep) h history

theorem inStep_ofSettings {palette : Palette} {settings : Settings Float} {mode : Mode}
    (opened : ofSettings palette settings mode = .ok s) : s.canvas.InStep settings.wires := by
  rw [ofSettings_eq opened]
  cases mode with
  | create => exact Canvas.inStep_blank (.withStart palette _) rfl _
  | edit => exact Canvas.inStep_blank (.empty palette) rfl _

/-- **Wires never fall behind the graph.**  After any history of a session exactly the edges of its graph have a wire,
each the one it is routed now, and together they are what routing everything afresh remembers. -/
theorem wires_after_history {palette : Palette} {settings : Settings Float} {mode : Mode}
    (opened : ofSettings palette settings mode = .ok s) (history : List Action) :
    (∀ e, e ∈ (s.after history).wiring.wires ↔ e ∈ (s.after history).graph.edges) ∧
    (∀ e ∈ (s.after history).graph.edges, ∃ wire, (s.after history).wiring.wire? e = some wire ∧
      (s.after history).wiring.route (s.after history).graph e = some wire) ∧
    (s.after history).wiring = (Wiring.empty settings.wires).all (s.after history).graph := by
  have h := inStep_after (inStep_ofSettings opened) history
  have sound := h.reached.sound
  refine ⟨fun e => ?_, fun e present => ?_, h.eq_all⟩
  · rw [← Std.ExtTreeMap.isSome_getElem?_iff_mem]
    show ((s.after history).wiring.wire? e).isSome = true ↔ e ∈ (s.after history).graph.edges
    rw [wiring, h.wires]
    constructor
    · intro routed
      by_cases present : e ∈ (s.after history).graph.edges
      · exact present
      · rw [Wiring.route_of_not_mem _ sound present] at routed
        cases routed
    · intro present
      obtain ⟨wire, routed⟩ := Wiring.exists_route_of_mem (s.after history).canvas.wiring sound present
      rw [routed]
      rfl
  · obtain ⟨wire, routed⟩ := Wiring.exists_route_of_mem (s.after history).canvas.wiring sound present
    exact ⟨wire, (h.wires e).trans routed, routed⟩

theorem wires_after_connecting_and_moving : ∃ s, ofSettings ⟨∅⟩ .standard .create = .ok s ∧
    (s.after [.createNode (.action "click") ⟨10, 20⟩, .createEdge (.numbered 1) (.numbered 2) .success,
      .moveNode (.numbered 2) ⟨300, -5⟩]).wiring =
      (Wiring.empty .standard).all (s.after [.createNode (.action "click") ⟨10, 20⟩,
        .createEdge (.numbered 1) (.numbered 2) .success, .moveNode (.numbered 2) ⟨300, -5⟩]).graph := by
  obtain ⟨s, opened⟩ := @exists_ofSettings .standard (by decide +kernel) ⟨∅⟩ .create
  exact ⟨s, opened, (wires_after_history opened _).2.2⟩

end Session

end Workflow
