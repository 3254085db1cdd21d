import Workflow.Proofs.Gestures
import Workflow.Session.Action
/-!
# What actions do to a session

`Session.Effect` is all that an action can answer and leave, together with what it takes for that.  Every action does
one of these (`effect_perform`), so a law of sessions is proved by cases on them and unfolds no operation again.  What
each action keeps, a history keeps (`after_induction`).
-/
namespace Workflow

/-! ## Clicks -/

namespace DoubleClick

variable (d : DoubleClick)

/-- Lets go of edges that are gone. -/
def without (gone : List Edge) : DoubleClick := if d.edge?.any (· ∈ gone) then d.reset else d

theorem without_singleton (e : Edge) : d.without [e] = if d.edge? = some e then d.reset else d := by
  rw [without]
  cases held : d.edge? with
  | none => rfl
  | some k => simp [eq_comm]

theorem without_nil : d.without [] = d := by simp [without]

/-- A click that waits when edges were let go of waited before, and on none of those. -/
theorem pending_of_without {gone : List Edge} {p : PendingClick} (held : (d.without gone).pending = some p) :
    d.pending = some p ∧ p.edge ∉ gone := by
  rw [without] at held
  split at held
  · cases held
  · next kept =>
    refine ⟨held, fun doomed => kept ?_⟩
    rw [edge?, held]
    exact decide_eq_true doomed

theorem expire_cases (now : Int) : d.expire now = d ∨ d.expire now = d.reset := by
  rw [expire]
  split
  · exact .inl rfl
  · split
    · exact .inr rfl
    · exact .inl rfl

theorem pending_of_expire {now : Int} {p : PendingClick} (held : (d.expire now).pending = some p) :
    d.pending = some p := by
  rcases d.expire_cases now with same | gone
  · rwa [same] at held
  · rw [gone] at held
    cases held

theorem window_reset : d.reset.window = d.window := rfl

theorem window_without (gone : List Edge) : (d.without gone).window = d.window := by
  rw [without]
  split <;> rfl

theorem window_expire (now : Int) : (d.expire now).window = d.window := by
  rcases d.expire_cases now with e | e <;> rw [e]
  rfl

theorem click_cases (e : Edge) (now : Int) :
    d.click e now = (.pending, ⟨d.window, some ⟨e, now⟩⟩) ∨
      d.edge? = some e ∧ d.click e now = (.confirmed, d.reset) := by
  rw [click]
  rcases d.expire_cases now with same | gone
  · rw [same]
    split
    · next held => exact .inr ⟨held, rfl⟩
    · exact .inl rfl
  · rw [gone]
    exact .inl rfl

end DoubleClick

/-! ## Sessions -/

namespace Session

open Workflow.Action (Reply Refusal)

theorem exists_ofSettings {settings : Settings Float} (sound : settings.fault? = none) (palette : Palette)
    (mode : Mode) : ∃ s, ofSettings palette settings mode = .ok s := by
  rw [ofSettings, Settings.check, sound]
  exact ⟨_, rfl⟩

theorem ofSettings_eq {s : Session} {palette : Palette} {settings : Settings Float} {mode : Mode}
    (opened : ofSettings palette settings mode = .ok s) : s =
      ⟨settings, mode, ⟨blankGraph palette settings mode, .ofBounds settings.zoom, .empty settings.wires⟩, .idle,
        .ofWindow settings.deleteWindow, none⟩ := by
  rw [ofSettings] at opened
  cases checked : settings.check with
  | error e =>
    rw [checked] at opened
    cases opened
  | ok u =>
    rw [checked] at opened
    cases opened
    rfl

variable (s : Session)

theorem answer_handle (gesture : Gesture) : (s.handle gesture).1 = (s.hand.handle s.canvas gesture).1 := rfl

theorem createNode_eq (kind : Kind) (position : Point Float) : s.createNode kind position =
    ((s.graph.createNode kind position).1, s.withGraph (s.graph.createNode kind position).2) := rfl

theorem updateField_eq (id : NodeId) (name : String) (v : Json.Value) : s.updateField id name v =
    ((s.graph.updateField id name v).1, s.withGraph (s.graph.updateField id name v).2) := rfl

theorem foldl_forgetEdge (gone : List Edge) : gone.foldl forgetEdge s =
    { s.withWiring (gone.foldl Wiring.forget s.wiring) with clicks := s.clicks.without gone } := by
  induction gone generalizing s with
  | nil =>
    rw [DoubleClick.without_nil]
    rfl
  | cons e gone ih =>
    have clicks : (s.forgetEdge e).clicks.without gone = s.clicks.without (e :: gone) := by
      have reset : s.clicks.reset.edge? = none := rfl
      rw [forgetEdge, DoubleClick.without, DoubleClick.without]
      by_cases held : s.clicks.edge? = some e
      · simp [held, reset]
      · cases other : s.clicks.edge? with
        | none => simp [other]
        | some k =>
          have differs : k ≠ e := fun same => held (by rw [other, same])
          simp [other, differs]
    rw [List.foldl_cons, ih, clicks]
    rfl

theorem deleteNode_cases (id : NodeId) : (∃ r, s.deleteNode id = (.error r, s)) ∨
    ∃ removed, (s.graph.deleteNode id).1 = .ok removed ∧ s.deleteNode id = (.ok removed,
      { s with
        canvas := s.canvas.without id
        clicks := s.clicks.without (s.graph.edgesTouching id)
        selection := if s.selection = some id then none else s.selection
        hand := if s.hand.activity.involves id then .idle else s.hand }) := by
  rcases s.graph.deleteNode_cases id with ⟨r, e⟩ | ⟨n, -, -, e⟩
  · refine .inl ⟨r, ?_⟩
    rw [deleteNode, e]
    rfl
  · refine .inr ⟨⟨n, s.graph.edgesTouching id⟩, by rw [e], ?_⟩
    have after : (s.canvas.graph.deleteNode id).2 = _ := congrArg (·.2) e
    rw [deleteNode, e, Canvas.without, after]
    simp only [foldl_forgetEdge]
    rfl

theorem deleteEdge_of_mem {e : Edge} (present : e ∈ s.graph.edgeSet) : s.deleteEdge e =
    (.ok (), { s with canvas := s.canvas.disconnected e, clicks := s.clicks.without [e] }) := by
  have done : s.graph.deleteEdge e = (.ok (), s.graph.dropEdge e) := by
    rw [Graph.deleteEdge, if_pos ((s.graph.containsEdge_iff e).2 present)]
  have after : (s.canvas.graph.deleteEdge e).2 = _ := congrArg (·.2) done
  rw [deleteEdge, done, Canvas.disconnected, after, DoubleClick.without_singleton]
  rfl

theorem clickEdge_cases (e : Edge) (now : Int) :
    (∃ r, s.clickEdge e now = (.error r, s)) ∨
      e ∈ s.graph.edgeSet ∧
        s.clickEdge e now = (.ok .pending, { s with clicks := ⟨s.clicks.window, some ⟨e, now⟩⟩ }) ∨
      s.clicks.edge? = some e ∧ s.clickEdge e now =
        (.ok .confirmed, { s with canvas := s.canvas.disconnected e, clicks := s.clicks.reset }) := by
  by_cases contains : s.graph.containsEdge e = true
  · have present := (s.graph.containsEdge_iff e).1 contains
    rcases s.clicks.click_cases e now with first | ⟨held, second⟩
    · refine .inr (.inl ⟨present, ?_⟩)
      rw [clickEdge, if_pos contains, first]
    · refine .inr (.inr ⟨held, ?_⟩)
      have done := deleteEdge_of_mem { s with clicks := s.clicks.reset } present
      simp only [clickEdge, if_pos contains, second, done]
      rfl
  · exact .inl ⟨.unknownEdge e, by rw [clickEdge, if_neg contains]⟩

/-- A graph with the start node that sessions of some modes need. -/
def started (s : Session) (g : Graph Float) : Graph Float :=
  match s.mode, g.startId with
  | .create, none => (g.createNode .start s.settings.placement.startPosition).2
  | _, _ => g

theorem started_cases (g : Graph Float) :
    (s.mode = .create → g.startId ≠ none) ∧ s.started g = g ∨
      s.started g = (g.createNode .start s.settings.placement.startPosition).2 := by
  unfold started
  split
  · exact .inr rfl
  · next other => exact .inl ⟨other, rfl⟩

theorem started_induction {P : Graph Float → Prop}
    (kept : ∀ (g : Graph Float) (r : Graph.Request Float), P g → P (g.perform r).2) {g : Graph Float} (first : P g) :
    P (s.started g) := by
  rcases s.started_cases g with ⟨-, e⟩ | e <;> rw [e]
  · exact first
  · exact kept g (.createNode ..) first

theorem reachable_started {g : Graph Float} (reached : g.Reachable) : (s.started g).Reachable :=
  s.started_induction (fun _ r h => h.perform r) reached

theorem edges_started (g : Graph Float) : (s.started g).edges = g.edges := by
  rcases s.started_cases g with ⟨-, e⟩ | e <;> rw [e]
  exact g.edges_createNode ..

theorem ensureStart_eq : s.ensureStart = s.withGraph (s.started s.graph) := by
  unfold ensureStart started
  cases s.mode <;> cases s.graph.startId <;> rfl

theorem clear_eq : s.clear =
    ⟨s.settings, s.mode, ⟨s.started s.graph.clear, s.viewport, s.wiring.clear⟩, .idle, s.clicks.reset, none⟩ := by
  rw [clear, ensureStart_eq]
  rfl

theorem load_ok (i : Imported) : s.load (.ok i) = (.ok ⟨i.source, i.skipped⟩,
    ⟨s.settings, s.mode, s.canvas.redrawn (s.started i.graph) s.viewport, .idle, s.clicks.reset, none⟩) := by
  rw [load, install, ensureStart_eq]
  rfl

/-! ## What actions do -/

/-- An action puts what was imported in the place of the workflow. -/
inductive Loads (s : Session) : Action → Imported → Prop
  | text (text : String) (i : Imported)
    (imported : Import.ofText s.graph.palette s.settings.placement text = .ok i) : Loads s (.loadText text) i
  | value (v : Json.Value) (i : Imported)
    (imported : Import.ofValue s.graph.palette s.settings.placement v = .ok i) : Loads s (.loadValue v) i

/-- What an action can answer, and the session it can leave. -/
inductive Effect (s : Session) : Action → Except Refusal Reply × Session → Prop
  | handled (g : Gesture) (r : Hand.Handled) (effect : s.hand.Effect s.canvas g r) (selection : Option NodeId)
    (chosen : selection = s.selection ∨ ∃ id, r.1 = .ok (.dragStarted id) ∧ selection = some id) :
    Effect s (.gesture g) (Reply.of .gesture .response (r.1, { s with hand := r.2.1, canvas := r.2.2, selection }))
  | refused (a : Action) (e : Refusal) (other : ∀ g, a ≠ .gesture g) : Effect s a (.error e, s)
  | created (a : Action) (kind : Kind) (position : Point Float) (id : NodeId) (selection : Option NodeId)
    (asked : a = .createNode kind position ∨ ∃ screen, a = .dropNode kind screen)
    (done : (s.graph.createNode kind position).1 = .ok id) (chosen : selection = s.selection ∨ selection = some id) :
    Effect s a (.ok (.node id), { s.withGraph (s.graph.createNode kind position).2 with selection })
  /-- A node that is refused could cost a number, though in no reachable graph. -/
  | uncreated (a : Action) (kind : Kind) (position : Point Float) (r : Graph.Rejection)
    (asked : a = .createNode kind position ∨ ∃ screen, a = .dropNode kind screen)
    (failed : (s.graph.createNode kind position).1 = .error r) :
    Effect s a (.error (.graph r), s.withGraph (s.graph.createNode kind position).2)
  | deleted (a : Action) (id : NodeId) (removed : Graph.Removed Float)
    (asked : a = .deleteNode id ∨ a = .deleteSelected ∧ s.selection = some id)
    (done : (s.graph.deleteNode id).1 = .ok removed) : Effect s a (.ok (.removed (some removed)),
      { s with
        canvas := s.canvas.without id
        clicks := s.clicks.without (s.graph.edgesTouching id)
        selection := if s.selection = some id then none else s.selection
        hand := if s.hand.activity.involves id then .idle else s.hand })
  /-- Nothing was selected, or the start node. -/
  | spared : Effect s .deleteSelected (.ok (.removed none), s)
  | moved (id : NodeId) (position : Point Float) : Effect s (.moveNode id position)
      (.ok (.position position.clamp), { s with canvas := s.canvas.moved id position })
  | updated (id : NodeId) (name : String) (v : Json.Value) (before : Option Json.Value) :
    Effect s (.updateField id name v) (.ok (.previous before), s.withGraph (s.graph.updateField id name v).2)
  | selected (id : NodeId) (there : id ∈ s.graph.nodes) :
    Effect s (.select id) (.ok .done, { s with selection := some id })
  | deselected : Effect s .clearSelection (.ok .done, { s with selection := none })
  | connected (source target : NodeId) (outcome : Outcome) : Effect s (.createEdge source target outcome)
      (.ok (.edge ⟨source, target, outcome⟩), { s with canvas := s.canvas.connected source target outcome })
  | disconnected (a : Action) (e : Edge) (reply : Reply) (asked : a = .deleteEdge e ∧ reply = .done ∨
      ∃ now, a = .clickEdge e now ∧ s.clicks.edge? = some e ∧ reply = .click .confirmed e) :
    Effect s a (.ok reply, { s with canvas := s.canvas.disconnected e, clicks := s.clicks.without [e] })
  | clicked (e : Edge) (now : Int) (present : e ∈ s.graph.edgeSet) : Effect s (.clickEdge e now)
      (.ok (.click .pending e), { s with clicks := ⟨s.clicks.window, some ⟨e, now⟩⟩ })
  | expired (now : Int) : Effect s (.expire now) (.ok .done, { s with clicks := s.clicks.expire now })
  | viewed (a : Action) (viewport : Viewport Float)
    (asked : (∃ anchor deltaY, a = .wheel anchor deltaY) ∨ a = .zoomIn ∨ a = .zoomOut ∨ a = .resetView) :
    Effect s a (.ok .done, { s with canvas := s.canvas.redrawn s.graph viewport })
  | arranged : Effect s .arrange (.ok (.layout s.arrange.1),
      { s with canvas := s.canvas.redrawn (Layout.arrange s.graph s.settings.placement).2 s.viewport.reset })
  | cleared : Effect s .clear (.ok .done,
      ⟨s.settings, s.mode, ⟨s.started s.graph.clear, s.viewport, s.wiring.clear⟩, .idle, s.clicks.reset, none⟩)
  | loaded (a : Action) (i : Imported) (loads : s.Loads a i) : Effect s a (.ok (.loaded ⟨i.source, i.skipped⟩),
      ⟨s.settings, s.mode, s.canvas.redrawn (s.started i.graph) s.viewport, .idle, s.clicks.reset, none⟩)

theorem effect_handle (g : Gesture) : s.Effect (.gesture g) (Reply.of .gesture .response (s.handle g)) := by
  have effect := s.hand.effect_handle s.canvas g
  rcases handled : s.hand.handle s.canvas g with ⟨answer, hand, canvas⟩
  rw [handled] at effect
  simp only [handle, handled]
  refine .handled g (answer, hand, canvas) effect _ ?_
  split
  · exact .inr ⟨_, rfl, rfl⟩
  · exact .inl rfl

theorem effect_createNode (kind : Kind) (position : Point Float) :
    s.Effect (.createNode kind position) (Reply.of .graph .node (s.createNode kind position)) := by
  rw [createNode_eq]
  cases answer : (s.graph.createNode kind position).1 with
  | error r => exact .uncreated _ kind position r (.inl rfl) answer
  | ok id => exact .created _ kind position id s.selection (.inl rfl) answer (.inl rfl)

theorem effect_dropNode (kind : Kind) (screen : Point Float) :
    s.Effect (.dropNode kind screen) (Reply.of .graph .node (s.dropNode kind screen)) := by
  rw [dropNode, createNode_eq]
  cases answer : (s.graph.createNode kind (s.viewport.toLogical screen - s.settings.placement.dropOffset)).1 with
  | error r => exact .uncreated _ kind _ r (.inr ⟨screen, rfl⟩) answer
  | ok id => exact .created _ kind _ id (some id) (.inr ⟨screen, rfl⟩) answer (.inr rfl)

theorem effect_deleteNode (id : NodeId) :
    s.Effect (.deleteNode id) (Reply.of .graph (fun r => .removed (some r)) (s.deleteNode id)) := by
  rcases s.deleteNode_cases id with ⟨r, e⟩ | ⟨removed, done, e⟩ <;> rw [e]
  · exact .refused _ (.graph r) nofun
  · exact .deleted _ id removed (.inl rfl) done

theorem effect_deleteSelected : s.Effect .deleteSelected (Reply.of .graph .removed s.deleteSelected) := by
  rw [deleteSelected]
  split
  · exact .spared
  · next id chosen =>
    rcases s.deleteNode_cases id with ⟨r, e⟩ | ⟨removed, done, e⟩ <;> rw [e]
    · exact .refused _ (.graph r) nofun
    · exact .deleted _ id removed (.inr ⟨rfl, (Option.filter_eq_some_iff.1 chosen).1⟩) done

theorem effect_moveNode (id : NodeId) (position : Point Float) :
    s.Effect (.moveNode id position) (Reply.of .graph .position (s.moveNode id position)) := by
  cases found : s.canvas.graph.node? id with
  | none =>
    rw [moveNode, graph, Graph.moveNode_of_unknown found]
    exact .refused _ (.graph (.unknownNode id)) nofun
  | some n =>
    have moved := Effect.moved (s := s) id position
    rw [Canvas.moved, Graph.moveNode_of found] at moved
    rw [moveNode, graph, Graph.moveNode_of found]
    exact moved

theorem effect_updateField (id : NodeId) (name : String) (v : Json.Value) :
    s.Effect (.updateField id name v) (Reply.of .graph .previous (s.updateField id name v)) := by
  rcases s.graph.updateField_amends id name v with ⟨-, e⟩ | ⟨n, before, -, e⟩
  · rw [updateField_eq, e]
    exact .refused _ (.graph (.unknownNode id)) nofun
  · have updated := Effect.updated (s := s) id name v before
    rw [e] at updated
    rw [updateField_eq, e]
    exact updated

theorem effect_select (id : NodeId) : s.Effect (.select id) (Reply.of .graph (fun _ => .done) (s.select id)) := by
  rw [select]
  split
  · next found => exact .selected id ((s.graph.containsNode_iff id).1 found)
  · exact .refused _ (.graph (.unknownNode id)) nofun

theorem effect_createEdge (source target : NodeId) (outcome : Outcome) : s.Effect (.createEdge source target outcome)
    (Reply.of .graph .edge (s.createEdge source target outcome)) := by
  rcases s.canvas.graph.createEdge_cases source target outcome with ⟨r, e⟩ | ⟨-, -, -, -, -, e⟩
  · rw [createEdge, graph, e]
    exact .refused _ (.graph r) nofun
  · have connected := Effect.connected (s := s) source target outcome
    rw [Canvas.connected, e] at connected
    rw [createEdge, graph, e]
    exact connected

theorem effect_deleteEdge (e : Edge) :
    s.Effect (.deleteEdge e) (Reply.of .graph (fun _ => .done) (s.deleteEdge e)) := by
  rcases s.graph.deleteEdge_cases e with ⟨r, refused⟩ | ⟨present, -⟩
  · rw [deleteEdge, refused]
    exact .refused _ (.graph r) nofun
  · rw [s.deleteEdge_of_mem present]
    exact .disconnected _ e .done (.inl ⟨rfl, rfl⟩)

theorem effect_clickEdge (e : Edge) (now : Int) :
    s.Effect (.clickEdge e now) (Reply.of .graph (fun c => .click c e) (s.clickEdge e now)) := by
  rcases s.clickEdge_cases e now with ⟨r, done⟩ | ⟨present, done⟩ | ⟨held, done⟩ <;> rw [done]
  · exact .refused _ (.graph r) nofun
  · exact .clicked e now present
  · have reset : s.clicks.without [e] = s.clicks.reset := by rw [DoubleClick.without_singleton, if_pos held]
    rw [← reset]
    exact .disconnected _ e _ (.inr ⟨now, rfl, held, rfl⟩)

theorem effect_load {a : Action} (other : ∀ g, a ≠ .gesture g) (imported : Except ImportError Imported)
    (loads : ∀ i, imported = .ok i → s.Loads a i) : s.Effect a (Reply.of .load .loaded (s.load imported)) := by
  cases imported with
  | error e => exact .refused a (.load e) other
  | ok i =>
    rw [load_ok]
    exact .loaded a i (loads i rfl)

/-- **Every action does one of these.** -/
theorem effect_perform (a : Action) : s.Effect a (s.perform a) := by
  cases a with
  | gesture g => exact s.effect_handle g
  | createNode kind position => exact s.effect_createNode kind position
  | dropNode kind screen => exact s.effect_dropNode kind screen
  | deleteNode id => exact s.effect_deleteNode id
  | deleteSelected => exact s.effect_deleteSelected
  | moveNode id position => exact s.effect_moveNode id position
  | updateField id name v => exact s.effect_updateField id name v
  | select id => exact s.effect_select id
  | clearSelection => exact .deselected
  | createEdge source target outcome => exact s.effect_createEdge source target outcome
  | deleteEdge e => exact s.effect_deleteEdge e
  | clickEdge e now => exact s.effect_clickEdge e now
  | expire now => exact .expired now
  | wheel anchor deltaY => exact .viewed _ _ (.inl ⟨anchor, deltaY, rfl⟩)
  | zoomIn => exact .viewed _ _ (.inr (.inl rfl))
  | zoomOut => exact .viewed _ _ (.inr (.inr (.inl rfl)))
  | resetView => exact .viewed _ _ (.inr (.inr (.inr rfl)))
  | arrange => exact .arranged
  | clear =>
    rw [perform, Reply.sure, clear_eq]
    exact .cleared
  | loadText text => exact s.effect_load (a := .loadText text) nofun _ fun i imported => .text text i imported
  | loadValue v => exact s.effect_load (a := .loadValue v) nofun _ fun i imported => .value v i imported

/-! ## What actions keep -/

variable {s} {a : Action} {r : Except Refusal Reply × Session}

theorem Loads.reachable {i : Imported} (loads : s.Loads a i) : i.graph.Reachable := by
  cases loads with
  | text text i imported => exact Import.reachable_of_text imported
  | value v i imported => exact Import.reachable_of_import imported

/-- **What every request keeps, an action keeps**, if what it loads has it. -/
theorem Effect.induction {P : Graph Float → Prop}
    (kept : ∀ (g : Graph Float) (r : Graph.Request Float), P g → P (g.perform r).2) (effect : s.Effect a r)
    (loaded : ∀ i, s.Loads a i → P i.graph) (first : P s.graph) : P r.2.graph := by
  cases effect with
  | handled g r effect => exact effect.induction kept first
  | created _ kind position | uncreated _ kind position => exact kept s.graph (.createNode kind position) first
  | deleted _ id => exact kept s.graph (.deleteNode id) first
  | moved id position => exact kept s.graph (.moveNode id position) first
  | updated id name v => exact kept s.graph (.updateField id name v) first
  | connected source target outcome => exact kept s.graph (.createEdge source target outcome) first
  | disconnected _ e => exact kept s.graph (.deleteEdge e) first
  | arranged => exact kept s.graph (.arrange s.settings.placement) first
  | cleared => exact s.started_induction kept (kept s.graph .clear first)
  | loaded _ i loads => exact s.started_induction kept (loaded i loads)
  | refused | spared | selected | deselected | clicked | expired | viewed => exact first

theorem Effect.reachable (effect : s.Effect a r) (reached : s.graph.Reachable) : r.2.graph.Reachable :=
  effect.induction (fun _ r h => h.perform r) (fun _ loads => loads.reachable) reached

/-- **What each action keeps, a history keeps.** -/
theorem after_induction {P : Session → Prop} (step : ∀ s a, P s → P (s.perform a).2) (first : P s)
    (history : List Action) : P (s.after history) :=
  List.foldlRecOn (motive := P) history _ first fun s kept a _ => step s a kept

end Session

end Workflow
