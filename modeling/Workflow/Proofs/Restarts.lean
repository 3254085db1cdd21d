import Workflow.Proofs.Numbering
import Workflow.Proofs.Wires
/-!
# Sessions started over

What a session was opened with it keeps, whatever is done to it: its settings, its mode, the palette of its graph and
the window for a second click (`Session.frame`).  Clearing and loading rebuild everything else from these, the view
apart (`Session.openedOn`), so nothing of the workflow before is left in the new one.
-/
namespace Workflow

/-! ## Palettes -/

/-- **No request changes the palette.** -/
theorem Graph.palette_perform {α : Type} [Scalar α] (g : Graph α) (r : Request α) :
    (g.perform r).2.palette = g.palette := by
  cases r with
  | createNode kind position =>
    show (g.createNode kind position).2.palette = _
    rcases g.createNode_cases kind position with ⟨r, -, e⟩ | ⟨-, e⟩ | ⟨n, -, -, -, -, e⟩ <;> rw [e]
    rfl
  | restoreNode id kind position data =>
    show (g.restoreNode id kind position data).2.palette = _
    rcases g.restoreNode_cases id kind position data with ⟨r, e⟩ | ⟨-, -, e⟩ <;> rw [e]
    rfl
  | deleteNode id =>
    show (g.deleteNode id).2.palette = _
    rcases g.deleteNode_cases id with ⟨r, e⟩ | ⟨n, -, -, e⟩ <;> rw [e]
    exact palette_cut _ g
  | moveNode id position => exact (g.moveNode_amends id position).palette
  | updateField id name v => exact (g.updateField_amends id name v).palette
  | replaceData id data => exact (g.replaceData_amends id data).palette
  | createEdge source target outcome =>
    show (g.createEdge source target outcome).2.palette = _
    rcases g.createEdge_cases source target outcome with ⟨r, e⟩ | ⟨-, -, -, -, -, e⟩ <;> rw [e]
    rfl
  | deleteEdge e =>
    show (g.deleteEdge e).2.palette = _
    rcases g.deleteEdge_cases e with ⟨r, e'⟩ | ⟨-, e'⟩ <;> rw [e']
    rfl
  | clear => rfl
  | arrange placement =>
    exact arrange_induction (P := fun next => next.palette = g.palette)
      (fun next id position h => (next.moveNode_amends id position).palette.trans h) placement rfl

theorem Import.palette_of_import {palette : Palette} {placement : PlacementSettings Float} {v : Json.Value}
    {i : Imported} (imported : ofValue palette placement v = .ok i) : i.graph.palette = palette :=
  import_induction (P := fun g => g.palette = palette) (fun g r h => (g.palette_perform r).trans h) rfl rfl imported

theorem Session.Loads.palette {s : Session} {a : Action} {i : Imported} (loads : s.Loads a i) :
    i.graph.palette = s.graph.palette := by
  cases loads with
  | text text i imported =>
    obtain ⟨v, value⟩ := Import.exists_ofValue imported
    exact Import.palette_of_import value
  | value v i imported => exact Import.palette_of_import imported

/-! ## What stays -/

namespace Session

open Workflow.Action (Reply Refusal)

/-- What a session is opened with. -/
structure Frame where
  settings : Settings Float
  mode : Mode
  palette : Palette
  window : Nat

def frame (s : Session) : Frame := ⟨s.settings, s.mode, s.graph.palette, s.clicks.window⟩

variable (s : Session)

theorem Effect.window {s : Session} {a : Action} {r : Except Refusal Reply × Session} (effect : s.Effect a r) :
    r.2.clicks.window = s.clicks.window := by
  cases effect with
  | deleted | disconnected => exact s.clicks.window_without _
  | expired now => exact s.clicks.window_expire now
  | _ => rfl

/-- **No action changes what a session was opened with.** -/
theorem frame_perform (a : Action) : (s.perform a).2.frame = s.frame := by
  have effect := s.effect_perform a
  have palette := effect.induction (P := fun g => g.palette = s.graph.palette)
    (fun g r h => (g.palette_perform r).trans h) (fun i loads => loads.palette) rfl
  have same : (s.perform a).2.settings = s.settings ∧ (s.perform a).2.mode = s.mode := by
    generalize s.perform a = r at effect
    cases effect <;> exact ⟨rfl, rfl⟩
  rw [frame, same.1, same.2, palette, effect.window, frame]

theorem frame_after (history : List Action) : (s.after history).frame = s.frame :=
  after_induction (P := fun t => t.frame = s.frame) (fun t a h => (t.frame_perform a).trans h) rfl history

/-! ## Starting over -/

/-- A session opened on a graph: its edges are drawn, and nothing is held, clicked or selected. -/
def openedOn (settings : Settings Float) (mode : Mode) (graph : Graph Float) (viewport : Viewport Float) : Session :=
  ⟨settings, mode, ⟨graph, viewport, (Wiring.empty settings.wires).all graph⟩, .idle, .ofWindow settings.deleteWindow,
    none⟩

theorem all_of_no_edges (w : Wiring) {g : Graph Float} (edges : g.edges = []) : w.all g = w.clear := by
  rw [Wiring.all, edges, List.foldl_nil]

theorem edges_blankGraph (palette : Palette) (settings : Settings Float) (mode : Mode) :
    (blankGraph palette settings mode).edges = [] := by
  cases mode <;> rfl

/-- **The start node that clearing creates is the one that a session begins with**: it has the first number. -/
theorem started_empty (palette : Palette) : s.started (.empty palette) = blankGraph palette s.settings s.mode := by
  unfold started
  cases s.mode with
  | edit => rfl
  | create =>
    -- numbering went back to zero, so the store gives out the number that a graph begins with
    have below : (Graph.empty palette : Graph Float).counter < NodeId.maxNumber := show 0 < NodeId.maxNumber by decide
    show ((Graph.empty palette).createNode .start s.settings.placement.startPosition).2 = _
    rw [(Graph.numbered_empty palette).createNode_eq (fun _ => rfl) below]
    rfl

variable {s} {palette : Palette} {settings : Settings Float} {mode : Mode}

theorem openedOn_blankGraph (opened : ofSettings palette settings mode = .ok s) :
    s = openedOn settings mode (blankGraph palette settings mode) (.ofBounds settings.zoom) := by
  rw [openedOn, all_of_no_edges _ (edges_blankGraph palette settings mode)]
  exact ofSettings_eq opened

/-- What a session has that was opened with a palette, settings and a mode, whatever was done to it since. -/
structure OpenedWith (palette : Palette) (settings : Settings Float) (mode : Mode) (s : Session) : Prop where
  frame : s.frame = ⟨settings, mode, palette, settings.deleteWindow⟩
  wires : s.wiring.settings = settings.wires

theorem openedWith_after (opened : ofSettings palette settings mode = .ok s) (history : List Action) :
    OpenedWith palette settings mode (s.after history) where
  frame := by
    rw [frame_after, ofSettings_eq opened]
    cases mode <;> rfl
  wires := (inStep_after (inStep_ofSettings opened) history).settings_eq

theorem OpenedWith.settings_eq (h : s.OpenedWith palette settings mode) : s.settings = settings :=
  congrArg (·.settings) h.frame

theorem OpenedWith.mode_eq (h : s.OpenedWith palette settings mode) : s.mode = mode := congrArg (·.mode) h.frame

theorem OpenedWith.palette_eq (h : s.OpenedWith palette settings mode) : s.graph.palette = palette :=
  congrArg (·.palette) h.frame

theorem OpenedWith.redrawn (h : s.OpenedWith palette settings mode) (graph : Graph Float) :
    (⟨s.settings, s.mode, s.canvas.redrawn graph s.viewport, .idle, s.clicks.reset, none⟩ : Session) =
      openedOn settings mode graph s.viewport := by
  have window : s.clicks.window = settings.deleteWindow := congrArg (·.window) h.frame
  -- all wires are drawn anew, so of those before only the settings count
  have wiring : s.wiring.all graph = (Wiring.empty settings.wires).all graph := by
    rw [← h.wires]
    rfl
  have clicks : s.clicks.reset = .ofWindow settings.deleteWindow := by
    rw [← window]
    rfl
  rw [openedOn, h.settings_eq, h.mode_eq, clicks, ← wiring]
  rfl

theorem OpenedWith.clear_eq (h : s.OpenedWith palette settings mode) :
    s.clear = openedOn settings mode (blankGraph palette settings mode) s.viewport := by
  have blank : s.started s.graph.clear = blankGraph palette settings mode := by
    rw [Graph.clear, started_empty, h.palette_eq, h.settings_eq, h.mode_eq]
  have undrawn := all_of_no_edges s.wiring (edges_blankGraph palette settings mode)
  rw [← h.redrawn, Session.clear_eq, blank, ← undrawn]
  rfl

theorem OpenedWith.load_eq (h : s.OpenedWith palette settings mode) (i : Imported) : s.load (.ok i) =
    (.ok ⟨i.source, i.skipped⟩, openedOn settings mode (s.started i.graph) s.viewport) := by
  rw [load_ok, h.redrawn]

theorem OpenedWith.started_alike {t : Session} (h : s.OpenedWith palette settings mode)
    (h' : t.OpenedWith palette settings mode) (g : Graph Float) : s.started g = t.started g := by
  rw [started, started, h.mode_eq, h'.mode_eq, h.settings_eq, h'.settings_eq]

/-- **What an import leaves does not depend on what it replaces**, the view apart. -/
theorem OpenedWith.load_alike {t : Session} (h : s.OpenedWith palette settings mode)
    (h' : t.OpenedWith palette settings mode) (i : Imported) :
    (s.load (.ok i)).1 = .ok ⟨i.source, i.skipped⟩ ∧ (t.load (.ok i)).1 = .ok ⟨i.source, i.skipped⟩ ∧
      (t.load (.ok i)).2 = (s.load (.ok i)).2.withViewport t.viewport := by
  rw [h.load_eq, h'.load_eq, h.started_alike h']
  exact ⟨rfl, rfl, rfl⟩

theorem OpenedWith.loadText_eq (h : s.OpenedWith palette settings mode) (text : String) :
    s.loadText text = s.load (Import.ofText palette settings.placement text) := by
  rw [loadText, h.palette_eq, h.settings_eq]

theorem OpenedWith.loadValue_eq (h : s.OpenedWith palette settings mode) (v : Json.Value) :
    s.loadValue v = s.load (Import.ofValue palette settings.placement v) := by
  rw [loadValue, h.palette_eq, h.settings_eq]

/-- **Starting over leaves nothing behind.**  After any history, clearing a session gives the session that opening one
gives, with the view it has: a blank graph numbered from the beginning, with no wire, an idle hand, no waiting click and
no selection.  Loading what import accepts gives, after any two histories, the same report and sessions that differ in
nothing but the view. -/
theorem nothing_left_behind (opened : ofSettings palette settings mode = .ok s) (history history' : List Action) :
    (s.after history).clear = s.withViewport (s.after history).viewport ∧
    (s.graph = blankGraph palette settings mode ∧ s.wiring = .empty settings.wires ∧ s.hand = .idle ∧
      s.clicks.pending = none ∧ s.selection = none) ∧
    (mode = .create → s.graph.startId = some (.numbered 1) ∧ s.graph.counter = 1) ∧
    (∀ text i, Import.ofText palette settings.placement text = .ok i →
      ((s.after history).loadText text).1 = .ok ⟨i.source, i.skipped⟩ ∧
      ((s.after history').loadText text).1 = .ok ⟨i.source, i.skipped⟩ ∧
      ((s.after history').loadText text).2 =
        ((s.after history).loadText text).2.withViewport (s.after history').viewport) ∧
    ∀ v i, Import.ofValue palette settings.placement v = .ok i →
      ((s.after history).loadValue v).1 = .ok ⟨i.source, i.skipped⟩ ∧
      ((s.after history').loadValue v).1 = .ok ⟨i.source, i.skipped⟩ ∧
      ((s.after history').loadValue v).2 =
        ((s.after history).loadValue v).2.withViewport (s.after history').viewport := by
  have h := openedWith_after opened history
  have h' := openedWith_after opened history'
  refine ⟨?_, ?_, fun authors => ?_, fun text i imported => ?_, fun v i imported => ?_⟩
  · rw [h.clear_eq]
    exact congrArg (withViewport · (s.after history).viewport) (openedOn_blankGraph opened).symm
  · rw [ofSettings_eq opened]
    exact ⟨rfl, rfl, rfl, rfl, rfl⟩
  · rw [ofSettings_eq opened, authors]
    exact ⟨rfl, rfl⟩
  · rw [h.loadText_eq, h'.loadText_eq, imported]
    exact h.load_alike h' i
  · rw [h.loadValue_eq, h'.loadValue_eq, imported]
    exact h.load_alike h' i

theorem nothing_left_behind_by_dragging_and_clicking : ∃ s, ofSettings ⟨∅⟩ .standard .create = .ok s ∧
    (s.after [.createNode (.action "click") ⟨10, 20⟩, .createEdge (.numbered 1) (.numbered 2) .success,
      .clickEdge ⟨.numbered 1, .numbered 2, .success⟩ 5, .gesture (.beginDrag (.numbered 2) ⟨0, 0⟩), .zoomIn,
      .clear]).graph.counter = 1 ∧
    ∃ i, Import.ofValue ⟨∅⟩ (Settings.standard : Settings Float).placement
        (.array [.object [("type", .string "click")]]) = .ok i ∧
      ((s.after [.zoomIn]).loadValue (.array [.object [("type", .string "click")]])).2 =
        ((s.after [.createNode (.action "wait") ⟨1, 2⟩]).loadValue
          (.array [.object [("type", .string "click")]])).2.withViewport (s.after [.zoomIn]).viewport := by
  obtain ⟨s, opened⟩ := @exists_ofSettings .standard (by decide +kernel) ⟨∅⟩ .create
  obtain ⟨cleared, -, numbering, -⟩ := nothing_left_behind opened [.createNode (.action "click") ⟨10, 20⟩,
    .createEdge (.numbered 1) (.numbered 2) .success, .clickEdge ⟨.numbered 1, .numbered 2, .success⟩ 5,
    .gesture (.beginDrag (.numbered 2) ⟨0, 0⟩), .zoomIn] []
  obtain ⟨-, -, -, -, loading⟩ := nothing_left_behind opened [.createNode (.action "wait") ⟨1, 2⟩] [.zoomIn]
  refine ⟨s, opened, ?_, _, rfl, (loading _ _ rfl).2.2⟩
  exact (congrArg (·.graph.counter) cleared).trans (numbering rfl).2

end Session

end Workflow
