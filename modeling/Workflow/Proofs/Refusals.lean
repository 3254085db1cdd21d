import Workflow.Proofs.Numbering
import Workflow.Proofs.References
/-!
# Refusals

What is refused changes nothing: neither a store nor a session is left half done (`AllOrNothing`).  Two changes write
before they can fail.  Counting on to a fresh number fails at the last one only, where there is nothing left to count,
since the next number is never taken.  A second click lets go of the first before it deletes the edge, which is there,
since the click would not wait otherwise.

One refusal is not silent: a connection that is not made is over all the same.
-/
namespace Workflow

open Json (Object Value)

/-- A step that is refused leaves the state as it was. -/
def AllOrNothing {σ ε β : Type} (s : σ) (step : Except ε β × σ) : Prop := ∀ e, step.1 = .error e → step.2 = s

section Steps

variable {σ ε β : Type} {s t : σ}

theorem allOrNothing_error (e : ε) : AllOrNothing s ((.error e, s) : Except ε β × σ) := fun _ _ => rfl

theorem allOrNothing_ok (b : β) : AllOrNothing s ((.ok b, t) : Except ε β × σ) := nofun

theorem AllOrNothing.map {γ : Type} {step : Except ε β × σ} (h : AllOrNothing s step) (f : β → γ) :
    AllOrNothing s (step.1.map f, step.2) := by
  intro e refused
  rcases answer : step.1 with r | b <;> rw [answer] at refused
  · exact h r answer
  · cases refused

end Steps

/-! ## Stores -/

namespace Graph

variable {α : Type} {g : Graph α}

theorem Amends.allOrNothing {β : Type} {id : NodeId} {next : Node α → Node α} {c : Change α β}
    (amends : g.Amends id next c) : AllOrNothing g c := by
  rcases amends with ⟨-, rfl⟩ | ⟨n, answer, -, rfl⟩
  · exact allOrNothing_error _
  · exact allOrNothing_ok _

theorem allOrNothing_deleteNode (g : Graph α) (id : NodeId) : AllOrNothing g (g.deleteNode id) := by
  rcases g.deleteNode_cases id with ⟨r, e⟩ | ⟨n, -, -, e⟩ <;> rw [e]
  · exact allOrNothing_error r
  · exact allOrNothing_ok _

theorem allOrNothing_createEdge (g : Graph α) (source target : NodeId) (outcome : Outcome) :
    AllOrNothing g (g.createEdge source target outcome) := by
  rcases g.createEdge_cases source target outcome with ⟨r, e⟩ | ⟨-, -, -, -, -, e⟩ <;> rw [e]
  · exact allOrNothing_error r
  · exact allOrNothing_ok _

theorem allOrNothing_deleteEdge (g : Graph α) (e : Edge) : AllOrNothing g (g.deleteEdge e) := by
  rcases g.deleteEdge_cases e with ⟨r, e'⟩ | ⟨-, e'⟩ <;> rw [e']
  · exact allOrNothing_error r
  · exact allOrNothing_ok _

variable [Scalar α]

theorem allOrNothing_restoreNode (g : Graph α) (id : NodeId) (kind : Kind) (position : Point α) (data : Object) :
    AllOrNothing g (g.restoreNode id kind position data) := by
  rcases g.restoreNode_cases id kind position data with ⟨r, e⟩ | ⟨-, -, e⟩ <;> rw [e]
  · exact allOrNothing_error r
  · exact allOrNothing_ok _

/-- **A node that is not created costs no number.** -/
theorem Reachable.allOrNothing_createNode (reached : g.Reachable) (kind : Kind) (position : Point α) :
    AllOrNothing g (g.createNode kind position) := by
  cases conflict : g.startConflict kind with
  | some r =>
    rw [createNode, conflict]
    exact allOrNothing_error r
  | none =>
    rcases Nat.lt_or_eq_of_le reached.counter_le with below | full
    · have found := reached.numbered.nextId_eq below
      simp only [createNode, conflict, allocate, found]
      exact allOrNothing_ok _
    · simp only [createNode, conflict, allocate, nextId_full g.nodes full]
      exact allOrNothing_error _

/-- **A request that is refused leaves a reachable store as it was.** -/
theorem Reachable.allOrNothing (reached : g.Reachable) (r : Request α) : AllOrNothing g (g.perform r) := by
  cases r with
  | createNode kind position => exact (reached.allOrNothing_createNode kind position).map _
  | restoreNode id kind position data => exact (g.allOrNothing_restoreNode id kind position data).map _
  | deleteNode id => exact (g.allOrNothing_deleteNode id).map _
  | moveNode id position => exact (g.moveNode_amends id position).allOrNothing.map _
  | updateField id name v => exact (g.updateField_amends id name v).allOrNothing.map _
  | replaceData id data => exact (g.replaceData_amends id data).allOrNothing.map _
  | createEdge source target outcome => exact (g.allOrNothing_createEdge source target outcome).map _
  | deleteEdge e => exact (g.allOrNothing_deleteEdge e).map _
  | clear => exact allOrNothing_ok _
  | arrange placement => exact allOrNothing_ok _

end Graph

/-! ## Sessions -/

namespace Session

open Workflow.Action (Reply Refusal)

variable {mode : Mode} {s : Session}

/-- An action releases a connection that is being drawn. -/
def Releases (s : Session) (a : Action) : Prop :=
  ∃ onto source outcome, a = .gesture (.release onto) ∧ s.hand.activity = .connecting source outcome

/-- A gesture that is refused leaves hand and canvas; only a connection that is released is over. -/
theorem Anchored.handled_of_error (h : s.Anchored mode) {g : Gesture} {r : Hand.Handled}
    (effect : s.hand.Effect s.canvas g r) {e : GestureError} (refused : r.1 = .error e) :
    (¬ s.Releases (.gesture g) → r.2 = (s.hand, s.canvas)) ∧ (s.Releases (.gesture g) → r.2 = (.idle, s.canvas)) := by
  cases effect with
  | refused g e begins =>
    refine ⟨fun _ => rfl, ?_⟩
    rintro ⟨onto, -, -, released, -⟩
    cases released
    cases begins
  | lost id anchor origin point was gone =>
    -- an anchored hand drags a node that is there
    obtain ⟨n, found⟩ := (s.graph.mem_nodes_iff id).1 (h.hand.dragged was)
    rw [graph, gone] at found
    cases found
  | declined source outcome onto r was =>
    exact ⟨fun still => absurd ⟨onto, source, outcome, rfl, was⟩ still, fun _ => rfl⟩
  | _ => cases refused

/-- **An action that is refused leaves the session as it was**, but for a connection that is released. -/
theorem Effect.of_error {a : Action} {r : Except Refusal Reply × Session} (effect : s.Effect a r)
    (h : s.Anchored mode) {e : Refusal} (refused : r.1 = .error e) :
    (¬ s.Releases a → r.2 = s) ∧ (s.Releases a → r.2 = { s with hand := .idle }) := by
  cases effect with
  | refused a e other =>
    refine ⟨fun _ => rfl, ?_⟩
    rintro ⟨onto, -, -, released, -⟩
    exact absurd released (other _)
  | uncreated a kind position r asked failed =>
    have same := h.reached.allOrNothing_createNode kind position r failed
    refine ⟨fun _ => by rw [same]; rfl, ?_⟩
    rintro ⟨onto, -, -, rfl, -⟩
    rcases asked with asked | ⟨screen, asked⟩ <;> cases asked
  | handled g r effect selection chosen =>
    rcases r with ⟨answer, left⟩
    cases answer with
    | ok response => cases refused
    | error e =>
      -- what is refused selects nothing
      obtain rfl : selection = s.selection := by
        rcases chosen with same | ⟨id, started, -⟩
        · exact same
        · cases started
      obtain ⟨unchanged, freed⟩ := h.handled_of_error effect rfl
      refine ⟨fun still => ?_, fun released => ?_⟩
      · obtain rfl : left = _ := unchanged still
        rfl
      · obtain rfl : left = _ := freed released
        rfl
  | _ => cases refused

end Session

/-- **What is refused changes nothing.**  A request that a reachable store refuses leaves all of the store, its counter
and both orders included.  An action that a session refuses after any history leaves all of the session; only the
release of a connection leaves the hand idle, and everything else. -/
theorem refused_changes_nothing :
    (∀ g : Graph Float, g.Reachable → ∀ r e, (g.perform r).1 = .error e → (g.perform r).2 = g) ∧
    ∀ (palette : Palette) (settings : Settings Float) (mode : Mode) (s : Session),
      Session.ofSettings palette settings mode = .ok s → ∀ history a e,
        ((s.after history).perform a).1 = .error e →
        ((∀ onto source outcome, a = .gesture (.release onto) →
            (s.after history).hand.activity ≠ .connecting source outcome) →
          ((s.after history).perform a).2 = s.after history) ∧
        (∀ onto source outcome, a = .gesture (.release onto) →
            (s.after history).hand.activity = .connecting source outcome →
          ((s.after history).perform a).2 = { s.after history with hand := .idle }) := by
  refine ⟨fun g reached r => reached.allOrNothing r, fun palette settings mode s opened history a e refused => ?_⟩
  have anchored := (Session.anchored_ofSettings opened).after history
  obtain ⟨unchanged, freed⟩ := ((s.after history).effect_perform a).of_error anchored refused
  refine ⟨fun other => unchanged ?_, fun onto source outcome released connecting =>
    freed ⟨onto, source, outcome, released, connecting⟩⟩
  rintro ⟨onto, source, outcome, released, connecting⟩
  exact other onto source outcome released connecting

theorem refused_at_last_number_and_over_unknown_node :
    (∃ g : Graph Float, g.Reachable ∧ (g.createNode (.action "click") ⟨1, 2⟩).1 = .error .idsExhausted ∧
      (g.perform (.createNode (.action "click") ⟨1, 2⟩)).2 = g) ∧
    ∃ (s : Session) (e : Action.Refusal), s.hand.activity = .connecting (.numbered 1) .success ∧
      (s.perform (.gesture (.release (some ⟨"ghost"⟩)))).1 = .error e ∧
      (s.perform (.gesture (.release (some ⟨"ghost"⟩)))).2 = { s with hand := .idle } := by
  constructor
  · let g : Graph Float :=
      ((Graph.empty ⟨∅⟩).perform (.restoreNode ⟨"node_18446744073709551615"⟩ (.action "click") ⟨0, 0⟩ .empty)).2
    have reached : g.Reachable := .perform _ (.empty ⟨∅⟩)
    have exhausted : (g.createNode (.action "click") ⟨1, 2⟩).1 = .error .idsExhausted := by decide +kernel
    refine ⟨g, reached, exhausted, refused_changes_nothing.1 g reached _ .idsExhausted ?_⟩
    show (g.createNode (.action "click") ⟨1, 2⟩).1.map Graph.Answer.node = _
    rw [exhausted]
    rfl
  · obtain ⟨s, opened⟩ := @Session.exists_ofSettings .standard (by decide +kernel) ⟨∅⟩ .create
    let history : List Action := [.gesture (.beginConnection (.numbered 1) .success)]
    let release : Action := .gesture (.release (some ⟨"ghost"⟩))
    have refused : ∃ e, ((s.after history).perform release).1 = .error e := by
      rw [Session.ofSettings_eq opened]
      exact ⟨.gesture (.graph (.missingEndpoint ⟨"ghost"⟩)), by rfl⟩
    have connecting : (s.after history).hand.activity = .connecting (.numbered 1) .success := by
      rw [Session.ofSettings_eq opened]
      rfl
    obtain ⟨e, refused⟩ := refused
    have freed := (refused_changes_nothing.2 ⟨∅⟩ .standard .create s opened history release e refused).2
    exact ⟨s.after history, e, connecting, refused, freed _ _ _ rfl connecting⟩

end Workflow
