import Workflow.Session
/-!
# Actions of a session

Everything that can be done to a session, as data: a history is a list of actions, and `Session.perform` is
one step of it.  `Action.Reply` is what an action that was carried out answers, `Action.Refusal` why one was not.
-/
namespace Workflow

inductive Action where
  | gesture (g : Gesture)
  /-- Creates a node at a logical position. -/
  | createNode (kind : Kind) (position : Point Float)
  /-- Drops a node at a screen point. -/
  | dropNode (kind : Kind) (screen : Point Float)
  | deleteNode (id : NodeId)
  | deleteSelected
  | moveNode (id : NodeId) (position : Point Float)
  | updateField (id : NodeId) (name : String) (v : Json.Value)
  | select (id : NodeId)
  | clearSelection
  | createEdge (source target : NodeId) (outcome : Outcome)
  | deleteEdge (e : Edge)
  | clickEdge (e : Edge) (now : Int)
  | expire (now : Int)
  /-- Turns the wheel a notch with the pointer at a screen point. -/
  | wheel (anchor : Point Float) (deltaY : Float)
  | zoomIn
  | zoomOut
  | resetView
  | arrange
  | clear
  | loadText (text : String)
  | loadValue (v : Json.Value)

namespace Action

inductive Reply where
  | done
  | response (r : Response)
  | node (id : NodeId)
  | removed (r : Option (Graph.Removed Float))
  | position (p : Point Float)
  /-- What stood in a field before. -/
  | previous (v : Option Json.Value)
  | edge (e : Edge)
  | click (c : Click) (e : Edge)
  | layout (r : Layout.Report Float)
  | loaded (l : Loaded)

inductive Refusal where
  | gesture (e : GestureError)
  | graph (r : Graph.Rejection)
  | load (e : ImportError)

def Refusal.message : Refusal → String
  | .gesture e => e.message
  | .graph r => r.message
  | .load e => e.message

/-- An outcome in the common terms of all actions. -/
def Reply.of {ε β : Type} (refusal : ε → Refusal) (reply : β → Reply) (step : Except ε β × Session) :
    Except Refusal Reply × Session :=
  ((step.1.map reply).mapError refusal, step.2)

/-- An action that is never refused. -/
def Reply.sure (reply : Reply) (s : Session) : Except Refusal Reply × Session := (.ok reply, s)

end Action

open Workflow.Action (Reply Refusal)

def Session.perform (s : Session) : Action → Except Refusal Reply × Session
  | .gesture g => Reply.of .gesture .response (s.handle g)
  | .createNode kind position => Reply.of .graph .node (s.createNode kind position)
  | .dropNode kind screen => Reply.of .graph .node (s.dropNode kind screen)
  | .deleteNode id => Reply.of .graph (fun r => .removed (some r)) (s.deleteNode id)
  | .deleteSelected => Reply.of .graph .removed s.deleteSelected
  | .moveNode id position => Reply.of .graph .position (s.moveNode id position)
  | .updateField id name v => Reply.of .graph .previous (s.updateField id name v)
  | .select id => Reply.of .graph (fun _ => .done) (s.select id)
  | .clearSelection => Reply.sure .done s.clearSelection
  | .createEdge source target outcome => Reply.of .graph .edge (s.createEdge source target outcome)
  | .deleteEdge e => Reply.of .graph (fun _ => .done) (s.deleteEdge e)
  | .clickEdge e now => Reply.of .graph (fun c => .click c e) (s.clickEdge e now)
  | .expire now => Reply.sure .done (s.expire now)
  | .wheel anchor deltaY => Reply.sure .done (s.wheel anchor deltaY)
  | .zoomIn => Reply.sure .done s.zoomIn
  | .zoomOut => Reply.sure .done s.zoomOut
  | .resetView => Reply.sure .done s.resetView
  | .arrange => Reply.sure (.layout s.arrange.1) s.arrange.2
  | .clear => Reply.sure .done s.clear
  | .loadText text => Reply.of .load .loaded (s.loadText text)
  | .loadValue v => Reply.of .load .loaded (s.loadValue v)

/-- The session that a history leads to. -/
def Session.after (s : Session) (history : List Action) : Session :=
  history.foldl (fun s a => (s.perform a).2) s

end Workflow
