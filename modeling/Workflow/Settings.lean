import Workflow.Plane.Point
import Workflow.Decimal.Style
/-!
# Settings

Every value here can be chosen freely within bounds that keep the geometry from collapsing: `Settings.fault?`
says whether a choice leaves them.  A value that compares with nothing passes wherever only a bound in the
wrong direction would be a fault.
-/
namespace Workflow

structure ZoomSettings (α : Type) where
  min : α
  max : α
  /-- The change per notch of the wheel. -/
  wheelStep : α
  /-- The change per press of a button. -/
  buttonStep : α

/-- The box of a node and the shape of the wires between nodes, in logical units. -/
structure WireSettings (α : Type) where
  nodeSize : Size α
  /-- How far down the success port sits, as a part of the node's height. -/
  successPortRatio : α
  /-- How far down the error port sits, as a part of the node's height. -/
  errorPortRatio : α
  curvatureFactor : α
  maxCurvature : α
  /-- How far a label sits above the middle of its wire. -/
  labelLift : α

/-- Where nodes go that nobody placed by hand. -/
structure PlacementSettings (α : Type) where
  startPosition : Point α
  /-- From the corner of a dropped node to the pointer. -/
  dropOffset : Point α
  stepColumnX : α
  firstStepY : α
  stepPitch : α
  layoutOrigin : Point α
  levelWidth : α
  nodePitch : α

structure Settings (α : Type) where
  zoom : ZoomSettings α
  wires : WireSettings α
  placement : PlacementSettings α
  /-- The time in which a second click on an edge deletes it, in milliseconds. -/
  deleteMillis : UInt64

section Defaults

variable {α : Type} [Scalar α]

def ZoomSettings.standard : ZoomSettings α := ⟨0.1, 3.0, 0.1, 0.2⟩

def WireSettings.standard : WireSettings α := ⟨⟨150.0, 50.0⟩, 0.3, 0.7, 0.3, 100.0, 5.0⟩

def PlacementSettings.standard : PlacementSettings α :=
  ⟨⟨100.0, 100.0⟩, ⟨75.0, 25.0⟩, 200.0, 150.0, 100.0, ⟨100.0, 100.0⟩, 300.0, 120.0⟩

def Settings.standard : Settings α := ⟨.standard, .standard, .standard, 400⟩

end Defaults

namespace Settings

/-- The time in which a second click on an edge deletes it, in nanoseconds as clocks count. -/
def deleteWindow {α : Type} (s : Settings α) : Nat := s.deleteMillis.toNat * 1000000

inductive Fault (α : Type) where
  | zoomBounds (min max : α)
  | zoomSteps
  | nodeSize (width height : α)
  | layoutSpacing
deriving DecidableEq

/-- The first fault of some settings, if they have one. -/
def fault? {α : Type} [Scalar α] (s : Settings α) : Option (Fault α) :=
  if ¬(0 < s.zoom.min ∧ s.zoom.min ≤ s.zoom.max) then some (.zoomBounds s.zoom.min s.zoom.max)
  else if s.zoom.wheelStep ≤ 0 ∨ s.zoom.buttonStep ≤ 0 then some .zoomSteps
  else if s.wires.nodeSize.width ≤ 0 ∨ s.wires.nodeSize.height ≤ 0 then
    some (.nodeSize s.wires.nodeSize.width s.wires.nodeSize.height)
  else if s.placement.levelWidth ≤ 0 ∨ s.placement.nodePitch ≤ 0 ∨ s.placement.stepPitch ≤ 0 then
    some .layoutSpacing
  else none

def Fault.message : Fault Float → String
  | .zoomBounds min max =>
    "zoom bounds must satisfy 0 < min <= max, got [" ++ Style.plain.text min ++ ", " ++ Style.plain.text max ++ "]"
  | .zoomSteps => "zoom steps must be positive"
  | .nodeSize width height =>
    "node size must be positive, got " ++ Style.plain.text width ++ "x" ++ Style.plain.text height
  | .layoutSpacing => "layout spacing must be positive"

end Settings

end Workflow
