import Workflow.Settings
/-!
# The viewport

A logical point `p` is drawn at `p · zoom + pan`.  Zooming at an anchor keeps the logical point under the
anchor where it is, also where the zoom asked for is cut to the bounds.
-/
namespace Workflow

/-- The pan and zoom of a canvas, and the bounds of the zoom. -/
structure Viewport (α : Type) where
  zoom : α
  pan : Point α
  minZoom : α
  maxZoom : α

namespace Viewport

variable {α : Type} [Scalar α] (v : Viewport α)

/-- The nearest zoom within the bounds. -/
def clampZoom (zoom : α) : α := Scalar.smaller (Scalar.larger zoom v.minZoom) v.maxZoom

/-- Back to no pan and a zoom of one, or the nearest within the bounds. -/
def reset : Viewport α := { v with zoom := v.clampZoom 1, pan := .origin }

def ofBounds (bounds : ZoomSettings α) : Viewport α :=
  reset ⟨1, .origin, bounds.min, bounds.max⟩

/-- The logical point under a screen point. -/
def toLogical (screen : Point α) : Point α := (screen - v.pan).scale (1 / v.zoom)

/-- The screen point a logical point is drawn at. -/
def toScreen (logical : Point α) : Point α := logical.scale v.zoom + v.pan

/-- Zooms and leaves the logical point under an anchor under it. -/
def zoomAt (anchor : Point α) (zoom : α) : Viewport α :=
  let clamped := v.clampZoom zoom
  { v with zoom := clamped, pan := anchor - (anchor - v.pan).scale (clamped / v.zoom) }

def setZoom (zoom : α) : Viewport α := { v with zoom := v.clampZoom zoom }

def setPan (pan : Point α) : Viewport α := { v with pan }

/-- The zoom in percent, rounded, for display. -/
def percent (v : Viewport Float) : Nat := (v.zoom * 100).round.toUInt32.toNat

end Viewport

end Workflow
