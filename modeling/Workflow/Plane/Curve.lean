import Workflow.Settings
/-!
# Curves

Wires are cubic Bézier curves, horizontal at both ends.  Their control points lie a part of the distance
between the ends away from them, up to a limit, which keeps the curve steady however the ends lie.
-/
namespace Workflow

/-- A cubic Bézier curve. -/
structure Curve where
  start : Point Float
  control1 : Point Float
  control2 : Point Float
  stop : Point Float

def Point.text (p : Point Float) : String :=
  "(" ++ Style.plain.text p.x ++ ", " ++ Style.plain.text p.y ++ ")"

namespace Curve

/-- The point of a curve at a parameter from zero to one. -/
def pointAt (c : Curve) (t : Float) : Point Float :=
  let u := 1 - t
  let w0 := u * u * u
  let w1 := 3 * u * u * t
  let w2 := 3 * u * t * t
  let w3 := t * t * t
  ⟨w0 * c.start.x + w1 * c.control1.x + w2 * c.control2.x + w3 * c.stop.x,
    w0 * c.start.y + w1 * c.control1.y + w2 * c.control2.y + w3 * c.stop.y⟩

def pair (p : Point Float) : String := Style.plain.text p.x ++ " " ++ Style.plain.text p.y

/-- The curve as path data of a vector drawing. -/
def path (c : Curve) : String :=
  "M " ++ pair c.start ++ " C " ++ pair c.control1 ++ ", " ++ pair c.control2 ++ ", " ++ pair c.stop

def between (wires : WireSettings Float) (start stop : Point Float) : Curve :=
  let curvature := Scalar.smaller (start.distance stop * wires.curvatureFactor) wires.maxCurvature
  ⟨start, ⟨start.x + curvature, start.y⟩, ⟨stop.x - curvature, stop.y⟩, stop⟩

end Curve

end Workflow
