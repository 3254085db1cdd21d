import Workflow.Plane.Scalar
/-!
# Points and boxes

Two coordinate spaces share one type.  *Screen* points are what the pointer reports; *logical* points are
where nodes live, whatever the pan and zoom.  A node's position is always some `clamp p`, so it is never
negative, and clamping it again changes nothing (`clamp_clamp`).
-/
namespace Workflow

/-- A point of the plane, or an offset between two. -/
@[ext]
structure Point (α : Type) where
  x : α
  y : α
deriving BEq, DecidableEq

@[ext]
structure Size (α : Type) where
  width : α
  height : α

namespace Point

variable {α : Type} [Scalar α]

def origin : Point α := ⟨0, 0⟩

instance : Add (Point α) := ⟨fun p q => ⟨p.x + q.x, p.y + q.y⟩⟩

instance : Sub (Point α) := ⟨fun p q => ⟨p.x - q.x, p.y - q.y⟩⟩

def scale (p : Point α) (factor : α) : Point α := ⟨p.x * factor, p.y * factor⟩

def midpoint (p q : Point α) : Point α := ⟨(p.x + q.x) / 2.0, (p.y + q.y) / 2.0⟩

/-- The nearest point with no negative axis. -/
def clamp (p : Point α) : Point α := ⟨Scalar.nonNegative p.x, Scalar.nonNegative p.y⟩

@[simp]
theorem clamp_clamp (p : Point α) : p.clamp.clamp = p.clamp := by
  simp [clamp]

def distance (p q : Point Float) : Float :=
  let dx := q.x - p.x
  let dy := q.y - p.y
  (dx * dx + dy * dy).sqrt

/-- Whether two points differ by at most `epsilon` on each axis. -/
def near (p q : Point Float) (epsilon : Float) : Bool :=
  (p.x - q.x).abs ≤ epsilon && (p.y - q.y).abs ≤ epsilon

end Point

end Workflow
