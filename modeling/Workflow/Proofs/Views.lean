import Mathlib.Algebra.Order.Field.Rat
import Mathlib.Tactic.FieldSimp
import Mathlib.Tactic.Ring
import Workflow.Plane.Viewport
/-!
# Views in exact arithmetic

A viewport is zoomed, panned and put back in any order.  Whatever is asked for, the zoom stays within bounds that are
positive (`Within`), so it is never zero, and that is all the maps between screen and canvas need to undo each other.
Zooming at an anchor divides by the zoom before and by the clamped zoom after, both within bounds, and with the clamped
one in the new pan the point under the anchor stays where it is.

Rounding breaks these laws, so they are stated over rational coordinates.
-/
namespace Workflow

namespace Scalar

theorem larger_eq_max (x y : Rat) : larger x y = max x y := by
  rw [larger, if_pos le_rfl]
  rcases lt_or_ge y x with less | more
  · rw [if_pos less, max_eq_left less.le]
  · rw [if_neg (not_lt.2 more), max_eq_right more]

theorem smaller_eq_min (x y : Rat) : smaller x y = min x y := by
  rw [smaller, if_pos le_rfl]
  rcases lt_or_ge x y with less | more
  · rw [if_pos less, min_eq_left less.le]
  · rw [if_neg (not_lt.2 more), min_eq_right more]

end Scalar

theorem Settings.zoomBounds_of_sound {s : Settings Rat} (sound : s.fault? = none) :
    0 < s.zoom.min ∧ s.zoom.min ≤ s.zoom.max := by
  rw [fault?] at sound
  split at sound
  · cases sound
  · next bounds => exact not_not.1 bounds

namespace Viewport

/-! ## Runs -/

inductive Change (α : Type) where
  | zoomAt (anchor : Point α) (zoom : α)
  | setZoom (zoom : α)
  | setPan (pan : Point α)
  | reset

section

variable {α : Type} [Scalar α]

def perform (v : Viewport α) : Change α → Viewport α
  | .zoomAt anchor zoom => v.zoomAt anchor zoom
  | .setZoom zoom => v.setZoom zoom
  | .setPan pan => v.setPan pan
  | .reset => v.reset

def after (v : Viewport α) (changes : List (Change α)) : Viewport α := changes.foldl perform v

end

/-- The bounds of a viewport are as they were set, and its zoom is within them. -/
structure Within (bounds : ZoomSettings Rat) (v : Viewport Rat) : Prop where
  minZoom : v.minZoom = bounds.min
  maxZoom : v.maxZoom = bounds.max
  above : bounds.min ≤ v.zoom
  below : v.zoom ≤ bounds.max

variable {bounds : ZoomSettings Rat} {v : Viewport Rat}

theorem clampZoom_eq (minZoom : v.minZoom = bounds.min) (maxZoom : v.maxZoom = bounds.max) (zoom : Rat) :
    v.clampZoom zoom = min (max zoom bounds.min) bounds.max := by
  rw [clampZoom, Scalar.larger_eq_max, Scalar.smaller_eq_min, minZoom, maxZoom]

theorem within_clampZoom (ordered : bounds.min ≤ bounds.max) (minZoom : v.minZoom = bounds.min)
    (maxZoom : v.maxZoom = bounds.max) (zoom : Rat) (pan : Point Rat) :
    Within bounds { v with zoom := v.clampZoom zoom, pan } where
  minZoom := minZoom
  maxZoom := maxZoom
  above := by
    show bounds.min ≤ v.clampZoom zoom
    rw [clampZoom_eq minZoom maxZoom]
    exact le_min (le_max_right zoom bounds.min) ordered
  below := by
    show v.clampZoom zoom ≤ bounds.max
    rw [clampZoom_eq minZoom maxZoom]
    exact min_le_right _ _

theorem within_ofBounds (ordered : bounds.min ≤ bounds.max) : Within bounds (ofBounds bounds) :=
  within_clampZoom ordered rfl rfl 1 .origin

theorem Within.perform (h : Within bounds v) (ordered : bounds.min ≤ bounds.max) (change : Change Rat) :
    Within bounds (v.perform change) := by
  -- whatever takes on a zoom clamps it, and where the view is panned to makes no difference
  have clamped := within_clampZoom ordered h.minZoom h.maxZoom
  cases change with
  | zoomAt anchor zoom => exact clamped zoom _
  | setZoom zoom => exact clamped zoom v.pan
  | setPan pan => exact ⟨h.minZoom, h.maxZoom, h.above, h.below⟩
  | reset => exact clamped 1 .origin

theorem Within.after (h : Within bounds v) (ordered : bounds.min ≤ bounds.max) (changes : List (Change Rat)) :
    Within bounds (v.after changes) := by
  induction changes generalizing v with
  | nil => exact h
  | cons change changes ih => exact ih (h.perform ordered change)

theorem Within.zoom_ne_zero (h : Within bounds v) (positive : 0 < bounds.min) : v.zoom ≠ 0 :=
  (lt_of_lt_of_le positive h.above).ne'

/-! ## Screen and canvas -/

theorem toScreen_toLogical (nonzero : v.zoom ≠ 0) (p : Point Rat) : v.toScreen (v.toLogical p) = p := by
  have axis (p pan : Rat) : (p - pan) * (1 / v.zoom) * v.zoom + pan = p := by
    field_simp
    ring
  exact Point.ext (axis p.x v.pan.x) (axis p.y v.pan.y)

theorem toLogical_toScreen (nonzero : v.zoom ≠ 0) (p : Point Rat) : v.toLogical (v.toScreen p) = p := by
  have axis (p pan : Rat) : (p * v.zoom + pan - pan) * (1 / v.zoom) = p := by
    field_simp
    ring
  exact Point.ext (axis p.x v.pan.x) (axis p.y v.pan.y)

/-- **Zooming at an anchor keeps the point under it**: the pan is measured with the zoom that was granted, not with the
one that was asked for. -/
theorem toLogical_zoomAt (nonzero : v.zoom ≠ 0) {zoom : Rat} (granted : v.clampZoom zoom ≠ 0) (anchor : Point Rat) :
    (v.zoomAt anchor zoom).toLogical anchor = v.toLogical anchor := by
  have axis (a pan : Rat) : (a - (a - (a - pan) * (v.clampZoom zoom / v.zoom))) * (1 / v.clampZoom zoom) =
      (a - pan) * (1 / v.zoom) := by
    field_simp
    ring
  exact Point.ext (axis anchor.x v.pan.x) (axis anchor.y v.pan.y)

/-- **Views stay usable.**  With bounds that are positive and in order, as settings without a fault have them, any
changes leave a zoom within the bounds, so nothing is ever divided by zero; screen and canvas map to each other and
back; and zooming at an anchor, to whatever zoom, takes on the nearest zoom within the bounds and keeps the point under
the anchor. -/
theorem views_stay_usable (positive : 0 < bounds.min) (ordered : bounds.min ≤ bounds.max)
    (changes : List (Change Rat)) (led : (ofBounds bounds).after changes = v) :
    (bounds.min ≤ v.zoom ∧ v.zoom ≤ bounds.max) ∧ v.zoom ≠ 0 ∧
    (∀ p, v.toScreen (v.toLogical p) = p) ∧ (∀ p, v.toLogical (v.toScreen p) = p) ∧
    (∀ anchor zoom, (v.zoomAt anchor zoom).zoom = min (max zoom bounds.min) bounds.max ∧
      (v.zoomAt anchor zoom).zoom ≠ 0 ∧ (v.zoomAt anchor zoom).toLogical anchor = v.toLogical anchor) ∧
    ∀ settings : Settings Rat, settings.fault? = none →
      0 < settings.zoom.min ∧ settings.zoom.min ≤ settings.zoom.max := by
  have within : Within bounds v := led ▸ (within_ofBounds ordered).after ordered changes
  have nonzero := within.zoom_ne_zero positive
  refine ⟨⟨within.above, within.below⟩, nonzero, toScreen_toLogical nonzero, toLogical_toScreen nonzero,
    fun anchor zoom => ?_, fun _ => Settings.zoomBounds_of_sound⟩
  have granted := (within.perform ordered (.zoomAt anchor zoom)).zoom_ne_zero positive
  exact ⟨clampZoom_eq within.minZoom within.maxZoom zoom, granted, toLogical_zoomAt nonzero granted anchor⟩

theorem views_stay_usable_beyond_bounds : ∃ v : Viewport Rat,
    (ofBounds ⟨1 / 4, 2, 1 / 10, 1 / 5⟩).after [.setPan ⟨30, -7⟩, .zoomAt ⟨10, 20⟩ 9, .setZoom (-1)] = v ∧
    v.zoom ≠ 0 ∧ (v.zoomAt ⟨5, 5⟩ 100).zoom = 2 ∧ (v.zoomAt ⟨5, 5⟩ 100).toLogical ⟨5, 5⟩ = v.toLogical ⟨5, 5⟩ := by
  obtain ⟨-, nonzero, -, -, zooming, -⟩ := @views_stay_usable ⟨1 / 4, 2, 1 / 10, 1 / 5⟩ _
    (by decide +kernel) (by decide +kernel) [.setPan ⟨30, -7⟩, .zoomAt ⟨10, 20⟩ 9, .setZoom (-1)] rfl
  obtain ⟨zoom, -, kept⟩ := zooming ⟨5, 5⟩ 100
  exact ⟨_, rfl, nonzero, zoom.trans (by decide +kernel), kept⟩

end Viewport

end Workflow
