import Mathlib.Algebra.Order.Field.Rat
import Mathlib.Data.Nat.Cast.Order.Ring
import Workflow.Proofs.Columns
/-!
# Nodes at one spot

The cells of a layout are apart, but a node goes to the nearest point of its cell that is not negative.  Settings
without a fault keep columns and rows apart; they do not say that the first of them is on the canvas.  So two nodes are
at one spot just when they are in one column or both of theirs are cut off, and in one row or both of theirs are
(`clamp_cell_eq_iff`).  Where no more than the first column and the first row are cut off, that makes them one node.

Rounding brings cells together that are far out, so this is stated over rational coordinates.
-/
namespace Workflow

/-! ## Coordinates that are cut off -/

namespace Scalar

theorem nonNegative_eq_max (x : Rat) : nonNegative x = max x 0 := by
  rw [nonNegative]
  rcases lt_or_ge 0 x with more | less
  · rw [if_pos more, max_eq_left more.le]
  · rw [if_neg (not_lt.2 less), max_eq_right less]

theorem nonNegative_eq_iff (x y : Rat) : nonNegative x = nonNegative y ↔ x = y ∨ x ≤ 0 ∧ y ≤ 0 := by
  rw [nonNegative_eq_max, nonNegative_eq_max]
  grind

end Scalar

theorem Settings.spacing_of_sound {s : Settings Rat} (sound : s.fault? = none) :
    0 < s.placement.levelWidth ∧ 0 < s.placement.nodePitch := by
  rw [fault?] at sound
  split_ifs at sound with bounds steps size spacing
  simp only [not_or, not_le] at spacing
  exact ⟨spacing.1, spacing.2.1⟩

namespace Layout

/-- Steps of a positive width lead to one coordinate, cut off below zero, if they are as many or both cut off. -/
theorem nonNegative_step_eq_iff {origin width : Rat} (positive : 0 < width) (i j : Nat) :
    Scalar.nonNegative (origin + i * width) = Scalar.nonNegative (origin + j * width) ↔
      i = j ∨ origin + i * width ≤ 0 ∧ origin + j * width ≤ 0 := by
  rw [Scalar.nonNegative_eq_iff, add_right_inj, mul_left_inj' positive.ne', Nat.cast_inj]

variable {p : PlacementSettings Rat}

theorem clamp_cell_eq_iff (wide : 0 < p.levelWidth) (tall : 0 < p.nodePitch) (level row level' row' : Nat) :
    (cell p level row).clamp = (cell p level' row').clamp ↔
      (level = level' ∨ (cell p level row).x ≤ 0 ∧ (cell p level' row').x ≤ 0) ∧
      (row = row' ∨ (cell p level row).y ≤ 0 ∧ (cell p level' row').y ≤ 0) := by
  rw [Point.ext_iff]
  exact and_congr (nonNegative_step_eq_iff wide level level') (nonNegative_step_eq_iff tall row row')

/-- Where one step is enough to be above zero, only the first coordinate can be cut off. -/
theorem eq_zero_of_step_nonpos {origin width : Rat} (positive : 0 < width) (second : 0 < origin + width) {i : Nat}
    (cut : origin + i * width ≤ 0) : i = 0 := by
  by_contra more
  have least : (1 : Rat) ≤ i := Nat.one_le_cast.2 (Nat.one_le_iff_ne_zero.2 more)
  have further : origin + width ≤ origin + i * width :=
    add_le_add_right (le_mul_of_one_le_left positive.le least) origin
  exact absurd second (not_lt.2 (further.trans cut))

/-- **Cells stay apart** if no more than the first column and the first row are cut off. -/
theorem eq_of_clamp_cell_eq (wide : 0 < p.levelWidth) (tall : 0 < p.nodePitch)
    (column : 0 < p.layoutOrigin.x + p.levelWidth) (line : 0 < p.layoutOrigin.y + p.nodePitch)
    {level row level' row' : Nat} (same : (cell p level row).clamp = (cell p level' row').clamp) :
    level = level' ∧ row = row' := by
  obtain ⟨across, down⟩ := (clamp_cell_eq_iff wide tall level row level' row').1 same
  refine ⟨across.elim id fun cut => ?_, down.elim id fun cut => ?_⟩
  · exact (eq_zero_of_step_nonpos wide column cut.1).trans (eq_zero_of_step_nonpos wide column cut.2).symm
  · exact (eq_zero_of_step_nonpos tall line cut.1).trans (eq_zero_of_step_nonpos tall line cut.2).symm

theorem eq_of_row_eq {levels : List (NodeId × Nat)} {m n : NodeId × Nat} (hm : m ∈ levels) (level : m.2 = n.2)
    (same : row levels m = row levels n) : m = n := by
  rw [row, row, level] at same
  exact (List.idxOf_inj (mem_column.2 ⟨hm, level⟩)).1 same

end Layout

namespace Graph

/-- **Two nodes are laid out at one spot only beyond the edges of the canvas.**  With settings without a fault, placed
nodes of different columns are at one spot only if both columns are cut off on the left, and nodes of different rows
only if both rows are cut off at the top.  So all nodes are at different spots if the second column and the second row
are on the canvas, as they are if the layout starts there. -/
theorem one_spot_beyond_edges (s : Settings Rat) (sound : s.fault? = none) (g : Graph Rat) (reached : g.Reachable)
    {start : NodeId} (noted : g.startId = some start) :
    let p := s.placement
    let levels := g.levels start
    let report := (Layout.arrange g p).1
    let corner (n : NodeId × Nat) := Layout.cell p n.2 (Layout.row levels n)
    (∀ m ∈ levels, ∀ n ∈ levels, report.positionOf m.1 = report.positionOf n.1 ↔
      (m.2 = n.2 ∨ (corner m).x ≤ 0 ∧ (corner n).x ≤ 0) ∧
      (Layout.row levels m = Layout.row levels n ∨ (corner m).y ≤ 0 ∧ (corner n).y ≤ 0)) ∧
    (0 < p.layoutOrigin.x + p.levelWidth → 0 < p.layoutOrigin.y + p.nodePitch →
      ∀ a ∈ report.placed, ∀ b ∈ report.placed, a.1 ≠ b.1 → a.2 ≠ b.2) := by
  intro p levels report corner
  have h := reached.sound
  have placed : report.placed = levels.map fun n => (n.1, (corner n).clamp) := h.placed_arrange noted p
  have position : ∀ n ∈ levels, report.positionOf n.1 = some (corner n).clamp := fun n hn => by
    rw [Layout.Report.positionOf, placed,
      Layout.lookup_map_of_mem (fun n => (corner n).clamp) (nodup_reachable (h.start_mem noted)) hn]
  obtain ⟨wide, tall⟩ := s.spacing_of_sound sound
  refine ⟨fun m hm n hn => ?_, fun column line a ha b hb differ same => ?_⟩
  · rw [position m hm, position n hn, Option.some.injEq]
    exact Layout.clamp_cell_eq_iff wide tall _ _ _ _
  · rw [placed] at ha hb
    obtain ⟨m, hm, rfl⟩ := List.mem_map.1 ha
    obtain ⟨n, hn, rfl⟩ := List.mem_map.1 hb
    obtain ⟨level, row⟩ := Layout.eq_of_clamp_cell_eq wide tall column line same
    exact differ (by rw [Layout.eq_of_row_eq hm level row])

theorem one_spot_beyond_edges_not_by_standard : ∃ g : Graph Rat, g.Reachable ∧ g.startId = some (.numbered 1) ∧
    (g.levels (.numbered 1)).length = 3 ∧
    let report := (Layout.arrange g (Settings.standard : Settings Rat).placement).1
    ∀ a ∈ report.placed, ∀ b ∈ report.placed, a.1 ≠ b.1 → a.2 ≠ b.2 := by
  let g : Graph Rat := (withStart ⟨∅⟩ ⟨5, 7⟩).after [.createNode (.action "click") ⟨1, 2⟩,
    .createNode (.action "wait") ⟨3, 4⟩, .createEdge (.numbered 1) (.numbered 2) .success,
    .createEdge (.numbered 1) (.numbered 3) .error]
  have reached : g.Reachable := (Reachable.withStart ⟨∅⟩ ⟨5, 7⟩).after _
  have noted : g.startId = some (.numbered 1) := by decide +kernel
  exact ⟨g, reached, noted, by decide +kernel, (one_spot_beyond_edges .standard (by decide +kernel) g reached noted).2
    (by decide +kernel) (by decide +kernel)⟩

/-- **Settings without a fault can lay out a node upon another**, with an origin far enough to the left. -/
theorem one_spot_for_two_nodes : ∃ (s : Settings Rat) (g : Graph Rat), s.fault? = none ∧ g.Reachable ∧
    g.startId = some (.numbered 1) ∧
    (Layout.arrange g s.placement).1.placed = [(.numbered 1, ⟨0, 0⟩), (.numbered 2, ⟨0, 0⟩)] := by
  let s : Settings Rat := { Settings.standard with
    placement := { PlacementSettings.standard with layoutOrigin := ⟨-1000, 0⟩ } }
  let g : Graph Rat := (withStart ⟨∅⟩ ⟨100, 100⟩).after [.createNode (.action "click") ⟨300, 100⟩,
    .createEdge (.numbered 1) (.numbered 2) .success]
  exact ⟨s, g, by decide +kernel, (Reachable.withStart ..).after _, by decide +kernel, by decide +kernel⟩

end Graph

end Workflow
