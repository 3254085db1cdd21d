import Workflow.Exchange.Import
import Workflow.Proofs.Changes
/-!
# Runs of a store

A `Request` is a change of a store with its arguments; `Graph.perform` carries it out or refuses it.  `Reachable` is
every store that requests lead to from an empty one or from a lone start node.  An import asks a store for nothing but
such changes, so it keeps what every request keeps (`import_induction`): imported graphs are reachable too, and what
holds of every reachable store holds of them.
-/
namespace Workflow

open Json (Object Value)

/-! ## Numbers of identifiers -/

theorem NodeId.readDigits_le {digits : List Char} {n : Nat} (read : readDigits digits = some n) :
    n ≤ maxNumber := by
  rw [readDigits] at read
  split at read
  · next valid =>
    rw [← Option.some.inj read]
    exact valid.2.2
  · cases read

theorem NodeId.number?_le {id : NodeId} {n : Nat} (numbered : id.number? = some n) : n ≤ maxNumber := by
  rw [number?] at numbered
  split at numbered
  · cases numbered
  · exact readDigits_le numbered
  · exact readDigits_le numbered

/-! ## Requests -/

namespace Graph

variable {α : Type}

inductive Request (α : Type) where
  | createNode (kind : Kind) (position : Point α)
  | restoreNode (id : NodeId) (kind : Kind) (position : Point α) (data : Object)
  | deleteNode (id : NodeId)
  | moveNode (id : NodeId) (position : Point α)
  | updateField (id : NodeId) (name : String) (v : Value)
  | replaceData (id : NodeId) (data : Object)
  | createEdge (source target : NodeId) (outcome : Outcome)
  | deleteEdge (e : Edge)
  | clear
  | arrange (placement : PlacementSettings α)

inductive Answer (α : Type) where
  | done
  | node (id : NodeId)
  | removed (r : Removed α)
  | position (p : Point α)
  | previous (v : Option Value)
  | data (o : Object)
  | edge (e : Edge)
  | layout (r : Layout.Report α)

/-- A change with its answer in the common terms of all requests. -/
def Answer.of {β : Type} (answer : β → Answer α) (c : Change α β) : Change α (Answer α) := (c.1.map answer, c.2)

variable [Scalar α]

def perform (g : Graph α) : Request α → Change α (Answer α)
  | .createNode kind position => Answer.of .node (g.createNode kind position)
  | .restoreNode id kind position data => Answer.of (fun _ => .done) (g.restoreNode id kind position data)
  | .deleteNode id => Answer.of .removed (g.deleteNode id)
  | .moveNode id position => Answer.of .position (g.moveNode id position)
  | .updateField id name v => Answer.of .previous (g.updateField id name v)
  | .replaceData id data => Answer.of .data (g.replaceData id data)
  | .createEdge source target outcome => Answer.of .edge (g.createEdge source target outcome)
  | .deleteEdge e => Answer.of (fun _ => .done) (g.deleteEdge e)
  | .clear => (.ok .done, g.clear)
  | .arrange placement => (.ok (.layout (Layout.arrange g placement).1), (Layout.arrange g placement).2)

/-- The stores that requests, granted or refused, lead to. -/
inductive Reachable : Graph α → Prop
  | empty (palette : Palette) : Reachable (.empty palette)
  | withStart (palette : Palette) (position : Point α) : Reachable (.withStart palette position)
  | perform {g : Graph α} (r : Request α) : Reachable g → Reachable (g.perform r).2

/-- One request keeps a store sound. -/
theorem Sound.perform {g : Graph α} (h : g.Sound) (r : Request α) : (g.perform r).2.Sound := by
  cases r with
  | createNode kind position => exact h.createNode kind position
  | restoreNode id kind position data => exact h.restoreNode id kind position data
  | deleteNode id => exact h.deleteNode id
  | moveNode id position => exact h.moveNode id position
  | updateField id name v => exact h.updateField id name v
  | replaceData id data => exact h.replaceData id data
  | createEdge source target outcome => exact h.createEdge source target outcome
  | deleteEdge e => exact h.deleteEdge e
  | clear => exact h.clear
  | arrange placement => exact h.arrange placement

/-- **Every reachable store is sound.** -/
theorem Reachable.sound {g : Graph α} (reached : g.Reachable) : g.Sound := by
  induction reached with
  | empty palette => exact sound_empty palette
  | withStart palette position => exact sound_withStart palette position
  | perform r _ ih => exact ih.perform r

/-- The store that some requests lead to, one after the other, granted or refused. -/
def after (g : Graph α) (requests : List (Request α)) : Graph α := requests.foldl (fun g r => (g.perform r).2) g

theorem after_append (g : Graph α) (before rest : List (Request α)) :
    g.after (before ++ rest) = (g.after before).after rest := by
  rw [after, List.foldl_append, ← after, ← after]

theorem Reachable.after {g : Graph α} (reached : g.Reachable) (requests : List (Request α)) :
    (g.after requests).Reachable := by
  induction requests generalizing g with
  | nil => exact reached
  | cons r requests ih => exact ih (reached.perform r)

/-! ## The start node of a sound store -/

theorem Sound.startId_eq_some_iff {g : Graph α} (h : g.Sound) (id : NodeId) :
    g.startId = some id ↔ (∃ n, g.node? id = some n ∧ n.isStart = true) ∧
      ∀ other n, g.node? other = some n → n.isStart = true → other = id := by
  constructor
  · intro noted
    refine ⟨(h.startId_iff id).1 noted, fun other n hn start => ?_⟩
    have also := (h.startId_iff other).2 ⟨n, hn, start⟩
    exact Option.some.inj (also.symm.trans noted)
  · exact fun only => (h.startId_iff id).2 only.1

theorem Sound.startId_eq_none_iff {g : Graph α} (h : g.Sound) :
    g.startId = none ↔ ∀ id n, g.node? id = some n → n.isStart = false := by
  constructor
  · intro unset id n hn
    cases start : n.isStart with
    | false => rfl
    | true =>
      have noted := (h.startId_iff id).2 ⟨n, hn, start⟩
      rw [unset] at noted
      cases noted
  · intro others
    cases noted : g.startId with
    | none => rfl
    | some id =>
      obtain ⟨n, hn, start⟩ := (h.startId_iff id).1 noted
      rw [others id n hn] at start
      cases start

/-! ## The counter -/

/-- **Numbers stay within their bound.** -/
theorem Reachable.counter_le {g : Graph α} (reached : g.Reachable) : g.counter ≤ NodeId.maxNumber := by
  induction reached with
  | empty palette => exact Nat.zero_le _
  | withStart palette position =>
    show 1 ≤ NodeId.maxNumber
    decide
  | @perform g r _ ih =>
    cases r with
    | createNode kind position =>
      show (g.createNode kind position).2.counter ≤ _
      rcases g.createNode_cases kind position with ⟨r, -, e⟩ | ⟨-, e⟩ | ⟨n, -, -, bound, -, e⟩ <;> rw [e]
      · exact ih
      · exact Nat.max_le.2 ⟨ih, Nat.le_refl _⟩
      · exact bound
    | restoreNode id kind position data =>
      show (g.restoreNode id kind position data).2.counter ≤ _
      rcases g.restoreNode_cases id kind position data with ⟨r, e⟩ | ⟨-, -, e⟩ <;> rw [e]
      · exact ih
      · refine Nat.max_le.2 ⟨ih, ?_⟩
        cases numbered : id.number? with
        | none => exact Nat.zero_le _
        | some n => exact NodeId.number?_le numbered
    | deleteNode id => exact Nat.le_trans (Nat.le_of_eq (g.counter_deleteNode id)) ih
    | moveNode id position => exact Nat.le_trans (Nat.le_of_eq (g.moveNode_amends id position).counter) ih
    | updateField id name v => exact Nat.le_trans (Nat.le_of_eq (g.updateField_amends id name v).counter) ih
    | replaceData id data => exact Nat.le_trans (Nat.le_of_eq (g.replaceData_amends id data).counter) ih
    | createEdge source target outcome =>
      show (g.createEdge source target outcome).2.counter ≤ _
      rcases g.createEdge_cases source target outcome with ⟨r, e⟩ | ⟨-, -, -, -, -, e⟩ <;> rw [e] <;> exact ih
    | deleteEdge e => exact Nat.le_trans (Nat.le_of_eq (g.counter_deleteEdge e)) ih
    | clear => exact Nat.zero_le _
    | arrange placement =>
      exact arrange_induction (P := fun next => next.counter ≤ NodeId.maxNumber)
        (fun next id position h => Nat.le_trans (Nat.le_of_eq (next.moveNode_amends id position).counter) h)
        placement ih

end Graph

/-! ## Imports are runs -/

namespace Import

open Workflow.Graph (Reachable Request)

section

variable {P : Graph Float → Prop} (kept : ∀ (g : Graph Float) (r : Request Float), P g → P (g.perform r).2)

include kept

theorem node_induction {p : Progress} (entry : Value × Nat) (h : P p.graph) : P (node p entry).graph := by
  rw [node]
  split
  · exact h
  · next r _ =>
    have next := kept p.graph (.restoreNode r.id r.kind r.position r.data) h
    split
    · next e => rwa [Graph.perform, e] at next
    · next e => rwa [Graph.perform, e] at next

theorem connection_induction {p : Progress} (entry : Value × Nat) (h : P p.graph) :
    P (connection p entry).graph := by
  rw [connection]
  split
  · exact h
  · next r _ =>
    have next := kept p.graph (.createEdge r.source r.target r.outcome) h
    split
    · next e => rwa [Graph.perform, e] at next
    · next e => rwa [Graph.perform, e] at next

theorem visual_induction {palette : Palette} (empty : P (.empty palette)) (document : Value) :
    P (visual palette document).graph := by
  refine List.foldlRecOn (motive := fun p => P p.graph) _ connection ?_
    fun _ h entry _ => connection_induction kept entry h
  exact List.foldlRecOn (motive := fun p => P p.graph) _ node (b := ⟨.empty palette, []⟩) empty
    fun _ h entry _ => node_induction kept entry h

theorem link_induction {p : Progress} (last : Option NodeId) (id : NodeId) (index : Nat) (h : P p.graph) :
    P (link p last id index).graph := by
  cases last with
  | none => exact h
  | some source =>
    have next := kept p.graph (.createEdge source id .success) h
    rw [link]
    split
    · next e => rwa [Graph.perform, e] at next
    · next e => rwa [Graph.perform, e] at next

theorem extend_induction (placement : PlacementSettings Float) {c : Chain} (step : List (String × Value)) (kind : Kind)
    (index : Nat) (h : P c.progress.graph) : P (extend placement c step kind index).progress.graph := by
  rw [extend]
  have next := kept c.progress.graph (.createNode kind ⟨placement.stepColumnX, c.y⟩) h
  split
  · next e => rwa [Graph.perform, e] at next
  · next id g e =>
    rw [Graph.perform, e] at next
    have told := kept g (.replaceData id (stepData step (g.palette.defaultData kind))) next
    exact link_induction kept c.last id index told

theorem step_induction (placement : PlacementSettings Float) {c : Chain} (entry : Value × Nat)
    (h : P c.progress.graph) : P (step placement c entry).progress.graph := by
  rw [step]
  split
  · split
    · exact h
    · split
      · exact h
      · exact extend_induction kept placement _ _ _ h
  · exact h

theorem steps_induction {palette : Palette} {placement : PlacementSettings Float}
    (withStart : P (.withStart palette placement.startPosition)) (list : List Value) :
    P (steps palette placement list).graph := by
  let start := Graph.withStart palette placement.startPosition
  exact List.foldlRecOn (motive := fun c => P c.progress.graph) _ (step placement)
    (b := ⟨⟨start, []⟩, start.startId, placement.firstStepY⟩) withStart
    fun _ h entry _ => step_induction kept placement entry h

/-- **What every request keeps, an import keeps**: it asks a store for nothing but such changes. -/
theorem import_induction {palette : Palette} {placement : PlacementSettings Float} (empty : P (.empty palette))
    (withStart : P (.withStart palette placement.startPosition)) {v : Value} {i : Imported}
    (imported : ofValue palette placement v = .ok i) : P i.graph := by
  cases v with
  | array list =>
    cases imported
    exact steps_induction kept withStart list
  | object members =>
    rw [ofValue] at imported
    split at imported
    · cases imported
      exact visual_induction kept empty _
    · cases imported
  | null => cases imported
  | bool b => cases imported
  | number n => cases imported
  | string s => cases imported

end

/-- A text that is imported holds a value that is imported. -/
theorem exists_ofValue {palette : Palette} {placement : PlacementSettings Float} {text : String} {i : Imported}
    (imported : ofText palette placement text = .ok i) : ∃ v, ofValue palette placement v = .ok i := by
  rw [ofText] at imported
  cases value : (Value.ofText text).mapError ImportError.unreadable with
  | error e =>
    rw [value] at imported
    cases imported
  | ok v =>
    rw [value] at imported
    exact ⟨v, imported⟩

/-- **An imported graph is reachable**, whatever was imported and whatever was left out. -/
theorem reachable_of_import {palette : Palette} {placement : PlacementSettings Float} {v : Value} {i : Imported}
    (imported : ofValue palette placement v = .ok i) : i.graph.Reachable :=
  import_induction (fun _ r h => h.perform r) (.empty palette) (.withStart palette _) imported

theorem reachable_of_text {palette : Palette} {placement : PlacementSettings Float} {text : String} {i : Imported}
    (imported : ofText palette placement text = .ok i) : i.graph.Reachable := by
  obtain ⟨v, value⟩ := exists_ofValue imported
  exact reachable_of_import value

end Import

/-- **A store is sound after every request and after every import**, and its start node is noted exactly: it is the one
and only node of that kind. -/
theorem Graph.sound_of_run_or_import (g : Graph Float)
    (origin : g.Reachable ∨ ∃ palette placement v i, Import.ofValue palette placement v = .ok i ∧ i.graph = g) :
    g.Sound ∧
    (∀ id, g.startId = some id ↔ (∃ n, g.node? id = some n ∧ n.isStart = true) ∧
      ∀ other n, g.node? other = some n → n.isStart = true → other = id) ∧
    (g.startId = none ↔ ∀ id n, g.node? id = some n → n.isStart = false) := by
  have reached : g.Reachable := by
    rcases origin with run | ⟨palette, placement, v, i, imported, rfl⟩
    · exact run
    · exact Import.reachable_of_import imported
  exact ⟨reached.sound, reached.sound.startId_eq_some_iff, reached.sound.startId_eq_none_iff⟩

theorem Graph.sound_after_closing_edge_and_import :
    ((Graph.withStart ⟨∅⟩ ⟨5, -5⟩ : Graph Float).after [.createNode (.action "click") ⟨-1, 3⟩,
      .createEdge (.numbered 1) (.numbered 2) .success, .createEdge (.numbered 2) (.numbered 1) .error]).Sound ∧
    (Import.steps ⟨∅⟩ .standard [.object [("type", .string "click")], .null]).graph.Sound :=
  ⟨(Graph.sound_of_run_or_import _ (.inl ((Graph.Reachable.withStart ⟨∅⟩ ⟨5, -5⟩).after _))).1,
    (Graph.sound_of_run_or_import _ (.inr ⟨⟨∅⟩, .standard, .array [.object [("type", .string "click")], .null], _,
      rfl, rfl⟩)).1⟩

end Workflow
