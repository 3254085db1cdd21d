import Mathlib.Data.List.Basic
import Workflow.Proofs.Runs
/-!
# Fresh numbers

The counter of a store is at least the number of every identifier in it, however that number is spelled
(`Graph.Numbered`).  So the next identifier is never taken and the search for it ends where it begins.  Without a
`clear` the counter never falls, which is why a fresh identifier is none that was there before, deleted since or not.
-/
namespace Workflow

open Json (Object Value)

/-! ## Reading numbers back -/

namespace NodeId

theorem digitsValue_toDigits (n : Nat) : digitsValue (Nat.toDigits 10 n) = n := by
  have back : Nat.ofDigitChars 10 (Nat.toDigits 10 n) 0 = n := Nat.ofDigitChars_ten_toDigits
  rw [Nat.ofDigitChars_eq_foldl] at back
  simpa only [digitsValue, Nat.mul_comm] using back

theorem isDigit_of_mem_toDigits {n : Nat} {c : Char} (digit : c ∈ Nat.toDigits 10 n) : c.isDigit = true :=
  Nat.isDigit_of_mem_toDigits (by omega) (by omega) digit

theorem readDigits_toDigits {n : Nat} (bound : n ≤ maxNumber) : readDigits (Nat.toDigits 10 n) = some n := by
  have digits : (Nat.toDigits 10 n).all Char.isDigit = true :=
    List.all_eq_true.2 fun c digit => isDigit_of_mem_toDigits digit
  rw [readDigits, digitsValue_toDigits, if_pos ⟨Nat.toDigits_ne_nil, digits, bound⟩]

/-- **The number of a numbered identifier is read back.** -/
theorem number?_numbered {n : Nat} (bound : n ≤ maxNumber) : (numbered n).number? = some n := by
  have split : stem.toList.isPrefixOf? (numbered n).text.toList = some (Nat.toDigits 10 n) := by
    rw [List.isPrefixOf?_eq_some_iff_append_eq]
    simp [numbered, Nat.toString_eq_repr]
  rw [number?, split]
  split
  · next none => cases none
  · next digits plus =>
    -- no number is written with a sign
    have sign : '+' ∈ Nat.toDigits 10 n := by
      rw [Option.some.inj plus]
      exact List.mem_cons_self
    have digit : '+'.isDigit = true := isDigit_of_mem_toDigits sign
    exact absurd digit (by decide)
  · next digits _ same =>
    rw [← Option.some.inj same]
    exact readDigits_toDigits bound

theorem numbered_inj {m n : Nat} (hm : m ≤ maxNumber) (hn : n ≤ maxNumber) : numbered m = numbered n ↔ m = n := by
  refine ⟨fun same => ?_, congrArg numbered⟩
  have read : (numbered m).number? = some m := number?_numbered hm
  rw [same, number?_numbered hn] at read
  exact (Option.some.inj read).symm

example : (NodeId.mk "node_007").number? = some 7 ∧ (NodeId.mk "node_+7").number? = some 7 := by decide +kernel

end NodeId

namespace Graph

variable {α : Type}

/-! ## The counter and the numbers below it -/

/-- No identifier in a store has a number above the counter. -/
def Numbered (g : Graph α) : Prop := ∀ id ∈ g.nodes, ∀ n, id.number? = some n → n ≤ g.counter

/-- Numbering goes on: the counter does not fall, and it covers the identifiers that are new. -/
structure Continues (g g' : Graph α) : Prop where
  counter : g.counter ≤ g'.counter
  new : ∀ id ∈ g'.nodes, id ∈ g.nodes ∨ ∀ n, id.number? = some n → n ≤ g'.counter

theorem Continues.refl (g : Graph α) : g.Continues g := ⟨Nat.le_refl _, fun _ h => .inl h⟩

theorem Continues.trans {g g' g'' : Graph α} (h : g.Continues g') (h' : g'.Continues g'') : g.Continues g'' where
  counter := Nat.le_trans h.counter h'.counter
  new id present := by
    rcases h'.new id present with before | covered
    · refine (h.new id before).imp_right fun covered n numbered => ?_
      have := covered n numbered
      have := h'.counter
      omega
    · exact .inr covered

theorem Numbered.continues {g g' : Graph α} (h : g.Numbered) (on : g.Continues g') : g'.Numbered := by
  intro id present n numbered
  rcases on.new id present with before | covered
  · have := h id before n numbered
    have := on.counter
    omega
  · exact covered n numbered

theorem numbered_empty (palette : Palette) : (empty palette : Graph α).Numbered := by
  intro id present
  simp [empty] at present

/-- A store that lost nodes at most. -/
theorem continues_of_subset {g g' : Graph α} (counter : g'.counter = g.counter)
    (nodes : ∀ id ∈ g'.nodes, id ∈ g.nodes) : g.Continues g' :=
  ⟨Nat.le_of_eq counter.symm, fun id present => .inl (nodes id present)⟩

/-- A node is placed under an identifier that the counter, moved up to it, covers. -/
theorem continues_place (g : Graph α) (n : Node α) {counter : Nat} (above : g.counter ≤ counter)
    (covered : ∀ m, n.id.number? = some m → m ≤ counter) : g.Continues ({ g with counter }.place n) where
  counter := above
  new id present := by
    rcases (mem_insert_node g.nodes n.id id n).1 present with rfl | before
    · exact .inr covered
    · exact .inl before

theorem Amends.continues {β : Type} {g : Graph α} {id : NodeId} {next : Node α → Node α} {c : Change α β}
    (amends : g.Amends id next c) : g.Continues c.2 := by
  refine continues_of_subset amends.counter fun k present => ?_
  obtain ⟨n, found⟩ := (c.2.mem_nodes_iff k).1 present
  rw [amends.node?] at found
  rw [mem_nodes_iff]
  split at found
  · obtain ⟨before, there, -⟩ := Option.map_eq_some_iff.1 found
    exact ⟨before, there⟩
  · exact ⟨n, found⟩

theorem continues_createEdge (g : Graph α) (source target : NodeId) (outcome : Outcome) :
    g.Continues (g.createEdge source target outcome).2 := by
  rcases g.createEdge_cases source target outcome with ⟨r, e⟩ | ⟨-, -, -, -, -, e⟩ <;> rw [e]
  · exact .refl g
  · exact continues_of_subset rfl fun _ h => h

theorem continues_deleteEdge (g : Graph α) (e : Edge) : g.Continues (g.deleteEdge e).2 := by
  rcases g.deleteEdge_cases e with ⟨r, e'⟩ | ⟨-, e'⟩ <;> rw [e']
  · exact .refl g
  · exact continues_of_subset rfl fun _ h => h

theorem continues_deleteNode (g : Graph α) (id : NodeId) : g.Continues (g.deleteNode id).2 := by
  refine continues_of_subset (g.counter_deleteNode id) fun k present => ?_
  obtain ⟨n, found⟩ := (mem_nodes_iff _ k).1 present
  rw [mem_nodes_iff]
  rcases g.deleteNode_cases id with ⟨r, e⟩ | ⟨gone, -, -, e⟩ <;> rw [e] at found
  · exact ⟨n, found⟩
  · rw [node?, getElem?_erase_node] at found
    split at found
    · cases found
    · exact ⟨n, (node?_cut _ g k).symm.trans found⟩

section Requests

variable [Scalar α]

theorem continues_createNode (g : Graph α) (kind : Kind) (position : Point α) :
    g.Continues (g.createNode kind position).2 := by
  rcases g.createNode_cases kind position with ⟨r, -, e⟩ | ⟨-, e⟩ | ⟨n, -, above, bound, -, e⟩ <;> rw [e]
  · exact .refl g
  · exact ⟨Nat.le_max_left _ _, fun _ h => .inl h⟩
  · refine g.continues_place _ (Nat.le_of_lt above) fun m numbered => ?_
    rw [NodeId.number?_numbered bound] at numbered
    exact Nat.le_of_eq (Option.some.inj numbered).symm

theorem continues_restoreNode (g : Graph α) (id : NodeId) (kind : Kind) (position : Point α) (data : Object) :
    g.Continues (g.restoreNode id kind position data).2 := by
  rcases g.restoreNode_cases id kind position data with ⟨r, e⟩ | ⟨-, -, e⟩ <;> rw [e]
  · exact .refl g
  · refine g.continues_place _ (Nat.le_max_left _ _) fun m numbered => ?_
    have same : id.number? = some m := numbered
    rw [same]
    exact Nat.le_max_right _ _

theorem continues_arrange (g : Graph α) (placement : PlacementSettings α) :
    g.Continues (Layout.arrange g placement).2 :=
  arrange_induction (fun next id position h => h.trans (next.moveNode_amends id position).continues) placement (.refl g)

/-- **Numbering goes on with every request but `clear`.** -/
theorem continues_perform (g : Graph α) {r : Request α} (kept : r ≠ .clear) : g.Continues (g.perform r).2 := by
  cases r with
  | createNode kind position => exact g.continues_createNode kind position
  | restoreNode id kind position data => exact g.continues_restoreNode id kind position data
  | deleteNode id => exact g.continues_deleteNode id
  | moveNode id position => exact (g.moveNode_amends id position).continues
  | updateField id name v => exact (g.updateField_amends id name v).continues
  | replaceData id data => exact (g.replaceData_amends id data).continues
  | createEdge source target outcome => exact g.continues_createEdge source target outcome
  | deleteEdge e => exact g.continues_deleteEdge e
  | clear => exact absurd rfl kept
  | arrange placement => exact g.continues_arrange placement

theorem Reachable.numbered {g : Graph α} (reached : g.Reachable) : g.Numbered := by
  induction reached with
  | empty palette => exact numbered_empty palette
  | withStart palette position =>
    refine (numbered_empty palette).continues (continues_place _ _ (Nat.zero_le 1) fun m numbered => ?_)
    have one : (NodeId.numbered 1).number? = some 1 := NodeId.number?_numbered (by decide)
    have same : (NodeId.numbered 1).number? = some m := numbered
    rw [one] at same
    exact Nat.le_of_eq (Option.some.inj same).symm
  | @perform g r _ ih =>
    by_cases cleared : r = .clear
    · subst cleared
      exact numbered_empty g.palette
    · exact ih.continues (g.continues_perform cleared)

end Requests

/-! ## The next identifier -/

theorem Numbered.not_mem {g : Graph α} (h : g.Numbered) {n : Nat} (above : g.counter < n)
    (bound : n ≤ NodeId.maxNumber) : NodeId.numbered n ∉ g.nodes := by
  intro taken
  have := h (.numbered n) taken n (NodeId.number?_numbered bound)
  omega

/-- **The first identifier that is tried is free.** -/
theorem Numbered.nextId_eq {g : Graph α} (h : g.Numbered) (below : g.counter < NodeId.maxNumber) :
    nextId g.nodes g.counter = (.ok (.numbered (g.counter + 1)), g.counter + 1) := by
  have free : g.nodes.contains (NodeId.numbered (g.counter + 1)) = false :=
    eq_false_of_ne_true (h.not_mem (Nat.lt_succ_self g.counter) below)
  rw [nextId, dif_pos below]
  simp [free]

theorem nextId_full (nodes : Std.ExtTreeMap NodeId (Node α)) {counter : Nat} (full : counter = NodeId.maxNumber) :
    nextId nodes counter = (.error .idsExhausted, counter) := by
  rw [nextId, dif_neg (by omega)]

theorem startConflict_eq_none {g : Graph α} {kind : Kind} (admissible : kind.isStart = true → g.startId = none) :
    g.startConflict kind = none := by
  rw [startConflict]
  split
  · next start => rw [admissible start, Option.map_none]
  · rfl

variable [Scalar α]

theorem Numbered.createNode_eq {g : Graph α} (h : g.Numbered) {kind : Kind}
    (admissible : kind.isStart = true → g.startId = none) (below : g.counter < NodeId.maxNumber) (position : Point α) :
    g.createNode kind position = (.ok (.numbered (g.counter + 1)), { g with counter := g.counter + 1 }.place
      ⟨.numbered (g.counter + 1), kind, position.clamp, g.palette.defaultData kind⟩) := by
  simp only [createNode, startConflict_eq_none admissible, allocate, h.nextId_eq below]

theorem createNode_full {g : Graph α} {kind : Kind} (admissible : kind.isStart = true → g.startId = none)
    (full : g.counter = NodeId.maxNumber) (position : Point α) :
    g.createNode kind position = (.error .idsExhausted, g) := by
  simp only [createNode, startConflict_eq_none admissible, allocate, nextId_full g.nodes full]

/-! ## Runs -/

theorem continues_after (g : Graph α) {requests : List (Request α)} (kept : ∀ r ∈ requests, r ≠ .clear) :
    g.Continues (g.after requests) := by
  induction requests generalizing g with
  | nil => exact .refl g
  | cons r requests ih =>
    have first := g.continues_perform (kept r List.mem_cons_self)
    exact first.trans (ih _ fun next hn => kept next (List.mem_cons_of_mem r hn))

/-- A fresh identifier is above all numbers that came before it. -/
theorem not_mem_of_createNode {g g' : Graph α} (h : g.Numbered) (on : g.Continues g') {kind : Kind}
    {position : Point α} {id : NodeId} (created : (g'.createNode kind position).1 = .ok id) : id ∉ g.nodes := by
  rcases g'.createNode_cases kind position with ⟨r, -, e⟩ | ⟨-, e⟩ | ⟨n, -, above, bound, -, e⟩ <;> rw [e] at created
  · cases created
  · cases created
  · rw [← Except.ok.inj created]
    have := on.counter
    exact h.not_mem (by omega) bound

/-- **Fresh identifiers are never used again.**  After any run from a reachable or an imported store, an identifier that
is created is none that the store held since the last `clear`, deleted since or not.  The counter covers the numbers of
all identifiers, so the next number is free at the first try; only at the last number are identifiers exhausted.  It
never passes that number, and never falls but by a `clear`. -/
theorem fresh_ids_never_reused (g : Graph Float)
    (origin : g.Reachable ∨ ∃ palette placement v i, Import.ofValue palette placement v = .ok i ∧ i.graph = g)
    (requests : List (Request Float)) :
    (∀ later : List (Request Float), (∀ r ∈ later, r ≠ .clear) → ∀ kind position id,
      ((g.after (requests ++ later)).createNode kind position).1 = .ok id → id ∉ (g.after requests).nodes) ∧
    (∀ id ∈ (g.after requests).nodes, ∀ n, id.number? = some n → n ≤ (g.after requests).counter) ∧
    (∀ kind position, (kind.isStart = true → (g.after requests).startId = none) →
      ((g.after requests).counter < NodeId.maxNumber →
        NodeId.numbered ((g.after requests).counter + 1) ∉ (g.after requests).nodes ∧
        ((g.after requests).createNode kind position).1 = .ok (.numbered ((g.after requests).counter + 1)) ∧
        ((g.after requests).createNode kind position).2.counter = (g.after requests).counter + 1) ∧
      (((g.after requests).createNode kind position).1 = .error .idsExhausted ↔
        (g.after requests).counter = NodeId.maxNumber)) ∧
    (g.after requests).counter ≤ NodeId.maxNumber ∧
    ∀ r, r ≠ .clear → (g.after requests).counter ≤ ((g.after requests).perform r).2.counter := by
  have reached : (g.after requests).Reachable := by
    rcases origin with run | ⟨palette, placement, v, i, imported, rfl⟩
    · exact run.after requests
    · exact (Import.reachable_of_import imported).after requests
  refine ⟨fun later kept kind position id created => ?_, reached.numbered, fun kind position admissible => ?_,
    reached.counter_le, fun r kept => ((g.after requests).continues_perform kept).counter⟩
  · rw [after_append] at created
    exact not_mem_of_createNode reached.numbered (continues_after _ kept) created
  · refine ⟨fun below => ?_, fun exhausted => ?_, fun full => ?_⟩
    · have created := reached.numbered.createNode_eq admissible below position
      rw [created]
      exact ⟨reached.numbered.not_mem (Nat.lt_succ_self _) below, rfl, rfl⟩
    · rcases Nat.lt_or_eq_of_le reached.counter_le with below | full
      · rw [reached.numbered.createNode_eq admissible below position] at exhausted
        cases exhausted
      · exact full
    · rw [createNode_full admissible full position]

theorem fresh_id_after_restoring_and_deleting :
    (((withStart ⟨∅⟩ ⟨0, 0⟩ : Graph Float).after ([.restoreNode ⟨"node_007"⟩ (.action "click") ⟨1, 2⟩ .empty,
      .restoreNode ⟨"node_+9"⟩ (.action "wait") ⟨3, 4⟩ .empty] ++
      [.deleteNode ⟨"node_+9"⟩])).createNode (.action "click") ⟨5, 6⟩).1 = .ok (.numbered 10) ∧
    .numbered 10 ∉ ((withStart ⟨∅⟩ ⟨0, 0⟩ : Graph Float).after
      [.restoreNode ⟨"node_007"⟩ (.action "click") ⟨1, 2⟩ .empty,
        .restoreNode ⟨"node_+9"⟩ (.action "wait") ⟨3, 4⟩ .empty]).nodes := by
  have created : (((withStart ⟨∅⟩ ⟨0, 0⟩ : Graph Float).after
      ([.restoreNode ⟨"node_007"⟩ (.action "click") ⟨1, 2⟩ .empty,
        .restoreNode ⟨"node_+9"⟩ (.action "wait") ⟨3, 4⟩ .empty] ++
        [.deleteNode ⟨"node_+9"⟩])).createNode (.action "click") ⟨5, 6⟩).1 = .ok (.numbered 10) := by
    decide +kernel
  refine ⟨created, (fresh_ids_never_reused _ (.inl (.withStart ⟨∅⟩ ⟨0, 0⟩)) _).1 _ (fun r hr => ?_) _ _ _ created⟩
  rw [List.mem_singleton.1 hr]
  exact nofun

end Graph

end Workflow
