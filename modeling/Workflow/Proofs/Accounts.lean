import Mathlib.Data.List.Induction
import Workflow.Proofs.Grants
/-!
# Every record accounted for

What becomes of a record depends on the records rebuilt before it and on nothing else.  `Sifted` says so of a list of
items: those are kept, in order, that are read and that fit the ones kept before them.  An import keeps what its store
grants and skips the places that are left over, each once (`Tolerant.exists_sifted`).
-/
namespace Workflow

open Json (ReadError Value)
open Workflow.Graph (Request)

def NodeRecord.node (r : NodeRecord) : Node Float := ⟨r.id, r.kind, r.position, r.data⟩

def Skipped.entry (s : Skipped) : RecordKind × Nat := (s.record, s.index)

theorem Graph.Sound.nodeCount_eq {α : Type} [Scalar α] {g : Graph α} (h : g.Sound) :
    g.nodeCount = g.nodeList.length := by
  have keys : g.nodes.keys.Perm g.order := by
    refine (List.perm_ext_iff_of_nodup Std.ExtTreeMap.nodup_keys h.order_nodup).2 fun id => ?_
    rw [Std.ExtTreeMap.mem_keys, h.mem_order]
  rw [Graph.nodeCount, ← Std.ExtTreeMap.length_keys, keys.length_eq, ← h.map_id_nodeList, List.length_map]

namespace Import

/-! ## Keeping records in order -/

section

variable {ρ : Type}

/-- The records that come before a place. -/
def before (place : Nat) (kept : List (ρ × Nat)) : List ρ := (kept.filter (·.2 < place)).map (·.1)

/-- The records kept of some items, each with its place: those that are read and that fit the ones kept before them. -/
structure Sifted (read : Value → Except ReadError ρ) (fits : List ρ → ρ → Prop) (items : List Value)
    (kept : List (ρ × Nat)) : Prop where
  increasing : (kept.map (·.2)).Pairwise (· < ·)
  mem_iff : ∀ r place, (r, place) ∈ kept ↔
    (∃ v, items[place]? = some v ∧ read v = .ok r) ∧ fits (before place kept) r

/-- The places below some number where no record is kept, in increasing order. -/
def leftOut (kept : List (ρ × Nat)) (count : Nat) : List Nat := (List.range count).filter (· ∉ kept.map (·.2))

variable {read : Value → Except ReadError ρ} {fits : List ρ → ρ → Prop} {items : List Value} {kept : List (ρ × Nat)}

theorem sifted_nil : Sifted read fits [] [] where
  increasing := .nil
  mem_iff r place := by simp

theorem Sifted.place_lt (h : Sifted read fits items kept) {place : Nat} (listed : place ∈ kept.map (·.2)) :
    place < items.length := by
  obtain ⟨⟨r, _⟩, hr, rfl⟩ := List.mem_map.1 listed
  obtain ⟨⟨v, found, -⟩, -⟩ := (h.mem_iff r _).1 hr
  exact (List.getElem?_eq_some_iff.1 found).1

theorem Sifted.before_length (h : Sifted read fits items kept) : before items.length kept = kept.map (·.1) := by
  have all : kept.filter (·.2 < items.length) = kept :=
    List.filter_eq_self.2 fun k hk => decide_eq_true (h.place_lt (List.mem_map_of_mem hk))
  rw [before, all]

theorem before_append (kept : List (ρ × Nat)) {new : List (ρ × Nat)} {count place : Nat}
    (last : ∀ k ∈ new, k.2 = count) (below : place ≤ count) : before place (kept ++ new) = before place kept := by
  have none : new.filter (·.2 < place) = [] := List.filter_eq_nil_iff.2 fun k hk => by
    have := last k hk
    simp only [decide_eq_true_eq]
    omega
  rw [before, List.filter_append, none, List.append_nil, before]

/-- **One more item is kept if it is read and fits**, and else nothing is. -/
theorem Sifted.snoc (h : Sifted read fits items kept) {v : Value} {new : List (ρ × Nat)} (short : new.length ≤ 1)
    (mem_new : ∀ r place, (r, place) ∈ new ↔ place = items.length ∧ read v = .ok r ∧ fits (kept.map (·.1)) r) :
    Sifted read fits (items ++ [v]) (kept ++ new) where
  increasing := by
    have single : (new.map (·.2)).Pairwise (· < ·) := by
      match new, short with
      | [], _ => exact .nil
      | [k], _ => exact List.pairwise_singleton _ _
    rw [List.map_append, List.pairwise_append]
    refine ⟨h.increasing, single, fun place listed place' listed' => ?_⟩
    obtain ⟨⟨r, _⟩, hr, rfl⟩ := List.mem_map.1 listed'
    rw [((mem_new r _).1 hr).1]
    exact h.place_lt listed
  mem_iff r place := by
    have last : ∀ k ∈ new, k.2 = items.length := fun k hk => ((mem_new k.1 k.2).1 hk).1
    rw [List.mem_append, h.mem_iff, mem_new]
    rcases Nat.lt_trichotomy place items.length with below | rfl | above
    · have old : place ≠ items.length := by omega
      rw [before_append kept last (by omega), List.getElem?_append_left below]
      simp [old]
    · rw [before_append kept last (Nat.le_refl _), h.before_length]
      simp
    · have outside : items[place]? = none := List.getElem?_eq_none (by omega)
      have outside' : (items ++ [v])[place]? = none := List.getElem?_eq_none (by simp; omega)
      have other : place ≠ items.length := by omega
      simp [outside, outside', other]

theorem Sifted.congr {fits' : List ρ → ρ → Prop} (h : Sifted read fits items kept)
    (same : ∀ earlier, earlier.Sublist (kept.map (·.1)) → ∀ r, fits earlier r ↔ fits' earlier r) :
    Sifted read fits' items kept where
  increasing := h.increasing
  mem_iff r place := by
    rw [h.mem_iff, same (before place kept) (List.filter_sublist.map _) r]

theorem Sifted.leftOut_snoc (h : Sifted read fits items kept) {new : List (ρ × Nat)}
    (last : ∀ k ∈ new, k.2 = items.length) : leftOut (kept ++ new) (items.length + 1) =
      leftOut kept items.length ++ if new = [] then [items.length] else [] := by
  have old : (List.range items.length).filter (· ∉ (kept ++ new).map (·.2)) = leftOut kept items.length := by
    refine List.filter_congr fun place hp => ?_
    have below := List.mem_range.1 hp
    have other : place ∉ new.map (·.2) := fun listed => by
      obtain ⟨k, hk, rfl⟩ := List.mem_map.1 listed
      have := last k hk
      omega
    simp only [List.map_append, List.mem_append, other, or_false]
  have unkept : items.length ∉ kept.map (·.2) := fun listed => Nat.lt_irrefl _ (h.place_lt listed)
  rw [leftOut, List.range_succ, List.filter_append, old]
  congr 1
  cases new with
  | nil => simpa using unkept
  | cons k new => simp [last k List.mem_cons_self]

/-- **Each place is kept or left out, once.** -/
theorem Sifted.places_perm (h : Sifted read fits items kept) :
    (kept.map (·.2) ++ leftOut kept items.length).Perm (List.range items.length) := by
  have places : (kept.map (·.2)).Perm ((List.range items.length).filter (· ∈ kept.map (·.2))) := by
    refine (List.perm_ext_iff_of_nodup (h.increasing.imp Nat.ne_of_lt) (List.nodup_range.filter _)).2 fun place => ?_
    rw [List.mem_filter, List.mem_range, decide_eq_true_eq]
    exact ⟨fun listed => ⟨h.place_lt listed, listed⟩, (·.2)⟩
  have others : leftOut kept items.length =
      (List.range items.length).filter fun place => !decide (place ∈ kept.map (·.2)) := by
    simp only [leftOut, decide_not]
  rw [others]
  exact (places.append_right _).trans (List.filter_append_perm _ _)

theorem Sifted.length_add (h : Sifted read fits items kept) :
    kept.length + (leftOut kept items.length).length = items.length := by
  have := h.places_perm.length_eq
  simpa using this

end

/-! ## Tolerant steps -/

variable {ρ : Type}

/-- A step that rebuilds a record by a request: what is read and granted is rebuilt, anything else is skipped and
changes nothing. -/
def Tolerant (record : RecordKind) (read : Value → Except ReadError ρ) (request : ρ → Request Float)
    (step : Progress → Value × Nat → Progress) : Prop :=
  ∀ (p : Progress) (v : Value) (index : Nat),
    (∃ r, read v = .ok r ∧ p.graph.Granted (request r) ∧
      step p (v, index) = { p with graph := (p.graph.perform (request r)).2 }) ∨
    (∀ r, read v = .ok r → ¬ p.graph.Granted (request r)) ∧ ∃ reason, step p (v, index) = p.skip record index reason

theorem tolerant_node : Tolerant .node readNodeRecord (fun r => .restore r.node) node := by
  intro p v index
  cases read : readNodeRecord v with
  | error e => exact .inr ⟨nofun, .malformedNode e, by simp only [node, read]⟩
  | ok r =>
    have asked := Graph.granted_iff (g := p.graph) (r := .restore r.node)
      (c := p.graph.restoreNode r.id r.kind r.position r.data) rfl
    have next : (p.graph.perform (.restore r.node)).2 = (p.graph.restoreNode r.id r.kind r.position r.data).2 := rfl
    rcases p.graph.restoreNode_cases r.id r.kind r.position r.data with ⟨e, done⟩ | ⟨-, -, done⟩
    · have refused : ¬ p.graph.Granted (.restore r.node) := by simp [asked, done]
      exact .inr ⟨fun _ same => Except.ok.inj same ▸ refused, .rejected e, by simp only [node, read, done]⟩
    · have granted : p.graph.Granted (.restore r.node) := by simp [asked, done]
      exact .inl ⟨r, rfl, granted, by simp only [node, read, next, done]⟩

theorem tolerant_connection : Tolerant .connection readEdge .connect connection := by
  intro p v index
  cases read : readEdge v with
  | error e => exact .inr ⟨nofun, .malformedConnection e, by simp only [connection, read]⟩
  | ok r =>
    have asked := Graph.granted_iff (g := p.graph) (r := .connect r)
      (c := p.graph.createEdge r.source r.target r.outcome) rfl
    have next : (p.graph.perform (.connect r)).2 = (p.graph.createEdge r.source r.target r.outcome).2 := rfl
    rcases p.graph.createEdge_cases r.source r.target r.outcome with ⟨e, done⟩ | ⟨-, -, -, -, -, done⟩
    · have refused : ¬ p.graph.Granted (.connect r) := by simp [asked, done]
      exact .inr ⟨fun _ same => Except.ok.inj same ▸ refused, .rejected e, by simp only [connection, read, done]⟩
    · have granted : p.graph.Granted (.connect r) := by simp [asked, done]
      exact .inl ⟨r, rfl, granted, by simp only [connection, read, next, done]⟩

variable {record : RecordKind} {read : Value → Except ReadError ρ} {request : ρ → Request Float}
  {step : Progress → Value × Nat → Progress}

/-- **A tolerant fold keeps what is granted in turn** and skips every other place once, in order. -/
theorem Tolerant.exists_sifted (tolerant : Tolerant record read request step) (p : Progress) (items : List Value) :
    ∃ kept, Sifted read (fun earlier r => (p.graph.after (earlier.map request)).Granted (request r)) items kept ∧
      p.graph.Grants ((kept.map (·.1)).map request) ∧
      (items.zipIdx.foldl step p).graph = p.graph.after ((kept.map (·.1)).map request) ∧
      (items.zipIdx.foldl step p).skipped.map Skipped.entry =
        p.skipped.map Skipped.entry ++ (leftOut kept items.length).map (record, ·) := by
  induction items using List.reverseRecOn with
  | nil => exact ⟨[], sifted_nil, trivial, rfl, by simp [leftOut]⟩
  | append_singleton items v ih =>
    obtain ⟨kept, sifted, granted, graph, skipped⟩ := ih
    let q := items.zipIdx.foldl step p
    have last : (items ++ [v]).zipIdx.foldl step p = step q (v, items.length) := by
      rw [List.zipIdx_append, List.foldl_append]
      simp [q]
    have count : (items ++ [v]).length = items.length + 1 := by simp
    rcases tolerant q v items.length with ⟨r, value, next, done⟩ | ⟨out, reason, done⟩
    · have new : ∀ k ∈ [(r, items.length)], k.2 = items.length := by simp
      rw [show q.graph = _ from graph] at next
      refine ⟨kept ++ [(r, items.length)], sifted.snoc (Nat.le_refl 1) fun r' place => ?_, ?_, ?_, ?_⟩
      · simp only [List.mem_singleton, Prod.mk.injEq, value, Except.ok.injEq]
        constructor
        · rintro ⟨rfl, rfl⟩
          exact ⟨rfl, rfl, next⟩
        · rintro ⟨rfl, rfl, -⟩
          exact ⟨rfl, rfl⟩
      · rw [List.map_append, List.map_append, Graph.grants_append]
        exact ⟨granted, next, trivial⟩
      · rw [last, done, List.map_append, List.map_append, Graph.after_append, ← graph]
        rfl
      · rw [last, done, count, sifted.leftOut_snoc new, if_neg (List.cons_ne_nil _ _), List.append_nil]
        exact skipped
    · refine ⟨kept, ?_, granted, ?_, ?_⟩
      · have unfit : ∀ r, read v = .ok r → ¬ (p.graph.after ((kept.map (·.1)).map request)).Granted (request r) :=
          graph ▸ out
        have more : Sifted _ _ (items ++ [v]) (kept ++ []) := sifted.snoc (Nat.zero_le 1) fun r place => by
          simpa using fun _ value => unfit r value
        rwa [List.append_nil] at more
      · rw [last, done]
        exact graph
      · have more : leftOut (kept ++ []) (items.length + 1) = _ := sifted.leftOut_snoc nofun
        rw [List.append_nil, if_pos rfl] at more
        rw [last, done, count, more, List.map_append, ← List.append_assoc, ← skipped]
        simp [Progress.skip, Skipped.entry, q]

/-! ## Visual documents -/

theorem formatTag_eq_some_iff (v : Value) (tag : String) : formatTag v = some tag ↔
    v.member? "workflow_type" = some (.string tag) ∨
      v.member? "workflow_type" = none ∧ v.member? "formatTag" = some (.string tag) := by
  have text (w : Value) : w.string? = some tag ↔ w = .string tag := by cases w <;> simp [Value.string?]
  cases h : v.member? "workflow_type" <;> simp [formatTag, h, text, Option.bind_eq_some_iff]

theorem isVisual_iff (v : Value) : isVisual v = true ↔
    (v.member? "workflow_type" = some (.string "visual") ∨
      v.member? "workflow_type" = none ∧ v.member? "formatTag" = some (.string "visual")) ∧
    ∃ items, v.member? "nodes" = some (.array items) := by
  have array (o : Option Value) : isArray o = true ↔ ∃ items, o = some (.array items) := by
    rcases o with _ | (_ | _ | _ | _ | _ | _) <;> simp [isArray]
  rw [isVisual, Bool.and_eq_true, beq_iff_eq, formatTag_eq_some_iff, array]
  rfl

theorem ofValue_eq_ok_iff (palette : Palette) (placement : PlacementSettings Float) (v : Value) (i : Imported) :
    ofValue palette placement v = .ok i ↔
      (∃ items, v = .array items ∧ steps palette placement items = i) ∨
      (∃ members, v = .object members) ∧ isVisual v = true ∧ visual palette v = i := by
  cases v with
  | array items => simp [ofValue]
  | object members =>
    by_cases tagged : isVisual (.object members) = true
    · rw [ofValue, if_pos tagged]
      simp [tagged]
    · rw [ofValue, if_neg tagged]
      simp [tagged]
  | _ => simp [ofValue]

def rebuilt (palette : Palette) (nodes : List NodeRecord) (connections : List Edge) : Graph Float :=
  ((Graph.empty palette).after (nodes.map fun r => .restore r.node)).after (connections.map .connect)

section

variable {palette : Palette} {nodes : List NodeRecord} {connections : List Edge}

theorem map_restore (l : List NodeRecord) :
    l.map (fun r => (.restore r.node : Request Float)) = (l.map NodeRecord.node).map .restore := by
  rw [List.map_map]
  rfl

theorem sound_rebuilt : (rebuilt palette nodes connections).Sound := ((Graph.sound_empty palette).after _).after _

/-- **Records that are granted in turn are the graph rebuilt of them.** -/
theorem rebuilt_eq (apart : (nodes.map NodeRecord.node).Pairwise Node.Apart)
    (connected : (rebuilt palette nodes []).Grants (connections.map .connect)) :
    (rebuilt palette nodes connections).nodeList = nodes.map (·.node.clamped) ∧
      (rebuilt palette nodes connections).edges = connections ∧
      (rebuilt palette nodes connections).counter = Graph.counterAbove 0 (nodes.map NodeRecord.node) := by
  have restored := (Graph.grants_restores_empty palette _).2 apart
  obtain ⟨list, edges, counter⟩ := (Graph.sound_empty palette).after_restores restored
  rw [← map_restore] at list edges counter
  obtain ⟨edgeSet, outgoing, added⟩ := Graph.after_connects connected
  have all : rebuilt palette nodes connections =
      { rebuilt palette nodes [] with edges := (rebuilt palette nodes []).edges ++ connections, edgeSet, outgoing } :=
    added
  rw [all]
  refine ⟨list.trans ?_, ?_, counter⟩
  · simp [Graph.nodeList, Graph.empty]
  · show (rebuilt palette nodes []).edges ++ connections = connections
    rw [show (rebuilt palette nodes []).edges = [] from edges, List.nil_append]

end

theorem countP_entries (nodes connections : List Nat) (skipped : List Skipped)
    (entries : skipped.map Skipped.entry =
      nodes.map (RecordKind.node, ·) ++ connections.map (RecordKind.connection, ·)) :
    skipped.countP (·.record = .node) = nodes.length ∧
      skipped.countP (·.record = .connection) = connections.length := by
  have count (record : RecordKind) : skipped.countP (·.record = record) =
      (skipped.map Skipped.entry).countP (·.1 = record) := by
    rw [List.countP_map]
    rfl
  rw [count, count, entries]
  simp [List.countP_map, Function.comp_def]

/-- **An import accounts for every record.**  Any list, and any object that is tagged as a visual document and has a
list of nodes, is imported, whatever its records are.  Of a visual document the nodes are, in order, the records that
are read, whose identifier is new and which are no second start node; the edges are, in order, the connections that
are read and that the rebuilt nodes and the edges before them admit.  Every other record is skipped, once, under its
kind and place. -/
theorem import_accounts_for_every_record (palette : Palette) (placement : PlacementSettings Float) (v : Value) :
    ((∃ i, ofValue palette placement v = .ok i) ↔
      (∃ items, v = .array items) ∨
      (∃ members, v = .object members) ∧
        (v.member? "workflow_type" = some (.string "visual") ∨
          v.member? "workflow_type" = none ∧ v.member? "formatTag" = some (.string "visual")) ∧
        ∃ items, v.member? "nodes" = some (.array items)) ∧
    ∀ members i, v = .object members → ofValue palette placement v = .ok i →
      ∃ nodes connections,
        Sifted readNodeRecord (fun earlier r => ∀ k ∈ earlier, k.node.Apart r.node) (itemsOf (v.member? "nodes"))
          nodes ∧
        Sifted readEdge
          (fun earlier e => ((rebuilt palette (nodes.map (·.1)) earlier).createEdge e.source e.target e.outcome).1 =
            .ok e)
          (itemsOf (v.member? "connections")) connections ∧
        i.graph = rebuilt palette (nodes.map (·.1)) (connections.map (·.1)) ∧
        i.graph.nodeList = nodes.map (fun r => r.1.node.clamped) ∧
        i.graph.edges = connections.map (·.1) ∧
        i.skipped.map Skipped.entry =
          (leftOut nodes (itemsOf (v.member? "nodes")).length).map (.node, ·) ++
            (leftOut connections (itemsOf (v.member? "connections")).length).map (.connection, ·) ∧
        i.graph.nodeCount + i.skipped.countP (·.record = .node) = (itemsOf (v.member? "nodes")).length ∧
        i.graph.edgeCount + i.skipped.countP (·.record = .connection) =
          (itemsOf (v.member? "connections")).length := by
  constructor
  · simp only [ofValue_eq_ok_iff, isVisual_iff, exists_or, exists_and_left]
    simp
  rintro members i rfl imported
  obtain ⟨items, list, -⟩ | ⟨-, -, rfl⟩ := (ofValue_eq_ok_iff ..).1 imported
  · cases list
  let v : Value := .object members
  let start : Progress := ⟨.empty palette, []⟩
  let half := (itemsOf (v.member? "nodes")).zipIdx.foldl node start
  obtain ⟨nodes, siftedNodes, restored, halfGraph, halfSkipped⟩ :=
    tolerant_node.exists_sifted start (itemsOf (v.member? "nodes"))
  obtain ⟨connections, siftedEdges, connected, graph, skipped⟩ :=
    tolerant_connection.exists_sifted half (itemsOf (v.member? "connections"))
  have base : half.graph = rebuilt palette (nodes.map (·.1)) [] := halfGraph
  rw [base] at connected siftedEdges graph
  rw [map_restore, Graph.grants_restores_empty] at restored
  have whole : (visual palette v).graph = rebuilt palette (nodes.map (·.1)) (connections.map (·.1)) := graph
  have entries : (visual palette v).skipped.map Skipped.entry =
      (leftOut nodes (itemsOf (v.member? "nodes")).length).map (.node, ·) ++
        (leftOut connections (itemsOf (v.member? "connections")).length).map (.connection, ·) :=
    skipped.trans (congrArg (· ++ _) halfSkipped)
  obtain ⟨countNodes, countConnections⟩ := countP_entries _ _ _ entries
  obtain ⟨list, edges, -⟩ := rebuilt_eq restored connected
  rw [List.map_map] at list
  refine ⟨nodes, connections, siftedNodes.congr ?_, siftedEdges.congr ?_, whole, whole ▸ list, whole ▸ edges, entries,
    ?_, ?_⟩
  · intro earlier part r
    show ((Graph.empty palette).after (earlier.map fun r => .restore r.node)).Granted (.restore r.node) ↔ _
    rw [map_restore, Graph.granted_restore_after (restored.sublist (part.map NodeRecord.node))]
    simp
  · intro earlier _ e
    rw [Graph.granted_connect]
    rfl
  · rw [whole, sound_rebuilt.nodeCount_eq, list, countNodes, List.length_map]
    exact siftedNodes.length_add
  · rw [whole, Graph.edgeCount, edges, countConnections, List.length_map]
    exact siftedEdges.length_add

theorem import_accounts_for_null_and_dangling_records : ∃ document i, ofValue ⟨∅⟩ .standard document = .ok i ∧
    i.skipped.map Skipped.entry = [(.node, 0), (.connection, 0)] ∧
    i.graph.nodeCount + i.skipped.countP (·.record = .node) = 2 ∧
    i.graph.edgeCount + i.skipped.countP (·.record = .connection) = 1 := by
  let members : List (String × Value) := [("formatTag", .string "visual"),
    ("nodes", .array [.null, .object [("id", .string "a"), ("type", .string "start")]]),
    ("connections", .array [.object [("source", .string "a"), ("target", .string "b"), ("label", .string "error")]])]
  have imported : ofValue ⟨∅⟩ .standard (.object members) = .ok (visual ⟨∅⟩ (.object members)) := rfl
  obtain ⟨-, -, -, -, -, -, -, -, nodes, connections⟩ :=
    (import_accounts_for_every_record ⟨∅⟩ .standard (.object members)).2 members _ rfl imported
  exact ⟨_, _, imported, by decide +kernel, nodes, connections⟩

end Import

end Workflow
