import Workflow.Proofs.Numbering
import Workflow.Proofs.RoundTrip
/-!
# Requests granted in turn

Each request is checked against the store that the ones before it left.  For a list of edges, and for a list of nodes
put back, these checks amount to one condition on the list as a whole: `Joinable` asks that all edges together are
distinct, have known ends and close no cycle, and `grants_restores_iff` that any two of the nodes get along.  Neither
condition minds the order of the list.
-/
namespace Workflow

/-- A node moved to the nearest place with no negative axis. -/
def Node.clamped {α : Type} [Scalar α] (n : Node α) : Node α := { n with position := n.position.clamp }

/-- Two nodes that one store can hold. -/
def Node.Apart {α : Type} (n m : Node α) : Prop := n.id ≠ m.id ∧ ¬ (n.isStart = true ∧ m.isStart = true)

theorem Node.Apart.symm {α : Type} {n m : Node α} (h : n.Apart m) : m.Apart n :=
  ⟨h.1.symm, fun starts => h.2 starts.symm⟩

end Workflow

namespace Workflow.Graph

open Relation (ReflTransGen TransGen)

variable {α : Type} {g : Graph α}

/-! ## Conditions on a list as a whole -/

def Joins (edges : List Edge) (u v : NodeId) : Prop := ∃ e ∈ edges, e.source = u ∧ e.target = v

/-- Edges that can be put in together. -/
structure Joinable (g : Graph α) (l : List Edge) : Prop where
  nodup : (g.edges ++ l).Nodup
  ends : ∀ e ∈ l, e.source ∈ g.nodes ∧ e.target ∈ g.nodes
  acyclic : ∀ id, ¬ TransGen (Joins (g.edges ++ l)) id id

theorem Joinable.perm {l l' : List Edge} (h : g.Joinable l) (perm : l.Perm l') : g.Joinable l' where
  nodup := (perm.append_left g.edges).nodup_iff.1 h.nodup
  ends e he := h.ends e (perm.mem_iff.2 he)
  acyclic id cycle := by
    refine h.acyclic id (TransGen.mono ?_ _ _ cycle)
    rintro u v ⟨e, he, ends⟩
    exact ⟨e, (perm.append_left g.edges).mem_iff.2 he, ends⟩

theorem Joinable.congr {g' : Graph α} {l : List Edge} (h : g.Joinable l) (nodes : g.nodes = g'.nodes)
    (edges : g.edges = g'.edges) : g'.Joinable l where
  nodup := edges ▸ h.nodup
  ends := nodes ▸ h.ends
  acyclic := edges ▸ h.acyclic

theorem joinable_addEdge {e : Edge} {l : List Edge} (source : e.source ∈ g.nodes) (target : e.target ∈ g.nodes) :
    (g.addEdge e).Joinable l ↔ g.Joinable (e :: l) := by
  have edges : (g.addEdge e).edges ++ l = g.edges ++ e :: l := (List.append_cons g.edges e l).symm
  constructor
  · intro h
    refine ⟨edges ▸ h.nodup, fun k hk => ?_, edges ▸ h.acyclic⟩
    rcases List.mem_cons.1 hk with rfl | hk
    · exact ⟨source, target⟩
    · exact h.ends k hk
  · exact fun h => ⟨edges ▸ h.nodup, fun k hk => h.ends k (List.mem_cons_of_mem e hk), edges ▸ h.acyclic⟩

/-- There is room for a node: its identifier is free, and a start node is the first. -/
def Fits (g : Graph α) (n : Node α) : Prop := n.id ∉ g.nodes ∧ (n.isStart = true → g.startId = none)

variable [Scalar α]

/-! ## Requests in turn -/

/-- A store does as it is asked. -/
def Granted (g : Graph α) (r : Request α) : Prop := ∃ a, (g.perform r).1 = .ok a

theorem granted_iff {β : Type} {r : Request α} {answer : β → Answer α} {c : Change α β}
    (asked : g.perform r = Answer.of answer c) : g.Granted r ↔ ∃ b, c.1 = .ok b := by
  obtain ⟨result, next⟩ := c
  rw [Granted, asked]
  cases result <;> simp [Answer.of, Except.map]

/-- A store grants some requests, one after the other. -/
def Grants (g : Graph α) : List (Request α) → Prop
  | [] => True
  | r :: rest => g.Granted r ∧ (g.perform r).2.Grants rest

theorem grants_append (before rest : List (Request α)) :
    g.Grants (before ++ rest) ↔ g.Grants before ∧ (g.after before).Grants rest := by
  induction before generalizing g with
  | nil => simp [Grants, after]
  | cons r before ih =>
    have step : g.after (r :: before) = (g.perform r).2.after before := rfl
    simp only [List.cons_append, Grants, ih, step, and_assoc]

theorem Sound.after (h : g.Sound) (requests : List (Request α)) : (g.after requests).Sound := by
  induction requests generalizing g with
  | nil => exact h
  | cons r requests ih => exact ih (h.perform r)

/-! ## Edges -/

def Request.connect (e : Edge) : Request α := .createEdge e.source e.target e.outcome

theorem granted_connect (g : Graph α) (e : Edge) :
    g.Granted (.connect e) ↔ (g.createEdge e.source e.target e.outcome).1 = .ok e := by
  rw [granted_iff (c := g.createEdge e.source e.target e.outcome) rfl]
  rcases g.createEdge_cases e.source e.target e.outcome with ⟨r, done⟩ | ⟨-, -, -, -, -, done⟩ <;> rw [done]
  · simp
  · simp

theorem perform_connect {e : Edge} (granted : g.Granted (.connect e)) : (g.perform (.connect e)).2 = g.addEdge e := by
  rw [granted_connect] at granted
  show (g.createEdge e.source e.target e.outcome).2 = _
  rcases g.createEdge_cases e.source e.target e.outcome with ⟨r, done⟩ | ⟨-, -, -, -, -, done⟩ <;> rw [done]
  rw [done] at granted
  cases granted

theorem Sound.granted_connect_iff (h : g.Sound) (e : Edge) : g.Granted (.connect e) ↔
    e ∉ g.edges ∧ e.source ∈ g.nodes ∧ e.target ∈ g.nodes ∧ ¬ ReflTransGen g.Next e.target e.source := by
  rw [granted_connect]
  constructor
  · intro granted
    rcases g.createEdge_cases e.source e.target e.outcome with ⟨r, done⟩ | ⟨-, new, source, target, apart, -⟩
    · rw [done] at granted
      cases granted
    · refine ⟨fun listed => new ((h.mem_edgeSet e).2 listed), source, target, ?_⟩
      rwa [← h.wouldCycle_iff, Bool.not_eq_true]
  · rintro ⟨new, source, target, apart⟩
    have differ : e.source ≠ e.target := fun same => apart (same ▸ .refl)
    rw [← h.wouldCycle_iff, Bool.not_eq_true] at apart
    rw [g.createEdge_of differ (fun listed => new ((h.mem_edgeSet e).1 listed)) source target apart]

theorem Joinable.granted {e : Edge} {l : List Edge} (h : g.Joinable (e :: l)) (sound : g.Sound) :
    g.Granted (.connect e) := by
  have new : e ∉ g.edges := fun listed =>
    (List.nodup_append.1 h.nodup).2.2 e listed e List.mem_cons_self rfl
  obtain ⟨source, target⟩ := h.ends e List.mem_cons_self
  refine (sound.granted_connect_iff e).2 ⟨new, source, target, fun path => ?_⟩
  have within : ReflTransGen (Joins (g.edges ++ e :: l)) e.target e.source := by
    refine ReflTransGen.mono ?_ _ _ path
    rintro u v ⟨k, hk, ends⟩
    exact ⟨k, List.mem_append_left _ hk, ends⟩
  have listed : e ∈ g.edges ++ e :: l := List.mem_append_right _ List.mem_cons_self
  exact h.acyclic e.source (TransGen.head' ⟨e, listed, rfl, rfl⟩ within)

/-- **Edges are granted in turn just when they can be put in together.** -/
theorem Sound.grants_connects_iff (h : g.Sound) (l : List Edge) : g.Grants (l.map .connect) ↔ g.Joinable l := by
  induction l generalizing g with
  | nil =>
    refine ⟨fun _ => ⟨?_, nofun, ?_⟩, fun _ => trivial⟩
    · simpa using h.edges_nodup
    · simpa using show ∀ id, ¬ TransGen (Joins g.edges) id id from h.acyclic
  | cons e l ih =>
    have next (granted : g.Granted (.connect e)) :
        (g.perform (.connect e)).2.Grants (l.map .connect) ↔ g.Joinable (e :: l) := by
      obtain ⟨-, source, target, -⟩ := (h.granted_connect_iff e).1 granted
      rw [ih (h.perform _), perform_connect granted, joinable_addEdge source target]
    constructor
    · exact fun ⟨granted, rest⟩ => (next granted).1 rest
    · exact fun all => ⟨all.granted h, (next (all.granted h)).2 all⟩

/-- Edges that are granted are put in, in their order, and nothing else changes. -/
theorem after_connects {l : List Edge} (granted : g.Grants (l.map .connect)) : ∃ edgeSet outgoing,
    g.after (l.map .connect) = { g with edges := g.edges ++ l, edgeSet, outgoing } := by
  induction l generalizing g with
  | nil => exact ⟨g.edgeSet, g.outgoing, by simp [after]⟩
  | cons e l ih =>
    obtain ⟨edgeSet, outgoing, rest⟩ := ih granted.2
    have step : g.after ((e :: l).map .connect) = (g.perform (.connect e)).2.after (l.map .connect) := rfl
    refine ⟨edgeSet, outgoing, ?_⟩
    rw [step, rest, perform_connect granted.1, List.append_cons]
    rfl

/-! ## Nodes -/

def Request.restore (n : Node α) : Request α := .restoreNode n.id n.kind n.position n.data

theorem granted_restore_iff (n : Node α) : g.Granted (.restore n) ↔ g.Fits n := by
  rw [granted_iff (c := g.restoreNode n.id n.kind n.position n.data) rfl]
  constructor
  · rintro ⟨a, granted⟩
    rcases g.restoreNode_cases n.id n.kind n.position n.data with ⟨r, done⟩ | ⟨fresh, free, -⟩
    · rw [done] at granted
      cases granted
    · exact ⟨fresh, startId_of_startConflict free⟩
  · rintro ⟨fresh, single⟩
    rw [g.restoreNode_of fresh (startConflict_eq_none single)]
    exact ⟨_, rfl⟩

theorem perform_restore {n : Node α} (fits : g.Fits n) : (g.perform (.restore n)).2 =
    { g with counter := max g.counter (n.id.number?.getD 0) }.place n.clamped := by
  show (g.restoreNode n.id n.kind n.position n.data).2 = _
  rw [g.restoreNode_of fits.1 (startConflict_eq_none fits.2)]
  rfl

theorem fits_place (counter : Nat) (n m : Node α) :
    ({ g with counter }.place n.clamped).Fits m ↔ g.Fits m ∧ n.Apart m := by
  have room : m.id ∉ ({ g with counter }.place n.clamped).nodes ↔ n.id ≠ m.id ∧ m.id ∉ g.nodes := by
    show m.id ∉ g.nodes.insert n.id n.clamped ↔ _
    rw [mem_insert_node, not_or]
  have first : ({ g with counter }.place n.clamped).startId = none ↔ ¬ n.isStart = true ∧ g.startId = none := by
    show (if n.isStart then some n.id else g.startId) = none ↔ _
    split
    · next start => simp [start]
    · next other => simp [other]
  rw [Fits, room, first, Fits, Node.Apart]
  tauto

/-- **Nodes are put back in turn just when there is room for each and any two of them get along.** -/
theorem grants_restores_iff (l : List (Node α)) :
    g.Grants (l.map .restore) ↔ (∀ n ∈ l, g.Fits n) ∧ l.Pairwise Node.Apart := by
  induction l generalizing g with
  | nil => simp [Grants]
  | cons n l ih =>
    have next (fits : g.Fits n) : (g.perform (.restore n)).2.Grants (l.map .restore) ↔
        (∀ m ∈ l, g.Fits m ∧ n.Apart m) ∧ l.Pairwise Node.Apart := by
      rw [perform_restore fits, ih]
      simp only [fits_place]
    rw [List.map_cons, Grants, granted_restore_iff, List.forall_mem_cons, List.pairwise_cons]
    constructor
    · rintro ⟨fits, rest⟩
      obtain ⟨others, pairwise⟩ := (next fits).1 rest
      exact ⟨⟨fits, fun m hm => (others m hm).1⟩, fun m hm => (others m hm).2, pairwise⟩
    · rintro ⟨⟨fits, others⟩, apart, pairwise⟩
      exact ⟨fits, (next fits).2 ⟨fun m hm => ⟨others m hm, apart m hm⟩, pairwise⟩⟩

theorem grants_restores_empty (palette : Palette) (l : List (Node α)) :
    (empty palette : Graph α).Grants (l.map .restore) ↔ l.Pairwise Node.Apart := by
  rw [grants_restores_iff]
  exact and_iff_right fun n _ => ⟨by simp [empty], fun _ => rfl⟩

theorem granted_restore_after {palette : Palette} {l : List (Node α)} (apart : l.Pairwise Node.Apart) (n : Node α) :
    ((empty palette : Graph α).after (l.map .restore)).Granted (.restore n) ↔ ∀ k ∈ l, k.Apart n := by
  have before : (empty palette : Graph α).Grants (l.map .restore) := (grants_restores_empty palette l).2 apart
  have whole := grants_restores_empty palette (l ++ [n])
  rw [List.map_append, grants_append, List.pairwise_append] at whole
  simpa [before, apart, Grants] using whole

theorem Sound.nodeList_place (h : g.Sound) {n : Node α} (fresh : n.id ∉ g.nodes) (counter : Nat) :
    ({ g with counter }.place n).nodeList = g.nodeList ++ [n] := by
  have others : g.order.filterMap ({ g with counter }.place n).node? = g.order.filterMap g.node? := by
    refine List.filterMap_congr fun id hid => ?_
    have other : n.id ≠ id := fun same => fresh (same ▸ (h.mem_order id).1 hid)
    rw [node?_place, if_neg other]
    rfl
  have last : ({ g with counter }.place n).node? n.id = some n := by
    rw [node?_place, if_pos rfl]
  show (g.order ++ [n.id]).filterMap ({ g with counter }.place n).node? = _
  rw [List.filterMap_append, others, List.filterMap_cons_some last]
  rfl

def counterAbove (counter : Nat) (l : List (Node α)) : Nat :=
  l.foldl (fun counter n => max counter (n.id.number?.getD 0)) counter

/-- **Nodes that are put back are in the store, after the others and in their order.** -/
theorem Sound.after_restores (h : g.Sound) {l : List (Node α)} (granted : g.Grants (l.map .restore)) :
    (g.after (l.map .restore)).nodeList = g.nodeList ++ l.map Node.clamped ∧
    (g.after (l.map .restore)).edges = g.edges ∧
    (g.after (l.map .restore)).counter = counterAbove g.counter l := by
  induction l generalizing g with
  | nil => exact ⟨(List.append_nil _).symm, rfl, rfl⟩
  | cons n l ih =>
    have fits : g.Fits n := (granted_restore_iff n).1 granted.1
    have step : g.after ((n :: l).map .restore) = (g.perform (.restore n)).2.after (l.map .restore) := rfl
    obtain ⟨nodes, edges, counter⟩ := ih (h.perform _) granted.2
    rw [step, nodes, edges, counter, perform_restore fits, h.nodeList_place (n := n.clamped) fits.1, List.map_cons,
      List.append_assoc, List.singleton_append]
    exact ⟨rfl, rfl, rfl⟩

/-! ## Stores with the same nodes -/

theorem Sound.node?_eq_some_iff (h : g.Sound) (id : NodeId) (n : Node α) :
    g.node? id = some n ↔ n ∈ g.nodeList ∧ n.id = id := by
  rw [h.mem_nodeList]
  constructor
  · intro found
    have same := h.id_of_node id n found
    exact ⟨same ▸ found, same⟩
  · rintro ⟨found, rfl⟩
    exact found

/-- **Nodes in another order are the same nodes.** -/
theorem Sound.nodes_eq {g' : Graph α} (h : g.Sound) (h' : g'.Sound) (perm : g.nodeList.Perm g'.nodeList) :
    g.nodes = g'.nodes ∧ g.startId = g'.startId := by
  have node (id : NodeId) : g.node? id = g'.node? id := Option.ext fun n => by
    rw [h.node?_eq_some_iff, h'.node?_eq_some_iff, perm.mem_iff]
  refine ⟨Std.ExtTreeMap.ext_getElem? node, Option.ext fun id => ?_⟩
  show g.startId = some id ↔ g'.startId = some id
  rw [h.startId_iff, h'.startId_iff, node]

theorem Sound.edgeSet_eq {g' : Graph α} (h : g.Sound) (h' : g'.Sound) (perm : g.edges.Perm g'.edges) :
    g.edgeSet = g'.edgeSet :=
  Std.ExtTreeSet.ext_mem fun e => by rw [h.mem_edgeSet, h'.mem_edgeSet, perm.mem_iff]

end Workflow.Graph
