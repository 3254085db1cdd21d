import Mathlib.Data.List.TakeWhile
import Workflow.Proofs.Traversals
/-!
# The issues of a graph, told plainly

Validation goes through the nodes once.  It keeps the names that nodes of a kind produce in a field, for all references
that ask for them later.  What it finds can be told without either: `Graph.problems` looks at one node at a time, and
looks through the whole graph again for every reference.

Names are kept as a look through the graph gives them (`Validation.Fresh`), and every check leaves them so.  So what a
check finds does not depend on what was asked before it, nor on the order of nodes and references.
-/
namespace Workflow

open Json (Value)
open Relation (ReflTransGen)

namespace Text

/-- **Nothing is left of blank text**, and of no other. -/
theorem trim_eq_empty_iff (s : String) : trim s = "" ↔ ∀ c ∈ s.toList, isBlank c = true := by
  have left : trim s = "" ↔ ∀ c ∈ trimLeft s.toList, isBlank c = true := by
    rw [trim, String.ofList_eq_empty_iff, List.reverse_eq_nil_iff, trimLeft, List.dropWhile_eq_nil_iff]
    simp only [List.mem_reverse]
  rw [left, trimLeft]
  refine ⟨fun blank => ?_, fun blank c hc => blank c ((List.dropWhile_suffix _).subset hc)⟩
  by_cases rest : s.toList.dropWhile isBlank = []
  · exact List.dropWhile_eq_nil_iff.1 rest
  · have first := List.head_dropWhile_not isBlank rest
    rw [blank _ (List.head_mem rest)] at first
    cases first

end Text

/-! ## Paths -/

def Adjacency.ofEdges (edges : List Edge) : Adjacency := edges.foldl Adjacency.add ∅

theorem Adjacency.successors_foldl_add (edges : List Edge) (a : Adjacency) (id : NodeId) :
    (edges.foldl Adjacency.add a).successors id = a.successors id ++ edges.filter (·.source = id) := by
  induction edges generalizing a with
  | nil => exact (List.append_nil _).symm
  | cons e edges ih =>
    rw [List.foldl_cons, ih, successors_add]
    by_cases leaves : e.source = id <;> simp [leaves]

namespace Graph

variable {α : Type}

/-- A new table of the edges says of each node what it leads to, whatever the graph has for a table. -/
theorem leadsTo_ofEdges_iff (g : Graph α) (u v : NodeId) :
    (Adjacency.ofEdges g.edges).leadsTo v ∅ [u] = true ↔ ReflTransGen g.Next u v := by
  let plain : Graph α := { g with outgoing := .ofEdges g.edges }
  have tabulated : plain.Tabulated := fun id => by
    show (Adjacency.ofEdges g.edges).successors id = _
    rw [Adjacency.ofEdges, Adjacency.successors_foldl_add, Adjacency.successors_empty, List.nil_append]
  rw [Adjacency.leadsTo_iff, tabulated.next_eq]
  rfl

instance (g : Graph α) (u v : NodeId) : Decidable (ReflTransGen g.Next u v) :=
  decidable_of_iff _ (g.leadsTo_ofEdges_iff u v)

end Graph

/-! ## What there is to find -/

/-- Is there no value, or one as good as none: null, blank text or an empty list? -/
def Wanting : Option Value → Prop
  | none => True
  | some .null => True
  | some (.string s) => ∀ c ∈ s.toList, Text.isBlank c = true
  | some (.array items) => items = []
  | some _ => False

theorem wanting_iff (v : Option Value) : (v.map Validation.isVacant).getD true = true ↔ Wanting v := by
  match v with
  | none | some .null => exact iff_of_true rfl trivial
  | some (.string s) =>
    show (Text.trim s == "") = true ↔ _
    rw [beq_iff_eq]
    exact Text.trim_eq_empty_iff s
  | some (.array items) => exact List.isEmpty_iff
  | some (.bool _) | some (.number _) | some (.object _) => exact iff_of_false Bool.false_ne_true id

instance : DecidablePred Wanting := fun v => decidable_of_iff _ (wanting_iff v)

/-- The text of a field without the blanks around it, though none be left. -/
def Node.spelled {α : Type} (n : Node α) (name : String) : Option String :=
  ((n.data.get? name).bind (·.string?)).map Text.trim

namespace Graph

variable {α : Type}

/-- Does some node produce a name that a field may refer to? -/
def Produces (g : Graph α) (rule : Palette.Reference) (name : String) : Prop :=
  ∃ m ∈ g.nodeList, m.kind = .ofTag rule.kind ∧ m.spelled rule.field = some name

instance (g : Graph α) (rule : Palette.Reference) (name : String) : Decidable (g.Produces rule name) :=
  inferInstanceAs (Decidable (∃ m ∈ g.nodeList, _))

def dangling? (g : Graph α) (n : Node α) (f : Palette.Field) : Option Issue :=
  match f.reference, n.spelled f.name with
  | some rule, some name =>
    if name ≠ "" ∧ name ∉ rule.implicit ∧ ¬ g.Produces rule name then some (.danglingReference n.id f.name name)
    else none
  | _, _ => none

/-- The issues with one node: its kind, or its required fields and after them its references. -/
def nodeProblems (g : Graph α) (n : Node α) : List Issue :=
  match g.palette.entries[n.kind.tag]? with
  | none => if g.palette.isEmpty ∨ n.kind = .start then [] else [.unknownKind n.id n.kind.tag]
  | some e =>
    (e.fields.filter fun f => f.required ∧ Wanting (n.data.get? f.name)).map (fun f => .missingField n.id f.name) ++
      e.fields.filterMap (g.dangling? n)

/-- **Every issue of a graph**, told from its nodes and edges: there is no start node, or it does not lead to some
nodes; what is wrong with each node; and there is nothing to run. -/
def problems (g : Graph α) : List Issue :=
  let start := g.nodeList.find? (·.isStart)
  (match start with
    | none => [.missingStart]
    | some s => (g.nodeList.filter fun n => ¬ ReflTransGen g.Next s.id n.id).map fun n => .unreachable n.id) ++
  g.nodeList.flatMap g.nodeProblems ++
  if ∀ s ∈ start, ∀ n ∈ g.nodeList, ReflTransGen g.Next s.id n.id → n.id = s.id then [.noPath] else []

end Graph

/-! ## The names that are kept -/

namespace Validation

variable {α : Type} {g : Graph α} {produced : Produced}

/-- Whatever names are kept are those that a look through the graph gives. -/
def Fresh (g : Graph α) (produced : Produced) : Prop :=
  ∀ (source : Source) (names : List String), produced[source]? = some names → names = namesFrom g source.1 source.2

theorem fresh_empty (g : Graph α) : Fresh g ∅ := fun source names kept => by simp at kept

/-- **Names that were kept before are the names there are.** -/
theorem Fresh.lookUp (h : Fresh g produced) (rule : Palette.Reference) :
    (lookUp g rule produced).1 = namesFrom g rule.kind rule.field ∧ Fresh g (lookUp g rule produced).2 := by
  rw [Validation.lookUp]
  split
  · next names kept => exact ⟨h _ names kept, h⟩
  · refine ⟨rfl, fun source names kept => ?_⟩
    rw [Std.ExtTreeMap.getElem?_insert] at kept
    split at kept
    · next same =>
      cases Std.LawfulEqCmp.eq_of_compare same
      exact (Option.some.inj kept).symm
    · exact h source names kept

theorem textField_eq_some_iff (n : Node α) (field name : String) :
    n.textField field = some name ↔ n.spelled field = some name ∧ name ≠ "" := by
  rw [Node.textField, Node.spelled]
  cases (n.data.get? field).bind (·.string?) with
  | none => simp
  | some s =>
    by_cases blank : Text.trim s = ""
    · simp only [blank, if_true, Option.map_some]
      refine iff_of_false nofun fun ⟨same, differs⟩ => differs (Option.some.inj same).symm
    · simp only [blank, if_false, Option.map_some]
      exact ⟨fun same => ⟨same, fun empty => blank ((Option.some.inj same).trans empty)⟩, And.left⟩

theorem mem_namesFrom_iff (g : Graph α) (rule : Palette.Reference) {name : String} (differs : name ≠ "") :
    name ∈ namesFrom g rule.kind rule.field ↔ g.Produces rule name := by
  simp only [namesFrom, List.mem_filterMap, List.mem_filter, beq_iff_eq, textField_eq_some_iff,
    Graph.Produces, and_assoc, and_iff_left differs]

/-! ## Checks -/

/-- **A reference is found to dangle if it does**, whatever was asked before. -/
theorem Fresh.checkReference (h : Fresh g produced) (n : Node α) {f : Palette.Field} {rule : Palette.Reference}
    (refers : f.reference = some rule) :
    (checkReference g n produced f rule).1 = (g.dangling? n f).toList ∧
      Fresh g (checkReference g n produced f rule).2 := by
  rw [Validation.checkReference, Graph.dangling?, refers]
  split
  · next none =>
    refine ⟨?_, h⟩
    cases spelled : n.spelled f.name with
    | none => rfl
    | some name =>
      have empty : name = "" := Classical.not_not.1 fun differs => by
        rw [(textField_eq_some_iff n f.name name).2 ⟨spelled, differs⟩] at none
        cases none
      simp [empty]
  · next name text =>
    obtain ⟨spelled, differs⟩ := (textField_eq_some_iff n f.name name).1 text
    rw [spelled]
    split
    · next implicit => exact ⟨by simp [List.contains_iff_mem.1 implicit], h⟩
    · next explicit =>
      obtain ⟨names, fresh⟩ := h.lookUp rule
      have listed := mem_namesFrom_iff g rule differs
      refine ⟨?_, fresh⟩
      dsimp only
      rw [names]
      by_cases produced : g.Produces rule name <;> simp_all

/-- The references of a node are checked field by field. -/
theorem Fresh.checkReferences (h : Fresh g produced) (n : Node α) (fields : List Palette.Field) :
    let found := checkReferences g n (fields.filterMap fun f => f.reference.map fun r => (f, r)) produced
    found.1 = fields.filterMap (g.dangling? n) ∧ Fresh g found.2 := by
  induction fields generalizing produced with
  | nil => exact ⟨rfl, h⟩
  | cons f fields ih =>
    cases refers : f.reference with
    | none =>
      have none : g.dangling? n f = none := by rw [Graph.dangling?, refers]
      rw [List.filterMap_cons_none (by rw [refers]; rfl), List.filterMap_cons_none none]
      exact ih h
    | some rule =>
      obtain ⟨first, fresh⟩ := h.checkReference n refers
      obtain ⟨rest, fresh⟩ := ih fresh
      rw [List.filterMap_cons_some (by rw [refers]; rfl)]
      refine ⟨?_, fresh⟩
      rw [Validation.checkReferences]
      dsimp only
      rw [first, rest]
      cases found : g.dangling? n f with
      | none => rw [List.filterMap_cons_none found]; rfl
      | some i => rw [List.filterMap_cons_some found]; rfl

theorem missingFields_eq (n : Node α) (e : Palette.Entry) : missingFields n e =
    (e.fields.filter fun f => f.required ∧ Wanting (n.data.get? f.name)).map fun f => .missingField n.id f.name := by
  rw [missingFields, Palette.Entry.requiredFields, List.filter_filter]
  refine congrArg _ (List.filter_congr fun f _ => ?_)
  rw [Bool.eq_iff_iff, Bool.and_eq_true, wanting_iff, decide_eq_true_eq, and_comm]

/-- **What is wrong with a node is found**, whatever was asked before. -/
theorem Fresh.checkNode (h : Fresh g produced) (n : Node α) :
    (checkNode g n produced).1 = g.nodeProblems n ∧ Fresh g (checkNode g n produced).2 := by
  rw [Validation.checkNode, Graph.nodeProblems, Palette.get?]
  cases g.palette.entries[n.kind.tag]? with
  | none =>
    refine ⟨?_, h⟩
    by_cases start : n.kind = .start <;> cases g.palette.isEmpty <;>
      simp [Node.isStart, Kind.isStart_iff, start]
  | some e =>
    obtain ⟨dangling, fresh⟩ := h.checkReferences n e.fields
    refine ⟨?_, fresh⟩
    show missingFields n e ++ (Validation.checkReferences g n e.references produced).1 = _
    rw [missingFields_eq]
    exact congrArg _ dangling

/-- **The nodes are checked one by one.** -/
theorem Fresh.checkNodes (h : Fresh g produced) (nodes : List (Node α)) :
    (checkNodes g nodes produced).1 = nodes.flatMap g.nodeProblems := by
  induction nodes generalizing produced with
  | nil => rfl
  | cons n nodes ih =>
    obtain ⟨first, fresh⟩ := h.checkNode n
    rw [Validation.checkNodes, List.flatMap_cons, ← first, ← ih fresh]

end Validation

namespace Graph

variable {α : Type} [Scalar α] {g : Graph α}

/-! ## The whole report -/

theorem Sound.find?_isStart_of_none (h : g.Sound) (unset : g.startId = none) : g.nodeList.find? (·.isStart) = none := by
  refine List.find?_eq_none.2 fun n hn => ?_
  rw [h.startId_eq_none_iff.1 unset n.id n ((h.mem_nodeList n).1 hn)]
  exact Bool.false_ne_true

theorem Sound.find?_isStart (h : g.Sound) {start : NodeId} (noted : g.startId = some start) :
    ∃ s, g.nodeList.find? (·.isStart) = some s ∧ s.id = start := by
  obtain ⟨⟨n, found, isStart⟩, only⟩ := (h.startId_eq_some_iff start).1 noted
  have listed := (h.mem_nodeList n).2 (h.id_of_node start n found ▸ found)
  cases first : g.nodeList.find? (·.isStart) with
  | none => exact absurd isStart (List.find?_eq_none.1 first n listed)
  | some s =>
    have there := (h.mem_nodeList s).1 (List.mem_of_find?_eq_some first)
    exact ⟨s, rfl, only s.id s there (List.find?_some first)⟩

/-- **Validation finds every issue and no other**, in the order in which they are told. -/
theorem Sound.validate_eq_problems (h : g.Sound) : g.validate.issues = g.problems := by
  have fields := (Validation.fresh_empty g).checkNodes g.nodeList
  cases noted : g.startId with
  | none => simp [validate_of_none noted, problems, h.find?_isStart_of_none noted, fields]
  | some start =>
    obtain ⟨s, found, rfl⟩ := h.find?_isStart noted
    have present := h.start_mem noted
    have reached := h.mem_reachable present
    have unreached : (g.order.filter (· ∉ g.reachable s.id)).map Issue.unreachable =
        (g.nodeList.filter fun n => ¬ ReflTransGen g.Next s.id n.id).map fun n => .unreachable n.id := by
      rw [← h.map_id_nodeList, List.filter_map, List.map_map]
      simp only [reached]
      rfl
    have alone : (g.reachable s.id).length ≤ 1 ↔
        ∀ s' ∈ some s, ∀ n ∈ g.nodeList, ReflTransGen g.Next s'.id n.id → n.id = s'.id := by
      simp only [length_le_one_iff (nodup_reachable present) ((reached s.id).2 .refl), reached, Option.mem_some_iff,
        forall_eq']
      refine ⟨fun only n _ path => only n.id path, fun only v path => ?_⟩
      obtain ⟨n, found⟩ := (g.mem_nodes_iff v).1 (h.mem_of_path path present)
      obtain rfl := h.id_of_node v n found
      exact only n ((h.mem_nodeList n).2 found) path
    rw [h.validate_eq noted, fields, unreached, problems, found]
    simp only [alone]

/-- **Validation of any store that requests lead to finds every issue and no other**, in the order in which they are
told, whatever the palette. -/
theorem validation_tells_problems (g : Graph α) (reached : g.Reachable) : g.validate.issues = g.problems :=
  reached.sound.validate_eq_problems

theorem validation_tells_problems_of_tabs : ∃ g : Graph Float, g.Reachable ∧ g.validate.issues =
    [.unreachable (.numbered 3), .unreachable (.numbered 4), .danglingReference (.numbered 2) "tab" "old",
      .missingField (.numbered 3) "tab", .unknownKind (.numbered 4) "stop"] := by
  let tab : Palette.Field := { name := "tab", label := "Tab", widget := .text, required := true }
  let palette := Palette.ofList [("new", { title := "New", fields := [tab] }),
    ("close", { title := "Close", fields := [{ tab with reference := some ⟨"new", "tab", ["main"]⟩ }] })]
  let g : Graph Float := (withStart palette ⟨5, 7⟩).after [.createNode (.action "close") ⟨1, 2⟩,
    .createNode (.action "new") ⟨3, 4⟩, .createNode (.action "stop") ⟨5, 6⟩,
    .updateField (.numbered 2) "tab" (.string " old "), .createEdge (.numbered 1) (.numbered 2) .success]
  have reached : g.Reachable := (Reachable.withStart palette ⟨5, 7⟩).after _
  refine ⟨g, reached, ?_⟩
  rw [validation_tells_problems g reached]
  decide +kernel

end Graph

end Workflow
