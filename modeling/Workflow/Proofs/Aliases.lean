import Mathlib.Data.List.Forall2
import Mathlib.Data.List.Pairwise
import Workflow.Proofs.Strictness
/-!
# Names that mean the same

Some fields answer to two names.  An object that has one of them under the other name is read as the same record: its
members stand in another order then, but fields are set independently of each other, so no order of members matters
(`Independent.readRecord_perm`).  An import therefore rebuilds what it would have rebuilt, record by record, and leaves
out the same places, though perhaps for other reasons (`Tolerant.foldl_agree`).
-/
namespace Workflow

open Json (Field Key ReadError Reader Value readKey readMembers readRecord)
open Workflow.Graph (Request)

/-! ## Members in any order -/

section Records

variable {ρ : Type} {fields : List (Field Value ρ)} {members members' : List (String × Value)}
  {came came' came'' seen : List String} {r mid next : ρ}

def Commute (f g : Field Value ρ) : Prop :=
  ∀ v w r next, (∃ mid, f.read v r = .ok mid ∧ g.read w mid = .ok next) ↔
    ∃ mid, g.read w r = .ok mid ∧ f.read v mid = .ok next

/-- Fields that are set in any order alike. -/
def Independent (fields : List (Field Value ρ)) : Prop := fields.Pairwise Commute

theorem commute_of_set {f g : Field Value ρ} {α β : Type} {readF : Reader Value α} {readG : Reader Value β}
    {setF : ρ → α → ρ} {setG : ρ → β → ρ} (setsF : f.read = fun v r => (readF v).map (setF r))
    (setsG : g.read = fun v r => (readG v).map (setG r)) (apart : ∀ r a b, setG (setF r a) b = setF (setG r b) a) :
    Commute f g := by
  intro v w r next
  simp only [setsF, setsG, except_map_ok]
  constructor
  · rintro ⟨_, ⟨a, value, rfl⟩, b, value', rfl⟩
    exact ⟨_, ⟨b, value', rfl⟩, a, value, (apart r a b).symm⟩
  · rintro ⟨_, ⟨b, value', rfl⟩, a, value, rfl⟩
    exact ⟨_, ⟨a, value, rfl⟩, b, value', apart r a b⟩

theorem Independent.commute (independent : Independent fields) {f g : Field Value ρ} (hf : f ∈ fields)
    (hg : g ∈ fields) (differ : f ≠ g) : Commute f g := by
  have symm : Std.Symm (Commute (ρ := ρ)) := ⟨fun _ _ commute v w r next => (commute w v r next).symm⟩
  exact List.Pairwise.forall independent hf hg differ

theorem ReadsMember.congr {m : String × Value} (reads : ReadsMember fields m came r came' next)
    (perm : came.Perm seen) : ∃ seen', ReadsMember fields m seen r seen' next ∧ came'.Perm seen' := by
  cases reads with
  | passed unknown => exact ⟨seen, .passed unknown, perm⟩
  | set found new value => exact ⟨_, .set found (fun h => new (perm.mem_iff.2 h)) value, perm.cons _⟩

/-- **Two members do the same in either order.** -/
theorem ReadsMember.swap (independent : Independent fields) {m n : String × Value}
    (first : ReadsMember fields m came r came' mid) (second : ReadsMember fields n came' mid came'' next) :
    ∃ seen mid' seen', ReadsMember fields n came r seen mid' ∧ ReadsMember fields m seen mid' seen' next ∧
      came''.Perm seen' := by
  cases first with
  | passed unknown => exact ⟨_, _, _, second, .passed unknown, .refl _⟩
  | @set f _ found new value =>
    cases second with
    | passed unknown => exact ⟨_, _, _, .passed unknown, .set found new value, .refl _⟩
    | @set g _ found' new' value' =>
      have differ : f.name ≠ g.name := fun same => new' (same ▸ List.mem_cons_self)
      have commute := independent.commute (List.mem_of_find?_eq_some found) (List.mem_of_find?_eq_some found')
        fun same => differ (congrArg Field.name same)
      obtain ⟨mid', before, after⟩ := (commute _ _ r next).1 ⟨mid, value, value'⟩
      have old : g.name ∉ came := fun h => new' (List.mem_cons_of_mem _ h)
      have other : f.name ∉ g.name :: came := fun h => (List.mem_cons.1 h).elim differ new
      exact ⟨_, mid', _, .set found' old before, .set found other after, .swap _ _ _⟩

theorem readMembers_congr (perm : came.Perm seen)
    (done : readMembers fields (members.map fun e => (.name e.1, e.2)) came r = .ok (came', next)) :
    ∃ seen', readMembers fields (members.map fun e => (.name e.1, e.2)) seen r = .ok (seen', next) ∧
      came'.Perm seen' := by
  induction members generalizing came seen r with
  | nil =>
    cases done
    exact ⟨seen, rfl, perm⟩
  | cons m members ih =>
    obtain ⟨came₁, mid, reads, rest⟩ := readMembers_cons_iff.1 done
    obtain ⟨seen₁, reads', perm₁⟩ := reads.congr perm
    obtain ⟨seen', rest', perm'⟩ := ih perm₁ rest
    exact ⟨seen', readMembers_cons_iff.2 ⟨seen₁, mid, reads', rest'⟩, perm'⟩

/-- **Members do the same in any order.** -/
theorem Independent.readMembers_perm (independent : Independent fields) (perm : members.Perm members')
    (done : readMembers fields (members.map fun e => (.name e.1, e.2)) came r = .ok (came', next)) :
    ∃ seen', readMembers fields (members'.map fun e => (.name e.1, e.2)) came r = .ok (seen', next) ∧
      came'.Perm seen' := by
  induction perm generalizing came came' r with
  | nil => exact ⟨came', done, .refl _⟩
  | cons m _ ih =>
    obtain ⟨came₁, mid, reads, rest⟩ := readMembers_cons_iff.1 done
    obtain ⟨seen', rest', same⟩ := ih rest
    exact ⟨seen', readMembers_cons_iff.2 ⟨came₁, mid, reads, rest'⟩, same⟩
  | swap m n members =>
    obtain ⟨came₁, mid₁, first, tail⟩ := readMembers_cons_iff.1 done
    obtain ⟨came₂, mid₂, second, rest⟩ := readMembers_cons_iff.1 tail
    obtain ⟨seen₁, mid', seen₂, before, after, same⟩ := first.swap independent second
    obtain ⟨seen', rest', same'⟩ := readMembers_congr same rest
    have tail' := readMembers_cons_iff.2 ⟨seen₂, mid₂, after, rest'⟩
    exact ⟨seen', readMembers_cons_iff.2 ⟨seen₁, mid', before, tail'⟩, same'⟩
  | trans _ _ ih ih' =>
    obtain ⟨seen₁, half, same⟩ := ih done
    obtain ⟨seen', whole, same'⟩ := ih' half
    exact ⟨seen', whole, same.trans same'⟩

/-- **A record is read the same with its members in any order.** -/
theorem Independent.readRecord_perm (independent : Independent fields) (perm : members.Perm members') {title : String}
    {blank : ρ} (done : readRecord title fields blank (.object members) = .ok r) :
    readRecord title fields blank (.object members') = .ok r := by
  obtain ⟨came, all, complete⟩ := readRecord_object_ok done
  obtain ⟨seen, all', same⟩ := independent.readMembers_perm perm all
  refine readRecord_object all' ?_
  rw [← complete]
  congr
  funext f
  rw [same.contains_eq]

/-! ## One of two names -/

/-- The members with one of some name under another name, in any order. -/
def Renamed (x y : String) (members members' : List (String × Value)) : Prop :=
  ∃ v rest, members.Perm ((x, v) :: rest) ∧ members'.Perm ((y, v) :: rest)

theorem Renamed.symm {x y : String} (renamed : Renamed x y members members') : Renamed y x members' members := by
  obtain ⟨v, rest, perm, perm'⟩ := renamed
  exact ⟨v, rest, perm', perm⟩

theorem readMembers_alias {x y : String}
    (same : fields.find? (·.answersTo x) = fields.find? (·.answersTo y)) (v : Value) (rest : List (Key × Value)) :
    readMembers fields ((.name x, v) :: rest) came r = readMembers fields ((.name y, v) :: rest) came r := by
  simp only [readMembers, readKey, bind, Except.bind, same]

/-- **A field is read the same under each name it answers to.** -/
theorem Independent.readRecord_renamed (independent : Independent fields) {x y : String}
    (same : fields.find? (·.answersTo x) = fields.find? (·.answersTo y)) (renamed : Renamed x y members members')
    {title : String} {blank : ρ} (done : readRecord title fields blank (.object members) = .ok r) :
    readRecord title fields blank (.object members') = .ok r := by
  obtain ⟨v, rest, perm, perm'⟩ := renamed
  have head : readRecord title fields blank (.object ((x, v) :: rest)) =
      readRecord title fields blank (.object ((y, v) :: rest)) := by
    simp only [readRecord, Json.Readable.shape, List.map_cons, readMembers_alias same]
  exact independent.readRecord_perm perm'.symm (head ▸ independent.readRecord_perm perm done)

/-- A record as it is, or an object with one of two names in the place of the other, in any order. -/
inductive SameRecord (x y : String) : Value → Value → Prop
  | same (v : Value) : SameRecord x y v v
  | first {members members' : List (String × Value)} (renamed : Renamed x y members members') :
    SameRecord x y (.object members) (.object members')
  | second {members members' : List (String × Value)} (renamed : Renamed y x members members') :
    SameRecord x y (.object members) (.object members')

theorem Independent.readRecord_iff (independent : Independent fields) {x y : String}
    (same : fields.find? (·.answersTo x) = fields.find? (·.answersTo y)) {v w : Value} (record : SameRecord x y v w)
    (title : String) (blank r : ρ) :
    readRecord title fields blank v = .ok r ↔ readRecord title fields blank w = .ok r := by
  cases record with
  | same v => exact .rfl
  | first renamed =>
    exact ⟨independent.readRecord_renamed same renamed, independent.readRecord_renamed same.symm renamed.symm⟩
  | second renamed =>
    exact ⟨independent.readRecord_renamed same.symm renamed, independent.readRecord_renamed same renamed.symm⟩

end Records

namespace Json.Object

variable {o : Object} {x y : String} {v : Value}

theorem put_perm {l : List (String × Value)} (absent : ∀ e ∈ l, e.1 ≠ x) : (put x v l).Perm ((x, v) :: l) := by
  induction l with
  | nil => exact .refl _
  | cons e l ih =>
    obtain ⟨first, others⟩ := List.forall_mem_cons.1 absent
    rw [put, if_neg first.symm]
    split
    · exact .refl _
    · exact ((ih others).cons e).trans (.swap _ _ _)

theorem insert_perm (absent : o.get? x = none) (v : Value) : (o.insert x v).entries.Perm ((x, v) :: o.entries) := by
  refine put_perm fun e he => ?_
  rw [get?, List.lookup_eq_none_iff] at absent
  exact (bne_iff_ne.1 (absent e he)).symm

theorem insert_filter_ne (there : o.get? x = some v) : (o.filter (· != x)).insert x v = o := by
  refine ext_get? fun name => ?_
  rw [get?_insert, get?_filter]
  by_cases same : name = x <;> simp [same, there]

/-- The map with an entry under another name. -/
def rename (o : Object) (x y : String) : Object :=
  match o.get? x with
  | none => o
  | some v => (o.filter (· != x)).insert y v

/-- **The entries with one under another name**, which may well be at another place then. -/
theorem renamed_rename (there : o.get? x = some v) (free : o.get? y = none) :
    Renamed x y o.entries (o.rename x y).entries := by
  have without : (o.filter (· != x)).get? x = none := by simp [get?_filter]
  have without' : (o.filter (· != x)).get? y = none := by simp [get?_filter, free]
  refine ⟨v, (o.filter (· != x)).entries, ?_, ?_⟩
  · have kept := insert_perm without v
    rw [insert_filter_ne there] at kept
    exact kept
  · rw [rename, there]
    exact insert_perm without' v

/-- A map that has at most one of two names is the same record under the other. -/
theorem sameRecord_rename (o : Object) (free : o.get? y = none) : SameRecord x y o.toValue (o.rename x y).toValue := by
  cases there : o.get? x with
  | none =>
    rw [rename, there]
    exact .same _
  | some v => exact .first (renamed_rename there free)

end Json.Object

/-! ## The records of a document -/

theorem NodeRecord.independent : Independent NodeRecord.fields := by
  simp only [Independent, NodeRecord.fields, List.pairwise_cons, List.forall_mem_cons, List.not_mem_nil,
    false_implies, implies_true, List.Pairwise.nil, and_true]
  and_intros <;> exact commute_of_set rfl rfl fun _ _ _ => rfl

theorem Edge.independent : Independent Edge.fields := by
  simp only [Independent, Edge.fields, List.pairwise_cons, List.forall_mem_cons, List.not_mem_nil, false_implies,
    implies_true, List.Pairwise.nil, and_true]
  and_intros <;> exact commute_of_set rfl rfl fun _ _ _ => rfl

theorem readNodeRecord_iff {v w : Value} (record : SameRecord "type" "kind" v w) (r : NodeRecord) :
    readNodeRecord v = .ok r ↔ readNodeRecord w = .ok r :=
  NodeRecord.independent.readRecord_iff (x := "type") (y := "kind") rfl record _ _ r

theorem readEdge_iff {v w : Value} (record : SameRecord "type" "label" v w) (e : Edge) :
    readEdge v = .ok e ↔ readEdge w = .ok e :=
  Edge.independent.readRecord_iff (x := "type") (y := "label") rfl record _ _ e

/-! ## Imports -/

/-- A list of records, each under either of two names; anything else as it is. -/
def SameRecords (x y : String) (v v' : Option Value) : Prop :=
  v' = v ∨ ∃ items items', v = some (.array items) ∧ v' = some (.array items') ∧
    List.Forall₂ (SameRecord x y) items items'

/-- **A document with other names that mean the same**: the tag under its other name or not, and each record under its
other name or not, in any order. -/
structure SameDocument (v v' : Value) : Prop where
  tag : v'.member? "workflow_type" = v.member? "workflow_type" ∧ v'.member? "formatTag" = v.member? "formatTag" ∨
    (v.member? "workflow_type" = none ∨ v.member? "formatTag" = none) ∧
      v'.member? "workflow_type" = v.member? "formatTag" ∧ v'.member? "formatTag" = v.member? "workflow_type"
  nodes : SameRecords "type" "kind" (v.member? "nodes") (v'.member? "nodes")
  connections : SameRecords "type" "label" (v.member? "connections") (v'.member? "connections")
  others : ∀ name, name ∉ ["workflow_type", "formatTag", "nodes", "connections"] → v'.member? name = v.member? name

namespace SameRecords

variable {x y : String} {v v' : Option Value}

theorem items (records : SameRecords x y v v') :
    List.Forall₂ (SameRecord x y) (Import.itemsOf v) (Import.itemsOf v') := by
  rcases records with rfl | ⟨items, items', rfl, rfl, each⟩
  · exact List.forall₂_same.2 fun w _ => .same w
  · exact each

theorem isArray (records : SameRecords x y v v') : Import.isArray v' = Import.isArray v := by
  rcases records with rfl | ⟨items, items', rfl, rfl, -⟩ <;> rfl

end SameRecords

namespace SameDocument

variable {v v' : Value}

theorem formatTag (document : SameDocument v v') : Import.formatTag v' = Import.formatTag v := by
  rcases document.tag with ⟨type, tag⟩ | ⟨one, type, tag⟩
  · rw [Import.formatTag, Import.formatTag, type, tag]
  · rw [Import.formatTag, Import.formatTag, type, tag]
    rcases one with none | none <;> rw [none] <;> cases v.member? _ <;> rfl

theorem isVisual (document : SameDocument v v') : Import.isVisual v' = Import.isVisual v := by
  rw [Import.isVisual, Import.isVisual, document.formatTag, document.nodes.isArray]

theorem versionOf (document : SameDocument v v') : Import.versionOf v' = Import.versionOf v := by
  rw [Import.versionOf, Import.versionOf, document.others "metadata" (by decide)]

end SameDocument

namespace Import

structure Progress.Agree (p q : Progress) : Prop where
  graph : q.graph = p.graph
  entries : q.skipped.map Skipped.entry = p.skipped.map Skipped.entry

section

variable {ρ : Type} {record : RecordKind} {read : Value → Except ReadError ρ} {request : ρ → Request Float}
  {step : Progress → Value × Nat → Progress} {p q : Progress}

/-- **What is read the same is rebuilt the same or left out.** -/
theorem Tolerant.agree (tolerant : Tolerant record read request step) {v w : Value}
    (same : ∀ r, read v = .ok r ↔ read w = .ok r) (agree : p.Agree q) (index : Nat) :
    (step p (v, index)).Agree (step q (w, index)) := by
  obtain ⟨graph, entries⟩ := agree
  rcases tolerant p v index with ⟨r, value, granted, done⟩ | ⟨refused, reason, done⟩
  · rcases tolerant q w index with ⟨r', value', -, done'⟩ | ⟨refused', -⟩
    · obtain rfl := Except.ok.inj (value'.symm.trans ((same r).1 value))
      rw [done, done', graph]
      exact ⟨rfl, entries⟩
    · exact absurd (graph ▸ granted) (refused' r ((same r).1 value))
  · rcases tolerant q w index with ⟨r', value', granted', -⟩ | ⟨-, reason', done'⟩
    · exact absurd (graph ▸ granted') (refused r' ((same r').2 value'))
    · rw [done, done']
      refine ⟨graph, ?_⟩
      simp [Progress.skip, Skipped.entry, ← entries]

theorem Tolerant.foldl_agree (tolerant : Tolerant record read request step) {items items' : List Value}
    (same : List.Forall₂ (fun v w => ∀ r, read v = .ok r ↔ read w = .ok r) items items') (agree : p.Agree q)
    (index : Nat) : ((items.zipIdx index).foldl step p).Agree ((items'.zipIdx index).foldl step q) := by
  induction same generalizing p q index with
  | nil => exact agree
  | cons first _ ih =>
    rw [List.zipIdx_cons, List.zipIdx_cons, List.foldl_cons, List.foldl_cons]
    exact ih (tolerant.agree first agree index) (index + 1)

end

theorem ofValue_of_isVisual {v : Value} (tagged : isVisual v = true) (palette : Palette)
    (placement : PlacementSettings Float) : ofValue palette placement v = .ok (visual palette v) := by
  refine (ofValue_eq_ok_iff ..).2 (.inr ⟨?_, tagged, rfl⟩)
  cases v with
  | object members => exact ⟨members, rfl⟩
  | _ => cases tagged

/-- **Names that mean the same make no difference.**  A visual document whose tag is under its other name, and each of
whose records is under its other name or not, is imported as the same graph, from the same source and without the same
places, whatever else is wrong with it.  Why a place is left out may differ: a reader that refuses a record says what
it met first. -/
theorem aliases_make_no_difference (palette : Palette) (placement : PlacementSettings Float) {v v' : Value}
    (tagged : isVisual v = true) (document : SameDocument v v') :
    ∃ i i', ofValue palette placement v = .ok i ∧ ofValue palette placement v' = .ok i' ∧
      i'.graph = i.graph ∧ i'.source = i.source ∧
      i'.skipped.map Skipped.entry = i.skipped.map Skipped.entry := by
  have nodes := tolerant_node.foldl_agree (document.nodes.items.imp fun _ _ record => readNodeRecord_iff record)
    (p := ⟨.empty palette, []⟩) ⟨rfl, rfl⟩ 0
  have all := tolerant_connection.foldl_agree (document.connections.items.imp fun _ _ record => readEdge_iff record)
    nodes 0
  exact ⟨_, _, ofValue_of_isVisual tagged palette placement,
    ofValue_of_isVisual (document.isVisual.trans tagged) palette placement, all.graph,
    congrArg SourceFormat.visual document.versionOf, all.entries⟩

theorem aliases_make_no_difference_to_skipped_records : ∃ v v' i', isVisual v = true ∧ SameDocument v v' ∧
    ofValue ⟨∅⟩ .standard v' = .ok i' ∧ i'.source = .visual none ∧
    i'.skipped.map Skipped.entry = [(.node, 1), (.node, 2), (.connection, 0)] ∧
    i'.graph.startId = some ⟨"a"⟩ ∧ i'.graph.edges = [⟨⟨"a"⟩, ⟨"b"⟩, .error⟩] := by
  let start : Json.Object := .ofList [("id", .string "a"), ("type", .string "start")]
  let again : Json.Object := .ofList [("id", .string "a"), ("type", .string "click")]
  let click : Json.Object := .ofList [("id", .string "b"), ("type", .string "click")]
  let loop : Json.Object := .ofList [("source", .string "a"), ("target", .string "a"), ("type", .string "error")]
  let edge : Json.Object := .ofList [("source", .string "a"), ("target", .string "b"), ("type", .string "error")]
  let v : Value := .object [("connections", .array [loop.toValue, edge.toValue]),
    ("nodes", .array [start.toValue, .null, again.toValue, click.toValue]), ("workflow_type", .string "visual")]
  let v' : Value := .object [
    ("connections", .array [(loop.rename "type" "label").toValue, (edge.rename "type" "label").toValue]),
    ("formatTag", .string "visual"),
    ("nodes", .array [(start.rename "type" "kind").toValue, .null, again.toValue,
      (click.rename "type" "kind").toValue])]
  have document : SameDocument v v' :=
    { tag := .inr ⟨.inr rfl, rfl, rfl⟩
      nodes := .inr ⟨_, _, rfl, rfl, .cons (start.sameRecord_rename rfl) <| .cons (.same _) <| .cons (.same _) <|
        .cons (click.sameRecord_rename rfl) .nil⟩
      connections := .inr ⟨_, _, rfl, rfl, .cons (loop.sameRecord_rename rfl) <|
        .cons (edge.sameRecord_rename rfl) .nil⟩
      others := fun name other => by
        simp only [List.mem_cons, List.not_mem_nil, or_false, not_or, ← beq_eq_false_iff_ne] at other
        simp [v, v', Value.member?, List.lookup_cons, other] }
  have imported : ofValue ⟨∅⟩ .standard v = .ok (visual ⟨∅⟩ v) := rfl
  obtain ⟨i, i', first, second, graph, source, skipped⟩ :=
    aliases_make_no_difference ⟨∅⟩ .standard (v := v) rfl document
  obtain rfl := Except.ok.inj (imported.symm.trans first)
  refine ⟨v, v', i', rfl, document, second, source, skipped.trans ?_, ?_, ?_⟩
  · decide +kernel
  · rw [graph]
    decide +kernel
  · rw [graph]
    decide +kernel

end Import

end Workflow
