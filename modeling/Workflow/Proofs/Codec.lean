import Workflow.Exchange.Document
/-!
# Reading back what was written

An object is the map of its members, the last of a name winning, so the members of a map give that map again
(`ofList_entries`) and look-ups need no order (`get?_ofList`).  A record is read member by member: `readMembers_field`
is one step of that, and reading back what `write` wrote is as many steps as there are fields.
-/
namespace Workflow

open Json

namespace Json.Object

/-! ## Maps from members -/

theorem put_last {name : String} {v : Value} :
    ∀ {l : List (String × Value)}, (∀ e ∈ l, e.1 < name) → put name v l = l ++ [(name, v)]
  | [], _ => rfl
  | (other, w) :: rest, below => by
    have less : other < name := below _ List.mem_cons_self
    have differs : name ≠ other := fun same => String.lt_irrefl other (same ▸ less)
    have notLess : ¬ name < other := fun more => String.lt_irrefl name (String.lt_trans more less)
    rw [put, if_neg differs, if_neg notLess, put_last fun e he => below e (List.mem_cons_of_mem _ he)]
    rfl

theorem entries_insertAll (l : List (String × Value)) (o : Object)
    (increasing : (o.entries ++ l).Pairwise fun a b => a.1 < b.1) : (o.insertAll l).entries = o.entries ++ l := by
  induction l generalizing o with
  | nil => exact (List.append_nil _).symm
  | cons e l ih =>
    have last : (o.insert e.1 e.2).entries = o.entries ++ [e] :=
      put_last fun other ho => (List.pairwise_append.1 increasing).2.2 other ho e List.mem_cons_self
    have split : o.entries ++ e :: l = (o.insert e.1 e.2).entries ++ l := by
      rw [last, List.append_assoc, List.singleton_append]
    rw [split]
    exact ih (o.insert e.1 e.2) (split ▸ increasing)

/-- **The members of a map give that map again.** -/
@[simp]
theorem ofList_entries (o : Object) : ofList o.entries = o :=
  Object.ext (entries_insertAll o.entries empty o.increasing)

theorem lookup_entry (e : String × Value) (l : List (String × Value)) (name : String) :
    (e :: l).lookup name = if name = e.1 then some e.2 else l.lookup name := by
  rw [List.lookup_cons]
  by_cases same : name = e.1
  · rw [if_pos same, beq_iff_eq.2 same]
  · rw [if_neg same, beq_eq_false_iff_ne.2 same]

theorem lookup_put (name other : String) (v : Value) :
    ∀ l : List (String × Value), (put name v l).lookup other = if other = name then some v else l.lookup other
  | [] => lookup_entry (name, v) [] other
  | (key, w) :: rest => by
    rw [put]
    by_cases same : name = key
    · subst same
      rw [if_pos rfl, lookup_entry, lookup_entry]
      by_cases found : other = name <;> simp [found]
    · rw [if_neg same]
      split
      · rw [lookup_entry]
      · rw [lookup_entry, lookup_entry, lookup_put name other v rest]
        by_cases found : other = key
        · have differs : ¬ key = name := fun h => same h.symm
          simp [found, differs]
        · simp [found]

theorem get?_insert (o : Object) (name other : String) (v : Value) :
    (o.insert name v).get? other = if other = name then some v else o.get? other :=
  lookup_put name other v o.entries

theorem get?_insertAll (l : List (String × Value)) (o : Object) (name : String) :
    (o.insertAll l).get? name = (l.reverse.lookup name).or (o.get? name) := by
  induction l generalizing o with
  | nil => rfl
  | cons e l ih =>
    have step : (o.insertAll (e :: l)).get? name = ((o.insert e.1 e.2).insertAll l).get? name := rfl
    rw [step, ih, get?_insert, List.reverse_cons, List.lookup_append, Option.or_assoc]
    congr 1
    rw [lookup_entry]
    by_cases same : name = e.1
    · rw [if_pos same, if_pos same, Option.some_or]
    · rw [if_neg same, if_neg same]
      rfl

/-- **The last member of a name is the one that is found.** -/
theorem get?_ofList (l : List (String × Value)) (name : String) : (ofList l).get? name = l.reverse.lookup name := by
  rw [ofList, get?_insertAll]
  exact Option.or_none

/-! ## Maps and their look-ups -/

theorem mem_entries_iff (o : Object) (name : String) (v : Value) : (name, v) ∈ o.entries ↔ o.get? name = some v := by
  obtain ⟨entries, increasing⟩ := o
  show _ ↔ entries.lookup name = some v
  induction entries with
  | nil => simp
  | cons e entries ih =>
    obtain ⟨first, rest⟩ := List.pairwise_cons.1 increasing
    rw [lookup_entry, List.mem_cons]
    by_cases same : name = e.1
    · subst same
      have absent : (e.1, v) ∉ entries := fun later => String.lt_irrefl _ (first (e.1, v) later)
      simp [absent, Prod.ext_iff, eq_comm]
    · rw [if_neg same, ← ih rest]
      simp [Prod.ext_iff, same]

/-- **Maps with the same look-ups are equal.** -/
theorem ext_get? {o o' : Object} (same : ∀ name, o.get? name = o'.get? name) : o = o' := by
  have distinct (o : Object) : o.entries.Nodup := o.increasing.imp fun less equal => by
    rw [equal] at less
    exact String.lt_irrefl _ less
  have perm : o.entries.Perm o'.entries := by
    refine (List.perm_ext_iff_of_nodup (distinct o) (distinct o')).2 fun e => ?_
    rw [mem_entries_iff, mem_entries_iff, same]
  refine Object.ext (perm.eq_of_pairwise (fun a b _ _ less more => ?_) o.increasing o'.increasing)
  exact absurd (String.lt_trans less more) (String.lt_irrefl _)

theorem lookup_reverse_entries (o : Object) (name : String) : o.entries.reverse.lookup name = o.get? name := by
  rw [← get?_ofList, ofList_entries]

/-- **A map laid over another** answers first. -/
theorem get?_insertAll_entries (o o' : Object) (name : String) :
    (o.insertAll o'.entries).get? name = (o'.get? name).or (o.get? name) := by
  rw [get?_insertAll, lookup_reverse_entries]

theorem lookup_filter (keep : String → Bool) (l : List (String × Value)) (name : String) :
    (l.filter fun e => keep e.1).lookup name = if keep name then l.lookup name else none := by
  induction l with
  | nil => simp
  | cons e l ih =>
    rw [lookup_entry]
    by_cases kept : keep e.1 = true
    · rw [List.filter_cons, if_pos kept, lookup_entry, ih]
      by_cases same : name = e.1 <;> simp [same, kept]
    · rw [List.filter_cons, if_neg kept, ih]
      by_cases same : name = e.1 <;> simp [same, kept]

theorem get?_filter (o : Object) (keep : String → Bool) (name : String) :
    (o.filter keep).get? name = if keep name then o.get? name else none :=
  lookup_filter keep o.entries name

end Json.Object

theorem member?_sorted (members : List (String × Value)) (name : String) :
    (sorted members).member? name = members.reverse.lookup name :=
  Object.get?_ofList members name

/-! ## Records -/

section Records

variable {ρ : Type} {fields : List (Field Value ρ)}

theorem Field.read_needed {α : Type} {read : Reader Value α} {v : Value} {a : α} (value : read v = .ok a)
    (name : String) (set : ρ → α → ρ) (r : ρ) : (Field.needed name read set).read v r = .ok (set r a) := by
  show (read v).map (set r) = _
  rw [value]
  rfl

theorem Field.read_optional {α : Type} {read : Reader Value α} {v : Value} {a : α} (value : read v = .ok a)
    (name : String) (set : ρ → α → ρ) (r : ρ) : (Field.optional name read set).read v r = .ok (set r a) := by
  show (read v).map (set r) = _
  rw [value]
  rfl

theorem Field.read_alias {field : Field Value ρ} {v : Value} {r next : ρ} (read : field.read v r = .ok next)
    (other : String) : (field.alias other).read v r = .ok next := read

/-- A member that some field answers to sets that field, if it did not come before. -/
theorem readMembers_field {name : String} {field : Field Value ρ} {v : Value} {rest : List (Key × Value)}
    {came : List String} {r next : ρ} (found : fields.find? (·.answersTo name) = some field)
    (new : came.contains field.name = false) (read : field.read v r = .ok next) :
    readMembers fields ((.name name, v) :: rest) came r = readMembers fields rest (field.name :: came) next := by
  rw [readMembers, readKey]
  simp only [bind, Except.bind, found, new, read]
  rfl

theorem readRecord_object {title : String} {blank r : ρ} {members : List (String × Value)} {came : List String}
    (read : readMembers fields (members.map fun e => (Key.name e.1, e.2)) [] blank = .ok (came, r))
    (complete : (fields.find? fun f => f.required && !came.contains f.name) = none) :
    readRecord title fields blank (.object members) = .ok r := by
  simp only [readRecord, Readable.shape, read, bind, Except.bind, complete]
  rfl

end Records

theorem readFloat_ofFloat {x : Float} (finite : x.isFinite = true) : readFloat (Value.ofFloat x) = .ok x := by
  rw [Value.ofFloat, Number.ofFloat?, dif_pos finite]
  rfl

theorem readObject_toValue (o : Object) : readObject o.toValue = .ok o := by
  show Except.ok (Object.ofList o.entries) = _
  rw [Object.ofList_entries]

theorem readNodeId_text (id : NodeId) : readNodeId (Value.string id.text) = .ok id := rfl

/-- Some text names a kind. -/
def Kind.Named (k : Kind) : Prop := ∃ tag, k = ofTag tag

theorem Kind.named_iff (k : Kind) : k.Named ↔ ofTag k.tag = k :=
  ⟨fun ⟨tag, same⟩ => by rw [same, tag_ofTag], fun same => ⟨k.tag, same.symm⟩⟩

instance (k : Kind) : Decidable k.Named := decidable_of_iff _ k.named_iff.symm

theorem readKind_tag {kind : Kind} (named : kind.Named) : readKind (Value.string kind.tag) = .ok kind := by
  rw [← kind.named_iff.1 named, Kind.tag_ofTag]
  rfl

theorem readBool_bool (b : Bool) : readBool (Value.bool b) = .ok b := rfl

def Point.Finite (p : Point Float) : Prop := p.x.isFinite = true ∧ p.y.isFinite = true

instance (p : Point Float) : Decidable p.Finite := inferInstanceAs (Decidable (_ ∧ _))

theorem readPoint_toValue {p : Point Float} (finite : p.Finite) : readPoint p.toValue = .ok p := by
  apply readRecord_object
  · refine (readMembers_field rfl rfl (Field.read_needed (readFloat_ofFloat finite.1) _ _ _)).trans ?_
    exact readMembers_field rfl rfl (Field.read_needed (readFloat_ofFloat finite.2) _ _ _)
  · rfl

theorem write_node (r : NodeRecord) : r.write sorted = .object [("data", r.data.toValue), ("id", .string r.id.text),
    ("isStart", .bool r.isStart), ("position", r.position.toValue), ("type", .string r.kind.tag)] := by
  simp only [NodeRecord.write, sorted, Object.toValue, Object.ofList, Object.insertAll, Object.insert, Object.empty,
    List.foldl_cons, List.foldl_nil, Object.put, String.reduceEq, String.reduceLT, if_true, if_false]

/-- **A node that was written is read back.** -/
theorem readNodeRecord_write {r : NodeRecord} (named : r.kind.Named) (finite : r.position.Finite) :
    readNodeRecord (r.write sorted) = .ok r := by
  rw [write_node]
  apply readRecord_object
  · refine (readMembers_field rfl rfl (Field.read_optional (readObject_toValue r.data) _ _ _)).trans ?_
    refine (readMembers_field rfl rfl (Field.read_needed (readNodeId_text r.id) _ _ _)).trans ?_
    refine (readMembers_field rfl rfl (Field.read_optional (readBool_bool r.isStart) _ _ _)).trans ?_
    refine (readMembers_field rfl rfl (Field.read_optional (readPoint_toValue finite) _ _ _)).trans ?_
    exact readMembers_field rfl rfl (Field.read_alias (Field.read_needed (readKind_tag named) _ _ _) _)
  · rfl

theorem write_edge (e : Edge) : e.write sorted = .object [("source", .string e.source.text),
    ("target", .string e.target.text), ("type", .string e.outcome.name)] := by
  simp only [Edge.write, sorted, Object.toValue, Object.ofList, Object.insertAll, Object.insert, Object.empty,
    List.foldl_cons, List.foldl_nil, Object.put, String.reduceEq, String.reduceLT, if_false]

theorem readOutcome_name (outcome : Outcome) :
    readVariant Outcome.named none (Value.string outcome.name) = .ok outcome := by
  cases outcome <;> rfl

/-- **A connection that was written is read back.** -/
theorem readEdge_write (e : Edge) : readEdge (e.write sorted) = .ok e := by
  rw [write_edge]
  apply readRecord_object
  · refine (readMembers_field rfl rfl (Field.read_needed (readNodeId_text e.source) _ _ _)).trans ?_
    refine (readMembers_field rfl rfl (Field.read_needed (readNodeId_text e.target) _ _ _)).trans ?_
    exact readMembers_field rfl rfl (Field.read_alias (Field.read_needed (readOutcome_name e.outcome) _ _ _) _)
  · rfl

end Workflow
