import Workflow.Proofs.Doubles
import Workflow.Proofs.Strictness
/-!
# Reading documents back

A document that was written has its members at their places in the order of names, with a gap for each that there was
nothing to write of; reading goes through them member by member, as for the records in it, and a gap leaves the field as
blank as it was (`readMembers_optionalMember`).  Only a double that is not finite is lost, for it is written as null,
and the kind that no text names.  No value holds either, so no document that was read does: that is one law of records
(`yields_record`), whichever way they are written.
-/
namespace Workflow

open Json

/-! ## Lists, options and members that may be missing -/

section Readers

variable {α : Type} {read : Reader Value α} {write : α → Value}

theorem readItems_map {l : List α} (each : ∀ a ∈ l, read (write a) = .ok a) : readItems read (l.map write) = .ok l := by
  induction l with
  | nil => rfl
  | cons a l ih =>
    obtain ⟨first, rest⟩ := List.forall_mem_cons.1 each
    rw [List.map_cons, readItems, first, ih rest]
    rfl

/-- **A list that was written is read back** if each of its items is. -/
theorem readList_map {l : List α} (each : ∀ a ∈ l, read (write a) = .ok a) :
    readList read (.array (l.map write)) = .ok l := by
  simp only [readList, Readable.shape, readItems_map each]
  rfl

theorem readOption_some {v : Value} {a : α} (value : read v = .ok a) (something : v ≠ .null) :
    readOption read v = .ok (some a) := by
  cases v with
  | null => exact absurd rfl something
  | _ => exact congrArg (Except.map some) value

/-- Something or null is read back. -/
theorem readOption_orNull {o : Option α} (something : ∀ a, write a ≠ .null) (each : ∀ a ∈ o, read (write a) = .ok a) :
    readOption read (orNull o write) = .ok o :=
  match o with
  | none => rfl
  | some a => readOption_some (each a rfl) (something a)

variable {ρ : Type} {fields : List (Field Value ρ)} {set : ρ → Option α → ρ}

/-- A member that is only written if there is something to write sets its field, which is blank without it. -/
theorem readMembers_optionalMember {name : String} {o : Option α} {rest : List (String × Value)} {came : List String}
    {r : ρ} (found : fields.find? (·.answersTo name) = some (.optional name (readOption read) set))
    (new : came.contains name = false) (blank : set r none = r) (something : ∀ a, write a ≠ .null)
    (each : ∀ a ∈ o, read (write a) = .ok a) :
    readMembers fields ((optionalMember name o write ++ rest).map fun e => (Key.name e.1, e.2)) came r =
      readMembers fields (rest.map fun e => (Key.name e.1, e.2)) (if o.isSome then name :: came else came) (set r o) :=
  match o with
  | none => by
    rw [blank]
    rfl
  | some a => readMembers_field found new (Field.read_optional (readOption_some (each a rfl) (something a)) _ _ _)

end Readers

/-! ## Records that were written -/

theorem readString_string (s : String) : readString (Value.string s) = .ok s := rfl

theorem readWord_ofWord (wanted : String) (n : UInt64) : readWord wanted (Value.ofWord n) = .ok n := by
  simp only [readWord, Value.ofWord, Number.ofWord, Readable.shape, if_pos (Int.natCast_nonneg n.toNat),
    Int.toNat_natCast, UInt64.ofNat_toNat]

theorem readMode_name (mode : Mode) : readVariant Mode.named none (Value.string mode.name) = .ok mode := by
  cases mode <;> rfl

theorem write_metadata {m : Metadata} (timeless : m.created = none) : m.write sorted = .object
    ([("connectionCount", .ofWord m.connectionCount)] ++
      (optionalMember "mode" m.mode (fun mode => .string mode.name) ++
      ([("nodeCount", .ofWord m.nodeCount)] ++ (optionalMember "version" m.version .string ++ [])))) := by
  obtain ⟨created, nodeCount, connectionCount, version, mode⟩ := m
  obtain rfl : created = none := timeless
  cases version <;> cases mode <;>
    simp only [Metadata.write, optionalMember, sorted, Object.toValue, Object.ofList, Object.insertAll, Object.insert,
      Object.empty, List.foldl_cons, List.foldl_nil, Object.put, String.reduceEq, String.reduceLT, if_true, if_false,
      List.nil_append, List.cons_append, List.append_nil]

/-- **Metadata that were written are read back**, if they tell no moment. -/
theorem readMetadata_write {m : Metadata} (timeless : m.created = none) : readMetadata (m.write sorted) = .ok m := by
  rw [write_metadata timeless]
  obtain ⟨created, nodeCount, connectionCount, version, mode⟩ := m
  obtain rfl : created = none := timeless
  apply readRecord_object
  · refine (readMembers_field rfl rfl (Field.read_optional (readWord_ofWord _ _) _ _ _)).trans ?_
    refine (readMembers_optionalMember rfl rfl rfl (fun _ => Value.noConfusion) fun m _ => readMode_name m).trans ?_
    refine (readMembers_field rfl ?_ (Field.read_optional (readWord_ofWord _ _) _ _ _)).trans ?_
    · cases mode <;> rfl
    refine (readMembers_optionalMember rfl ?_ rfl (fun _ => Value.noConfusion) fun s _ => readString_string s).trans ?_
    · cases mode <;> rfl
    rfl
  · rfl

theorem toValue_document (d : Document) : d.toValue = .object
    ([("connections", .array (d.connections.map (·.write sorted)))] ++
      (optionalMember "metadata" d.metadata (·.write sorted) ++
        [("nodes", .array (d.nodes.map (·.write sorted))), ("startNode", orNull d.startNode fun id => .string id.text),
          ("workflow_type", .string d.format)])) := by
  obtain ⟨format, nodes, connections, startNode, metadata⟩ := d
  cases metadata <;>
    simp only [Document.toValue, Document.write, optionalMember, sorted, Object.toValue, Object.ofList,
      Object.insertAll, Object.insert, Object.empty, List.foldl_cons, List.foldl_nil, Object.put, String.reduceEq,
      String.reduceLT, if_true, if_false, List.nil_append, List.cons_append, List.append_nil]

theorem write_metadata_ne_null (m : Metadata) : m.write sorted ≠ .null :=
  Value.noConfusion

/-- **A document that was written is read back**, if texts name its kinds, its positions are finite and it tells no
moment. -/
theorem readDocument_toValue {d : Document} (records : ∀ r ∈ d.nodes, r.kind.Named ∧ r.position.Finite)
    (timeless : d.metadata.bind (·.created) = none) : readDocument d.toValue = .ok d := by
  rw [toValue_document]
  obtain ⟨format, nodes, connections, startNode, metadata⟩ := d
  have placed : readList readNodeRecord (Value.array (nodes.map (·.write sorted))) = .ok nodes :=
    readList_map fun r listed => readNodeRecord_write (records r listed).1 (records r listed).2
  have edges : readList readEdge (Value.array (connections.map (·.write sorted))) = .ok connections :=
    readList_map fun e _ => readEdge_write e
  have start : readOption readNodeId (orNull startNode fun id => Value.string id.text) = .ok startNode :=
    readOption_orNull (fun _ => Value.noConfusion) fun id _ => readNodeId_text id
  have told : ∀ m ∈ metadata, readMetadata (m.write sorted) = .ok m := by
    rintro m rfl
    exact readMetadata_write timeless
  apply readRecord_object
  · refine (readMembers_field rfl rfl (Field.read_optional edges _ _ _)).trans ?_
    refine (readMembers_optionalMember rfl rfl rfl write_metadata_ne_null told).trans ?_
    refine (readMembers_field rfl ?_ (Field.read_needed placed _ _ _)).trans ?_
    · cases metadata <;> rfl
    refine (readMembers_field rfl ?_ (Field.read_optional start _ _ _)).trans ?_
    · cases metadata <;> rfl
    refine (readMembers_field rfl ?_ (Field.read_alias (Field.read_needed (readString_string _) _ _ _) _)).trans ?_
    · cases metadata <;> rfl
    rfl
  · rfl

/-! ## What every reading yields -/

/-- Whatever is read has a property. -/
def Yields {α : Type} (read : Reader Value α) (P : α → Prop) : Prop :=
  ∀ v a, read v = .ok a → P a

/-- Every field that is read keeps a property of the record. -/
def Keeps {ρ : Type} (fields : List (Field Value ρ)) (P : ρ → Prop) : Prop :=
  ∀ field ∈ fields, ∀ v r next, field.read v r = .ok next → P r → P next

section Records

variable {α ρ : Type} {read : Reader Value α} {P : α → Prop} {fields : List (Field Value ρ)} {Q : ρ → Prop}

theorem readMembers_keeps (keeps : Keeps fields Q) {members : List (String × Value)} {came came' : List String}
    {r next : ρ} (done : readMembers fields (members.map fun e => (.name e.1, e.2)) came r = .ok (came', next))
    (start : Q r) :
    Q next := by
  induction members generalizing came r with
  | nil =>
    cases done
    exact start
  | cons m members ih =>
    rcases readMembers_cons done with ⟨-, rest⟩ | ⟨field, listed, mid, -, -, value, rest⟩
    · exact ih rest start
    · exact ih rest (keeps field listed m.2 r mid value start)

theorem readPositions_keeps (keeps : Keeps fields Q) {wanted : String} {items rest : List Value} {n : Nat}
    {r next : ρ} (done : readPositions wanted .closed fields items n r = .ok (next, rest)) (start : Q r) : Q next := by
  induction fields generalizing items n r with
  | nil =>
    cases done
    exact start
  | cons field fields ih =>
    obtain ⟨head, tail⟩ := List.forall_mem_cons.1 keeps
    cases items with
    | nil =>
      simp only [readPositions, bind, Except.bind, refuse, Ending.listFault?] at done
      split at done
      · cases done
      · exact ih tail done start
    | cons v items =>
      simp only [readPositions, bind, Except.bind] at done
      split at done
      · cases done
      · next mid value => exact ih tail done (head v r mid value start)

/-- **A record has what its fields keep**, be it read of an object or of a list. -/
theorem yields_record (keeps : Keeps fields Q) {title : String} {blank : ρ} (start : Q blank) :
    Yields (readRecord title fields blank) Q := by
  intro v r done
  cases v with
  | array items =>
    simp only [readRecord, Readable.shape, bind, Except.bind] at done
    split at done
    · cases done
    · next result all =>
      obtain ⟨next, rest⟩ := result
      have same : next = r := by
        cases rest <;> cases done
        rfl
      exact same ▸ readPositions_keeps keeps all start
  | object members =>
    obtain ⟨came, all, -⟩ := readRecord_object_ok done
    exact readMembers_keeps keeps all start
  | _ => cases done

/-- What a reader yields, the field that it reads keeps. -/
theorem Yields.keeps (yields : Yields read P) {name : String} {get : ρ → α} (reads : Reads fields name read get) :
    Keeps fields fun r => P (get r) := by
  intro field listed v r next value old
  have set := reads field listed v r next value
  split at set
  · exact yields v (get next) set
  · exact set ▸ old

theorem Yields.items (yields : Yields read P) {items : List Value} {l : List α} (done : readItems read items = .ok l) :
    ∀ a ∈ l, P a := by
  induction items generalizing l with
  | nil =>
    cases done
    exact fun _ listed => absurd listed List.not_mem_nil
  | cons v items ih =>
    obtain ⟨a, rest, rfl, value, done⟩ := readItems_cons done
    exact List.forall_mem_cons.2 ⟨yields v a value, ih done⟩

theorem Yields.list (yields : Yields read P) : Yields (readList read) fun l => ∀ a ∈ l, P a := by
  intro v l done
  obtain ⟨items, rfl, records⟩ := readList_ok done
  exact yields.items records

end Records

theorem yields_float : Yields readFloat (·.isFinite = true) := by
  intro v x read
  cases v with
  | number n =>
    cases n with
    | int i fits =>
      cases read
      exact isFinite_floatOfInt i
    | float y finite =>
      cases read
      exact finite
  | _ => cases read

theorem yields_kind : Yields readKind Kind.Named := by
  intro v kind read
  cases v with
  | string tag =>
    cases read
    exact ⟨tag, rfl⟩
  | _ => cases read

theorem Point.reads_x : Reads Point.fields "x" readFloat (·.x) := by
  simp [Reads, Point.fields, Field.needed, except_map_ok]

theorem Point.reads_y : Reads Point.fields "y" readFloat (·.y) := by
  simp [Reads, Point.fields, Field.needed, except_map_ok]

theorem yields_point : Yields readPoint Point.Finite := fun v p read =>
  ⟨yields_record (yields_float.keeps Point.reads_x) (by decide +kernel) v p read,
    yields_record (yields_float.keeps Point.reads_y) (by decide +kernel) v p read⟩

theorem NodeRecord.reads_position : Reads NodeRecord.fields "position" readPoint (·.position) := by
  simp [Reads, NodeRecord.fields, Field.needed, Field.optional, Field.alias, except_map_ok, -Bool.exists_bool,
    -Bool.forall_bool]

theorem NodeRecord.reads_kind : Reads NodeRecord.fields "type" readKind (·.kind) := by
  simp [Reads, NodeRecord.fields, Field.needed, Field.optional, Field.alias, except_map_ok, -Bool.exists_bool,
    -Bool.forall_bool]

theorem yields_nodeRecord : Yields readNodeRecord fun r => r.kind.Named ∧ r.position.Finite := fun v r read =>
  ⟨yields_record (yields_kind.keeps NodeRecord.reads_kind) (by decide +kernel) v r read,
    yields_record (yields_point.keeps NodeRecord.reads_position) (by decide +kernel) v r read⟩

/-- **A document that is read has finite positions**, and kinds that texts name. -/
theorem yields_document : Yields readDocument fun d => ∀ r ∈ d.nodes, r.kind.Named ∧ r.position.Finite :=
  yields_record (yields_nodeRecord.list.keeps Document.reads_nodes) fun _ listed => absurd listed List.not_mem_nil

/-! ## Documents -/

/-- **Documents are read back.**  Whatever document is written, if texts name its kinds, its positions are finite and it
does not tell when it was created, reading what was written gives the document again.  Hence whatever value a document
is read of, once such a document is written it is read as the same: writing what was read is a normal form. -/
theorem Document.read_back :
    (∀ d : Document, (∀ r ∈ d.nodes, r.kind.Named ∧ r.position.Finite) → d.metadata.bind (·.created) = none →
      readDocument d.toValue = .ok d) ∧
    ∀ (v : Value) (d : Document), readDocument v = .ok d → d.metadata.bind (·.created) = none →
      readDocument d.toValue = .ok d :=
  ⟨fun _ records timeless => readDocument_toValue records timeless,
    fun v d read timeless => readDocument_toValue (yields_document v d read) timeless⟩

theorem Document.read_back_of_lists_and_aliases : ∃ (v : Value) (d : Document), readDocument v = .ok d ∧
    d.nodes.map (fun r => (r.id.text, r.kind, r.isStart)) = [("a", .start, true), ("b", .action "click", false)] ∧
    d.metadata = some { mode := some .edit } ∧ readDocument d.toValue = .ok d ∧
    readDocument { d with metadata := none }.toValue = .ok { d with metadata := none } := by
  let v : Value := .object [("formatTag", .string "draft"),
    ("nodes", .array [
      .array [.string "a", .string "start", .array [.number (.int (-40) (by decide)), .ofFloat 0.5], .object [],
        .bool true],
      .object [("kind", .string "click"), ("note", .null), ("id", .string "b")]]),
    ("connections", .array [.array [.string "a", .string "b", .string "error"]]),
    ("metadata", .object [("version", .null), ("mode", .string "edit")])]
  let d : Document :=
    { format := "draft"
      nodes := [{ id := ⟨"a"⟩, kind := .start, position := ⟨floatOfInt (-40), 0.5⟩, isStart := true },
        { id := ⟨"b"⟩, kind := .action "click" }]
      connections := [⟨⟨"a"⟩, ⟨"b"⟩, .error⟩]
      metadata := some { mode := some .edit } }
  have read : readDocument v = .ok d := rfl
  have records : ∀ r ∈ d.nodes, r.kind.Named ∧ r.position.Finite := by decide +kernel
  exact ⟨v, d, read, rfl, rfl, Document.read_back.2 v d read rfl,
    Document.read_back.1 { d with metadata := none } records rfl⟩

end Workflow
