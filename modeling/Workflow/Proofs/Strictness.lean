import Workflow.Proofs.Reordering
/-!
# Strict and tolerant reading

A document is read in two ways: strictly, as a record whose fields are set by the members of an object, and tolerantly,
by looking up the members an import needs.  The bridge is one law of records (`readRecord_reads`): the members that a
field answers to are one at most, and the record has of that member what the field reads.  A strictly read document
therefore holds what an import looks up, every record of it is read, and what an import then leaves out is what the
store refuses.
-/
namespace Workflow

open Json (Field Object Key ReadError Reader Value)
open Json (readItems readKey readList readMembers readOption readRecord readString)
open Workflow.Graph (Request)

/-! ## Readers -/

theorem except_map_ok {ε α β : Type} {x : Except ε α} {f : α → β} {b : β} :
    x.map f = .ok b ↔ ∃ a, x = .ok a ∧ f a = b := by
  cases x <;> simp [Except.map]

section Readers

variable {α : Type} {read : Reader Value α} {v : Value}

theorem readString_ok {s : String} (read : readString v = .ok s) : v = .string s := by
  cases v <;> cases read
  rfl

theorem readList_ok {l : List α} (done : readList read v = .ok l) :
    ∃ items, v = .array items ∧ readItems read items = .ok l := by
  cases v with
  | array items =>
    refine ⟨items, rfl, ?_⟩
    have same : readList read (.array items) = readItems read items := by
      simp only [readList, Json.Readable.shape, bind, Except.bind]
      cases readItems read items <;> rfl
    rwa [same] at done
  | _ => cases done

theorem readOption_ok {o : Option α} (done : readOption read v = .ok o) :
    v = .null ∧ o = none ∨ ∃ a, read v = .ok a ∧ o = some a := by
  cases v with
  | null =>
    cases done
    exact .inl ⟨rfl, rfl⟩
  | _ =>
    obtain ⟨a, value, same⟩ := except_map_ok.1 done
    exact .inr ⟨a, value, same.symm⟩

theorem readItems_cons {items : List Value} {records : List α}
    (all : readItems read (v :: items) = .ok records) :
    ∃ r rest, records = r :: rest ∧ read v = .ok r ∧ readItems read items = .ok rest := by
  simp only [readItems, bind, Except.bind] at all
  cases value : read v with
  | error e =>
    rw [value] at all
    cases all
  | ok r =>
    cases others : readItems read items with
    | error e =>
      simp only [value, others] at all
      cases all
    | ok rest =>
      simp only [value, others] at all
      exact ⟨r, rest, (Except.ok.inj all).symm, rfl, rfl⟩

end Readers

/-! ## Records -/

section Records

variable {α ρ : Type} {fields : List (Field Value ρ)} {name : String} {read : Reader Value α} {get : ρ → α}

/-- The name of the field that answers to a name. -/
def fieldOf (fields : List (Field Value ρ)) (name : String) : Option String :=
  (fields.find? (·.answersTo name)).map (·.name)

def membersOf (fields : List (Field Value ρ)) (name : String) (members : List (String × Value)) :
    List (String × Value) :=
  members.filter fun m => fieldOf fields m.1 = some name

/-- **What a record has of a field**: the field of that name sets it to what is read, and no other field changes it. -/
def Reads (fields : List (Field Value ρ)) (name : String) (read : Reader Value α) (get : ρ → α) : Prop :=
  ∀ field ∈ fields, ∀ v r next, field.read v r = .ok next →
    if field.name = name then read v = .ok (get next) else get next = get r

/-- What one member does to a record: nothing if no field answers to its name, and else it sets that field, which must
not have come. -/
inductive ReadsMember (fields : List (Field Value ρ)) (m : String × Value) (came : List String) (r : ρ) :
    List String → ρ → Prop
  | passed (unknown : fields.find? (·.answersTo m.1) = none) : ReadsMember fields m came r came r
  | set {field : Field Value ρ} {next : ρ} (found : fields.find? (·.answersTo m.1) = some field)
    (new : field.name ∉ came) (value : field.read m.2 r = .ok next) :
    ReadsMember fields m came r (field.name :: came) next

/-- **Members are read one after the other.** -/
theorem readMembers_cons_iff {m : String × Value} {rest : List (Key × Value)} {came : List String} {r : ρ}
    {done : List String × ρ} : readMembers fields ((.name m.1, m.2) :: rest) came r = .ok done ↔
      ∃ came' mid, ReadsMember fields m came r came' mid ∧ readMembers fields rest came' mid = .ok done := by
  constructor
  · intro read
    simp only [readMembers, readKey, bind, Except.bind] at read
    cases found : fields.find? (·.answersTo m.1) with
    | none =>
      simp only [found] at read
      exact ⟨came, r, .passed found, read⟩
    | some field =>
      simp only [found] at read
      by_cases repeated : came.contains field.name = true
      · rw [if_pos repeated] at read
        cases read
      · rw [if_neg repeated] at read
        rw [List.contains_iff_mem] at repeated
        cases value : field.read m.2 r with
        | error e =>
          simp only [value] at read
          cases read
        | ok mid =>
          simp only [value] at read
          exact ⟨_, mid, .set found repeated value, read⟩
  · rintro ⟨came', mid, reads, tail⟩
    cases reads with
    | passed unknown =>
      simp only [readMembers, readKey, bind, Except.bind, unknown]
      exact tail
    | set found new value => exact (readMembers_field found (by simpa using new) value).trans tail

/-- One member sets the field that answers to its name, which must not have come, or is passed over. -/
theorem readMembers_cons {n : String} {v : Value} {rest : List (Key × Value)} {came came' : List String} {r next : ρ}
    (done : readMembers fields ((.name n, v) :: rest) came r = .ok (came', next)) :
    fieldOf fields n = none ∧ readMembers fields rest came r = .ok (came', next) ∨
      ∃ field ∈ fields, ∃ mid, fieldOf fields n = some field.name ∧ field.name ∉ came ∧ field.read v r = .ok mid ∧
        readMembers fields rest (field.name :: came) mid = .ok (came', next) := by
  obtain ⟨_, mid, reads, tail⟩ := (readMembers_cons_iff (m := (n, v))).1 done
  cases reads with
  | passed unknown => exact .inl ⟨congrArg (Option.map _) unknown, tail⟩
  | @set field _ found new value =>
    exact .inr ⟨field, List.mem_of_find?_eq_some found, mid, congrArg (Option.map _) found, new, value, tail⟩

theorem membersOf_cons (fields : List (Field Value ρ)) (name : String) (m : String × Value)
    (members : List (String × Value)) : membersOf fields name (m :: members) =
      if fieldOf fields m.1 = some name then m :: membersOf fields name members else membersOf fields name members := by
  rw [membersOf, List.filter_cons]
  simp only [decide_eq_true_eq]
  rfl

theorem readMembers_reads (reads : Reads fields name read get) {members : List (String × Value)}
    {came came' : List String} {r next : ρ}
    (done : readMembers fields (members.map fun e => (.name e.1, e.2)) came r = .ok (came', next)) :
    membersOf fields name members = [] ∧ get next = get r ∧ (name ∈ came' ↔ name ∈ came) ∨
      ∃ m, membersOf fields name members = [m] ∧ name ∉ came ∧ read m.2 = .ok (get next) := by
  induction members generalizing came r with
  | nil =>
    cases done
    exact .inl ⟨rfl, rfl, .rfl⟩
  | cons m members ih =>
    rw [membersOf_cons]
    rcases readMembers_cons done with ⟨unknown, rest⟩ | ⟨field, listed, mid, known, new, value, rest⟩
    · rw [unknown, if_neg (by simp)]
      exact ih rest
    · have set := reads field listed m.2 r mid value
      rw [known]
      by_cases same : field.name = name
      · rw [if_pos same] at set
        rw [if_pos (congrArg some same)]
        -- the field has come, so no later member is its own
        rcases ih rest with ⟨none, kept, -⟩ | ⟨-, -, missing, -⟩
        · exact .inr ⟨m, by rw [none], same ▸ new, kept ▸ set⟩
        · exact absurd (same ▸ List.mem_cons_self) missing
      · rw [if_neg same] at set
        rw [if_neg fun h => same (Option.some.inj h)]
        have other : name ≠ field.name := fun h => same h.symm
        rcases ih rest with ⟨none, kept, came_iff⟩ | ⟨m', one, missing, value'⟩
        · exact .inl ⟨none, kept.trans set, came_iff.trans (by simp [other])⟩
        · exact .inr ⟨m', one, fun h => missing (List.mem_cons_of_mem _ h), value'⟩

/-- A record that is read of an object has the fields that the members set, and every needed field has come. -/
theorem readRecord_object_ok {title : String} {blank r : ρ} {members : List (String × Value)}
    (done : readRecord title fields blank (.object members) = .ok r) :
    ∃ came, readMembers fields (members.map fun e => (.name e.1, e.2)) [] blank = .ok (came, r) ∧
      (fields.find? fun f => f.required && !came.contains f.name) = none := by
  simp only [readRecord, Json.Readable.shape, bind, Except.bind] at done
  cases all : readMembers fields (members.map fun e => (.name e.1, e.2)) [] blank with
  | error e =>
    rw [all] at done
    cases done
  | ok result =>
    obtain ⟨came, next⟩ := result
    simp only [all] at done
    cases missing : fields.find? fun f => f.required && !came.contains f.name with
    | some f =>
      simp only [missing] at done
      cases done
    | none =>
      simp only [missing] at done
      cases done
      exact ⟨came, rfl, missing⟩

/-- **What a record holds was written in one member at most.** -/
theorem readRecord_reads (reads : Reads fields name read get) {title : String} {blank r : ρ}
    {members : List (String × Value)} (done : readRecord title fields blank (.object members) = .ok r) :
    membersOf fields name members = [] ∧ get r = get blank ∧
      (∀ field ∈ fields, field.name = name → field.required = false) ∨
      ∃ m, membersOf fields name members = [m] ∧ read m.2 = .ok (get r) := by
  obtain ⟨came, all, missing⟩ := readRecord_object_ok done
  rcases readMembers_reads reads all with ⟨none, kept, came_iff⟩ | ⟨m, one, -, value⟩
  -- a needed field that had not come would have been reported
  · refine .inl ⟨none, kept, fun field listed same => ?_⟩
    have unneeded := List.find?_eq_none.1 missing field listed
    have absent : field.name ∉ came := same ▸ fun h => List.not_mem_nil (came_iff.1 h)
    simpa [absent] using unneeded
  · exact .inr ⟨m, one, value⟩

theorem lookup_membersOf {n : String} (known : fieldOf fields n = some name) (members : List (String × Value)) :
    (membersOf fields name members).lookup n = members.lookup n := by
  induction members with
  | nil => rfl
  | cons m members ih =>
    rw [membersOf_cons, Object.lookup_entry]
    split
    · rw [Object.lookup_entry, ih]
    · next other =>
      have differs : n ≠ m.1 := fun same => other (same ▸ known)
      rw [if_neg differs, ih]

theorem eq_or_mem_of_fieldOf {aliases : List String}
    (also : ∀ field ∈ fields, field.name = name → field.aliases = aliases) {n : String}
    (known : fieldOf fields n = some name) : n = name ∨ n ∈ aliases := by
  obtain ⟨field, found, same⟩ := Option.map_eq_some_iff.1 known
  have answers : field.answersTo n = true := List.find?_some (p := fun f : Field Value ρ => f.answersTo n) found
  rw [Field.answersTo, also field (List.mem_of_find?_eq_some found) same, same, Bool.or_eq_true, beq_iff_eq,
    List.contains_iff_mem] at answers
  exact answers

/-- **A field of one name is looked up under it.** -/
theorem lookup_of_reads (reads : Reads fields name read get) (known : fieldOf fields name = some name)
    (plain : ∀ field ∈ fields, field.name = name → field.aliases = []) {title : String} {blank r : ρ}
    {members : List (String × Value)} (done : readRecord title fields blank (.object members) = .ok r) :
    members.lookup name = none ∧ get r = get blank ∧
      (∀ field ∈ fields, field.name = name → field.required = false) ∨
      ∃ v, members.lookup name = some v ∧ read v = .ok (get r) := by
  rw [← lookup_membersOf known]
  rcases readRecord_reads reads done with ⟨none, kept, unneeded⟩ | ⟨m, one, value⟩
  · exact .inl ⟨by rw [none]; rfl, kept, unneeded⟩
  · have listed : m ∈ membersOf fields name members := one ▸ List.mem_singleton_self m
    have named : m.1 = name :=
      (eq_or_mem_of_fieldOf plain (of_decide_eq_true (List.mem_filter.1 listed).2)).resolve_right List.not_mem_nil
    exact .inr ⟨m.2, by rw [one, Object.lookup_entry, if_pos named.symm], value⟩

end Records

/-! ## Documents -/

namespace Document

variable {members : List (String × Value)} {d : Document}

theorem reads_format : Reads Document.fields "workflow_type" readString (·.format) := by
  simp [Reads, Document.fields, Field.needed, Field.optional, Field.alias, except_map_ok]

theorem reads_nodes : Reads Document.fields "nodes" (readList readNodeRecord) (·.nodes) := by
  simp [Reads, Document.fields, Field.needed, Field.optional, Field.alias, except_map_ok]

theorem reads_connections : Reads Document.fields "connections" (readList readEdge) (·.connections) := by
  simp [Reads, Document.fields, Field.needed, Field.optional, Field.alias, except_map_ok]

theorem reads_metadata : Reads Document.fields "metadata" (readOption readMetadata) (·.metadata) := by
  simp [Reads, Document.fields, Field.needed, Field.optional, Field.alias, except_map_ok]

/-- **A strictly read document is tagged with its format**, under one of two names. -/
theorem formatTag_of_read (read : readDocument (Value.object members) = .ok d) :
    Import.formatTag (.object members) = some d.format := by
  rcases readRecord_reads reads_format read with ⟨-, -, unneeded⟩ | ⟨m, one, value⟩
  · simp [Document.fields, Field.needed, Field.optional, Field.alias] at unneeded
  have listed : m ∈ membersOf Document.fields "workflow_type" members := one ▸ List.mem_singleton_self m
  have also : ∀ field ∈ (Document.fields : List (Field Value Document)), field.name = "workflow_type" →
      field.aliases = ["formatTag"] := by
    simp [Document.fields, Field.needed, Field.optional, Field.alias]
  have lookup {n : String} (known : fieldOf Document.fields n = some "workflow_type") :
      (Value.object members).member? n = if n = m.1 then some (.string d.format) else none := by
    show members.lookup n = _
    rw [← lookup_membersOf known, one, Object.lookup_entry, readString_ok value]
    rfl
  -- one member answers to both names, so just one of the two look-ups finds it
  rw [Import.formatTag_eq_some_iff, lookup rfl, lookup rfl]
  rcases eq_or_mem_of_fieldOf also (of_decide_eq_true (List.mem_filter.1 listed).2) with named | named
  · exact .inl (by rw [named, if_pos rfl])
  · rw [List.mem_singleton] at named
    exact .inr (by simp [named])

theorem nodes_of_read (read : readDocument (Value.object members) = .ok d) : ∃ items,
    (Value.object members).member? "nodes" = some (.array items) ∧ readItems readNodeRecord items = .ok d.nodes := by
  rcases lookup_of_reads reads_nodes rfl (by simp [Document.fields, Field.needed, Field.optional, Field.alias]) read
    with ⟨-, -, unneeded⟩ | ⟨v, found, value⟩
  · simp [Document.fields, Field.needed, Field.optional, Field.alias] at unneeded
  · obtain ⟨items, rfl, records⟩ := readList_ok value
    exact ⟨items, found, records⟩

theorem connections_of_read (read : readDocument (Value.object members) = .ok d) :
    readItems readEdge (Import.itemsOf ((Value.object members).member? "connections")) = .ok d.connections := by
  show readItems readEdge (Import.itemsOf (members.lookup "connections")) = _
  have plain : ∀ field ∈ Document.fields (σ := Value), field.name = "connections" → field.aliases = [] := by
    simp [Document.fields, Field.needed, Field.optional, Field.alias]
  rcases lookup_of_reads reads_connections rfl plain read with ⟨none, blank, -⟩ | ⟨v, found, value⟩
  · rw [none, blank]
    rfl
  · obtain ⟨items, rfl, records⟩ := readList_ok value
    rw [found]
    exact records

end Document

theorem Metadata.reads_version : Reads Metadata.fields "version" (readOption readString) (·.version) := by
  simp [Reads, Metadata.fields, Field.optional, except_map_ok]

theorem Metadata.version_of_read {members : List (String × Value)} {m : Metadata}
    (read : readMetadata (Value.object members) = .ok m) :
    ((Value.object members).member? "version").bind (·.string?) = m.version := by
  show (members.lookup "version").bind _ = _
  rcases lookup_of_reads reads_version rfl (by simp [Metadata.fields, Field.optional]) read
    with ⟨none, blank, -⟩ | ⟨v, found, value⟩
  · rw [none, blank]
    rfl
  · rw [found]
    rcases readOption_ok value with ⟨rfl, none⟩ | ⟨text, value, some⟩
    · exact none.symm
    · rw [some, readString_ok value]
      rfl

/-- **The version that is looked up is the one that is read**, where the metadata are an object if they are anything. -/
theorem Document.version_of_read {members : List (String × Value)} {d : Document}
    (read : readDocument (Value.object members) = .ok d)
    (plain : ∀ v, (Value.object members).member? "metadata" = some v → v = .null ∨ ∃ inner, v = .object inner) :
    Import.versionOf (.object members) = d.metadata.bind (·.version) := by
  show ((members.lookup "metadata").bind _).bind _ = _
  rcases lookup_of_reads reads_metadata rfl (by simp [Document.fields, Field.needed, Field.optional, Field.alias]) read
    with ⟨none, blank, -⟩ | ⟨v, found, value⟩
  · rw [none, blank]
    rfl
  · rw [found]
    rcases readOption_ok value with ⟨rfl, none⟩ | ⟨m, inner, some⟩
    · rw [none]
      rfl
    · rw [some]
      -- a record is also read from an array, in which nothing can be looked up
      rcases plain v found with rfl | ⟨entries, rfl⟩
      · cases inner
      · exact Metadata.version_of_read inner

/-! ## Imports -/

namespace Import

/-- The requests that a store refuses of some that it is asked for in turn, each as a record that is left out. -/
def refused (record : RecordKind) : Graph Float → Nat → List (Request Float) → List Skipped
  | _, _, [] => []
  | g, index, r :: rest =>
    match g.perform r with
    | (.ok _, next) => refused record next (index + 1) rest
    | (.error e, next) => ⟨record, index, .rejected e⟩ :: refused record next (index + 1) rest

theorem refused_cons (record : RecordKind) (g : Graph Float) (index : Nat) (r : Request Float)
    (rest : List (Request Float)) : refused record g index (r :: rest) =
      refused record g index [r] ++ refused record (g.perform r).2 (index + 1) rest := by
  rcases asked : g.perform r with ⟨_ | _, next⟩ <;> simp [refused, asked]

theorem reason_of_mem_refused {record : RecordKind} {g : Graph Float} {index : Nat} {requests : List (Request Float)}
    {s : Skipped} (left : s ∈ refused record g index requests) : ∃ e, s.reason = .rejected e := by
  induction requests generalizing g index with
  | nil => cases left
  | cons r rest ih =>
    rw [refused] at left
    split at left
    · exact ih left
    · next e next _ =>
      rcases List.mem_cons.1 left with rfl | left
      · exact ⟨e, rfl⟩
      · exact ih left

def ofDocument (palette : Palette) (d : Document) : Imported :=
  ⟨rebuilt palette d.nodes d.connections, .visual (d.metadata.bind (·.version)),
    refused .node (.empty palette) 0 (d.nodes.map fun r => .restore r.node) ++
      refused .connection (rebuilt palette d.nodes []) 0 (d.connections.map .connect)⟩

section

variable {ρ : Type} {record : RecordKind} {read : Value → Except ReadError ρ} {request : ρ → Request Float}
  {step : Progress → Value × Nat → Progress}

/-- A step that asks the store for what it reads, and leaves out what the store refuses. -/
def Asks (record : RecordKind) (read : Value → Except ReadError ρ) (request : ρ → Request Float)
    (step : Progress → Value × Nat → Progress) : Prop :=
  ∀ (p : Progress) (v : Value) (index : Nat) (r : ρ), read v = .ok r → step p (v, index) =
    ⟨(p.graph.perform (request r)).2, p.skipped ++ refused record p.graph index [request r]⟩

theorem asks_node : Asks .node readNodeRecord (fun r => .restore r.node) node := by
  intro p v index r value
  have asked : p.graph.perform (.restore r.node) =
      Graph.Answer.of (fun _ => .done) (p.graph.restoreNode r.id r.kind r.position r.data) := rfl
  simp only [node, value, refused, asked]
  rcases p.graph.restoreNode_cases r.id r.kind r.position r.data with ⟨e, done⟩ | ⟨-, -, done⟩ <;> rw [done]
  · rfl
  · simp [Graph.Answer.of, Except.map]

theorem asks_connection : Asks .connection readEdge .connect connection := by
  intro p v index r value
  have asked : p.graph.perform (.connect r) =
      Graph.Answer.of .edge (p.graph.createEdge r.source r.target r.outcome) := rfl
  simp only [connection, value, refused, asked]
  rcases p.graph.createEdge_cases r.source r.target r.outcome with ⟨e, done⟩ | ⟨-, -, -, -, -, done⟩ <;> rw [done]
  · rfl
  · simp [Graph.Answer.of, Except.map]

theorem Asks.foldl (asks : Asks record read request step) {items : List Value} {records : List ρ}
    (all : readItems read items = .ok records) (index : Nat) (p : Progress) : (items.zipIdx index).foldl step p =
      ⟨p.graph.after (records.map request), p.skipped ++ refused record p.graph index (records.map request)⟩ := by
  induction items generalizing records index p with
  | nil =>
    cases all
    simp [refused, Graph.after]
  | cons v items ih =>
    obtain ⟨r, rest, rfl, value, others⟩ := readItems_cons all
    rw [List.zipIdx_cons, List.foldl_cons, asks p v index r value, ih others, List.map_cons,
      refused_cons record p.graph index (request r) (rest.map request), ← List.append_assoc]
    rfl

end

variable {members : List (String × Value)} {d : Document}

/-- **An import of a strictly read document asks for its records** and leaves out what is refused. -/
theorem ofValue_of_read (read : readDocument (Value.object members) = .ok d) (tagged : d.format = Document.visualFormat)
    (plain : ∀ v, (Value.object members).member? "metadata" = some v → v = .null ∨ ∃ inner, v = .object inner)
    (palette : Palette) (placement : PlacementSettings Float) :
    ofValue palette placement (.object members) = .ok (ofDocument palette d) := by
  obtain ⟨items, found, nodes⟩ := Document.nodes_of_read read
  have visual : isVisual (.object members) = true := by
    rw [isVisual, Document.formatTag_of_read read, tagged, found]
    rfl
  have restored := asks_node.foldl nodes 0 ⟨.empty palette, []⟩
  have connected := asks_connection.foldl (Document.connections_of_read read) 0
  rw [ofValue, if_pos visual, Import.visual, found, itemsOf, restored, connected, Document.version_of_read read plain]
  rfl

/-- **Strict and tolerant reading agree.**  An object that is read strictly as a visual document, its metadata an object
if they are anything, is imported: as a visual document of the version that its metadata name, as the graph of all its
records asked for in turn, and with nothing left out but what the store refuses.  The graph depends on nothing else in
the document: neither on the start node it names, nor on the start marks of its nodes, nor on what it says of itself. -/
theorem strict_and_tolerant_agree (read : readDocument (Value.object members) = .ok d) (tagged : d.format = "visual")
    (plain : ∀ v, (Value.object members).member? "metadata" = some v → v = .null ∨ ∃ inner, v = .object inner)
    (palette : Palette) (placement : PlacementSettings Float) :
    ∃ i, ofValue palette placement (.object members) = .ok i ∧
      i.source = .visual (d.metadata.bind (·.version)) ∧
      (∀ s ∈ i.skipped, ∃ e, s.reason = .rejected e) ∧
      i.graph = ((Graph.empty palette).after
        (d.nodes.map fun r => .restoreNode r.id r.kind r.position r.data)).after
        (d.connections.map fun e => .createEdge e.source e.target e.outcome) ∧
      ∀ members' d', readDocument (Value.object members') = .ok d' → d'.format = "visual" →
        (∀ v, (Value.object members').member? "metadata" = some v → v = .null ∨ ∃ inner, v = .object inner) →
        d'.nodes.map (fun r => (r.id, r.kind, r.position, r.data)) =
          d.nodes.map (fun r => (r.id, r.kind, r.position, r.data)) → d'.connections = d.connections →
        ∃ i', ofValue palette placement (.object members') = .ok i' ∧ i'.graph = i.graph := by
  refine ⟨_, ofValue_of_read read tagged plain palette placement, rfl, fun s left => ?_, rfl, ?_⟩
  · rcases List.mem_append.1 left with left | left <;> exact reason_of_mem_refused left
  · intro members' d' read' tagged' plain' nodes connections
    refine ⟨_, ofValue_of_read read' tagged' plain' palette placement, ?_⟩
    have restores (l : List NodeRecord) : l.map (fun r => (.restore r.node : Request Float)) =
        (l.map fun r => (r.id, r.kind, r.position, r.data)).map fun n => .restoreNode n.1 n.2.1 n.2.2.1 n.2.2.2 := by
      rw [List.map_map]
      rfl
    show rebuilt palette d'.nodes d'.connections = rebuilt palette d.nodes d.connections
    rw [rebuilt, rebuilt, restores, restores, nodes, connections]

theorem strict_and_tolerant_agree_on_second_start : ∃ members d,
    readDocument (Value.object members) = .ok d ∧ d.nodes.length = 3 ∧ ∃ i,
    ofValue ⟨∅⟩ .standard (.object members) = .ok i ∧ i.source = .visual (some "1.5") ∧
    i.skipped.map Skipped.entry = [(.node, 2)] ∧ ∀ s ∈ i.skipped, ∃ e, s.reason = .rejected e := by
  let record (id kind : String) : Value := .object [("id", .string id), ("kind", .string kind), ("isStart", .bool true)]
  let members : List (String × Value) := [("formatTag", .string "visual"),
    ("nodes", .array [record "a" "start", record "b" "click", record "c" "start"]), ("startNode", .string "b"),
    ("connections", .array [.object [("source", .string "a"), ("target", .string "b"), ("label", .string "error")]]),
    ("metadata", .object [("version", .string "1.5"), ("nodeCount", .ofWord 7)])]
  let node (id kind : String) : NodeRecord := { id := ⟨id⟩, kind := .ofTag kind, isStart := true }
  let d : Document :=
    { format := "visual"
      nodes := [node "a" "start", node "b" "click", node "c" "start"]
      connections := [⟨⟨"a"⟩, ⟨"b"⟩, .error⟩]
      startNode := some ⟨"b"⟩
      metadata := some { nodeCount := 7, version := some "1.5" } }
  have read : readDocument (Value.object members) = .ok d := rfl
  have plain : ∀ v, (Value.object members).member? "metadata" = some v → v = .null ∨ ∃ inner, v = .object inner :=
    fun v found => .inr ⟨_, (Option.some.inj found).symm⟩
  have imported : ofValue ⟨∅⟩ .standard (.object members) = .ok (visual ⟨∅⟩ (.object members)) := rfl
  obtain ⟨i, same, source, reasons, -⟩ := strict_and_tolerant_agree read rfl plain ⟨∅⟩ .standard
  obtain rfl := Except.ok.inj (imported.symm.trans same)
  exact ⟨_, d, read, rfl, _, imported, source, by decide +kernel, reasons⟩

end Import

end Workflow
