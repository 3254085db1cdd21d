/-!
# JSON values

`Value` is a tree as it is written: an object's members stand in some order, and nothing keeps a name from
standing twice.  `Object` is the map of names to values that nodes carry as data: its names are strictly
increasing, so there is one list for each map, and two maps with the same entries are equal.
-/
namespace Workflow.Json

/-- Does a 64-bit integer hold a number, with or without a sign? -/
def FitsWord (i : Int) : Prop := -9223372036854775808 ≤ i ∧ i < 18446744073709551616

instance (i : Int) : Decidable (FitsWord i) := inferInstanceAs (Decidable (_ ∧ _))

/-- A number: whole where a 64-bit integer holds it, a finite double otherwise. -/
inductive Number where
  | int (i : Int) (fits : FitsWord i)
  | float (x : Float) (finite : x.isFinite = true)

namespace Number

def ofInt? (i : Int) : Option Number := if fits : FitsWord i then some (.int i fits) else none

def ofFloat? (x : Float) : Option Number := if finite : x.isFinite then some (.float x finite) else none

theorem fitsWord_toNat (n : UInt64) : FitsWord n.toNat := by
  have := n.toNat_lt
  constructor <;> omega

def ofWord (n : UInt64) : Number := .int n.toNat (fitsWord_toNat n)

end Number

inductive Value where
  | null
  | bool (b : Bool)
  | number (n : Number)
  | string (s : String)
  | array (items : List Value)
  | object (members : List (String × Value))

namespace Value

/-- A double as a value; what is not finite has no number and is written as null. -/
def ofFloat (x : Float) : Value :=
  match Number.ofFloat? x with
  | some n => .number n
  | none => .null

def ofWord (n : UInt64) : Value := .number (.ofWord n)

def string? : Value → Option String
  | .string s => some s
  | _ => none

/-- The first member of that name, in an object. -/
def member? (v : Value) (name : String) : Option Value :=
  match v with
  | .object members => members.lookup name
  | _ => none

end Value

/-- A map from names to values: a list of entries with strictly increasing names. -/
@[ext]
structure Object where
  entries : List (String × Value)
  increasing : entries.Pairwise fun a b => a.1 < b.1

namespace Object

/-- Puts an entry at its place in an increasing list, in the place of one of the same name. -/
def put (name : String) (v : Value) : List (String × Value) → List (String × Value)
  | [] => [(name, v)]
  | (other, w) :: rest =>
    if name = other then (name, v) :: rest
    else if name < other then (name, v) :: (other, w) :: rest
    else (other, w) :: put name v rest

theorem mem_put {name : String} {v : Value} {e : String × Value} :
    ∀ {l : List (String × Value)}, e ∈ put name v l → e = (name, v) ∨ e ∈ l
  | [], h => by simpa [put] using h
  | (other, w) :: rest, h => by
    simp only [put] at h
    split at h
    · rcases List.mem_cons.1 h with h | h
      · exact .inl h
      · exact .inr (List.mem_cons_of_mem _ h)
    · split at h
      · exact List.mem_cons.1 h
      · rcases List.mem_cons.1 h with h | h
        · exact .inr (h ▸ List.mem_cons_self)
        · exact (mem_put h).imp_right (List.mem_cons_of_mem _)

theorem pairwise_put (name : String) (v : Value) :
    ∀ {l : List (String × Value)}, l.Pairwise (fun a b => a.1 < b.1) →
      (put name v l).Pairwise fun a b => a.1 < b.1
  | [], _ => by simp [put]
  | (other, w) :: rest, h => by
    obtain ⟨first, tail⟩ := List.pairwise_cons.1 h
    simp only [put]
    split
    · next same => exact List.pairwise_cons.2 ⟨fun e he => same ▸ first e he, tail⟩
    · next differ =>
      split
      · next less =>
        refine List.pairwise_cons.2 ⟨fun e he => ?_, h⟩
        rcases List.mem_cons.1 he with rfl | he
        · exact less
        · exact String.lt_trans less (first e he)
      · next notLess =>
        refine List.pairwise_cons.2 ⟨fun e he => ?_, pairwise_put name v tail⟩
        rcases mem_put he with rfl | he
        · have le : other ≤ name := String.not_lt.1 notLess
          exact String.not_le.1 fun ge => differ (String.le_antisymm ge le)
        · exact first e he

def empty : Object := ⟨[], .nil⟩

instance : Inhabited Object := ⟨empty⟩

def get? (o : Object) (name : String) : Option Value := o.entries.lookup name

def insert (o : Object) (name : String) (v : Value) : Object :=
  ⟨put name v o.entries, pairwise_put name v o.increasing⟩

/-- Sets every listed entry in turn, so that the last of a name stays. -/
def insertAll (o : Object) (entries : List (String × Value)) : Object :=
  entries.foldl (fun o e => o.insert e.1 e.2) o

/-- The map of a list of entries, the last of a name winning. -/
def ofList (entries : List (String × Value)) : Object := empty.insertAll entries

def filter (o : Object) (keep : String → Bool) : Object :=
  ⟨o.entries.filter fun e => keep e.1, o.increasing.filter _⟩

/-- The map as a value, members in increasing order. -/
def toValue (o : Object) : Value := .object o.entries

end Object

end Workflow.Json
