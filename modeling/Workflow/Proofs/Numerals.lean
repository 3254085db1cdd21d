import Mathlib.Data.Nat.Digits.Defs
import Workflow.Proofs.Numbering
/-!
# How numbers are spelled

The number of an identifier is what stands after the stem, if that spells a number: decimal digits and nothing else,
after a single plus or none.  `Spells` tells the number by the places of the digits, so zeros may lead and there may be
any count of them; only the number itself is bounded, and by the same bound however it is spelled.
-/
namespace Workflow.NodeId

/-- Decimal digits, one at least, that spell a number: the last digit counts ones, the one before it tens. -/
def Spells (numeral : String) (n : Nat) : Prop :=
  ∃ digits : List Nat, digits ≠ [] ∧ (∀ d ∈ digits, d < 10) ∧
    numeral = String.ofList (digits.reverse.map Nat.digitChar) ∧ n = Nat.ofDigits 10 digits

/-! ## Digits and their value -/

theorem digitsValue_append (cs : List Char) (c : Char) :
    digitsValue (cs ++ [c]) = digitsValue cs * 10 + (c.toNat - '0'.toNat) := by
  rw [digitsValue, List.foldl_append, ← digitsValue]
  rfl

/-- A reader that goes through the digits from the first comes to the number that their places tell. -/
theorem digitsValue_digitChars {digits : List Nat} (decimal : ∀ d ∈ digits, d < 10) :
    digitsValue (digits.reverse.map Nat.digitChar) = Nat.ofDigits 10 digits := by
  induction digits with
  | nil => rfl
  | cons d digits ih =>
    obtain ⟨first, others⟩ := List.forall_mem_cons.1 decimal
    have one : d.digitChar.toNat - '0'.toNat = d := Nat.toNat_digitChar_sub_48_of_lt_ten first
    rw [List.reverse_cons, List.map_append, List.map_singleton, digitsValue_append, ih others, one, Nat.ofDigits_cons]
    omega

theorem digitChar_digit {c : Char} (digit : c.isDigit = true) :
    c.toNat - 48 < 10 ∧ (c.toNat - 48).digitChar = c := by
  have range := Char.isDigit_iff_toNat.1 digit
  have below : c.toNat - 48 < 10 := by
    have : '9'.toNat = 57 := rfl
    omega
  refine ⟨below, Char.toNat_inj.1 ?_⟩
  have : '0'.toNat = 48 := rfl
  rw [Nat.toNat_digitChar_of_lt_ten below]
  omega

/-- **Characters that are all digits have digits to write**, from the last on. -/
theorem exists_digits {cs : List Char} (all : cs.all Char.isDigit = true) :
    ∃ digits : List Nat, (∀ d ∈ digits, d < 10) ∧ cs = digits.reverse.map Nat.digitChar := by
  induction cs with
  | nil => exact ⟨[], nofun, rfl⟩
  | cons c cs ih =>
    rw [List.all_cons, Bool.and_eq_true] at all
    obtain ⟨digits, decimal, rfl⟩ := ih all.2
    obtain ⟨below, same⟩ := digitChar_digit all.1
    refine ⟨digits ++ [c.toNat - 48], fun d hd => ?_, ?_⟩
    · rcases List.mem_append.1 hd with hd | hd
      · exact decimal d hd
      · exact List.mem_singleton.1 hd ▸ below
    · rw [List.reverse_append, List.reverse_singleton, List.singleton_append, List.map_cons, same]

/-! ## Reading what is spelled -/

theorem Spells.isDigit {numeral : String} {n : Nat} (spelled : Spells numeral n) :
    ∀ c ∈ numeral.toList, c.isDigit = true := by
  obtain ⟨digits, -, decimal, rfl, -⟩ := spelled
  intro c hc
  rw [String.toList_ofList] at hc
  obtain ⟨d, hd, rfl⟩ := List.mem_map.1 hc
  exact Nat.isDigit_digitChar.trans (decide_eq_true (decimal d (List.mem_reverse.1 hd)))

theorem readDigits_eq_some_iff (cs : List Char) (n : Nat) :
    readDigits cs = some n ↔ n ≤ maxNumber ∧ Spells (String.ofList cs) n := by
  constructor
  · intro read
    rw [readDigits] at read
    split at read
    · next fit =>
      obtain ⟨some, all, bound⟩ := fit
      obtain ⟨digits, decimal, rfl⟩ := exists_digits all
      obtain rfl := Option.some.inj read
      refine ⟨bound, digits, fun none => some ?_, decimal, rfl, digitsValue_digitChars decimal⟩
      rw [none]
      rfl
    · cases read
  · rintro ⟨bound, spelled⟩
    have all : cs.all Char.isDigit = true :=
      List.all_eq_true.2 fun c hc => spelled.isDigit c (by rwa [String.toList_ofList])
    obtain ⟨digits, some, decimal, same, rfl⟩ := spelled
    obtain rfl := String.ofList_injective same
    rw [readDigits, digitsValue_digitChars decimal, if_pos ⟨by simpa using some, all, bound⟩]

/-- What stands after the stem. -/
theorem isPrefixOf?_stem_iff (text : String) (cs : List Char) :
    stem.toList.isPrefixOf? text.toList = some cs ↔ text = "node_" ++ String.ofList cs := by
  rw [List.isPrefixOf?_eq_some_iff_append_eq, ← String.toList_inj, eq_comm]
  simp [stem]

theorem ofList_plus (cs : List Char) : String.ofList ('+' :: cs) = "+" ++ String.ofList cs := by
  simp

/-- **A number is read off just the identifiers that spell it**, if it is not too large. -/
theorem number?_eq_some_iff (id : NodeId) (n : Nat) : id.number? = some n ↔
    n ≤ maxNumber ∧ ∃ sign numeral, (sign = "" ∨ sign = "+") ∧ Spells numeral n ∧
      id.text = "node_" ++ sign ++ numeral := by
  constructor
  · intro read
    rw [number?] at read
    split at read
    · cases read
    · next digits rest =>
      obtain ⟨bound, spelled⟩ := (readDigits_eq_some_iff digits n).1 read
      refine ⟨bound, "+", _, .inr rfl, spelled, ?_⟩
      rw [(isPrefixOf?_stem_iff id.text _).1 rest, ofList_plus, String.append_assoc]
    · next digits _ rest =>
      obtain ⟨bound, spelled⟩ := (readDigits_eq_some_iff digits n).1 read
      refine ⟨bound, "", _, .inl rfl, spelled, ?_⟩
      rw [(isPrefixOf?_stem_iff id.text _).1 rest, String.append_empty]
  · rintro ⟨bound, sign, numeral, plus, spelled, text⟩
    have read : readDigits numeral.toList = some n :=
      (readDigits_eq_some_iff _ n).2 ⟨bound, by rwa [String.ofList_toList]⟩
    rcases plus with rfl | rfl
    · have rest : stem.toList.isPrefixOf? id.text.toList = some numeral.toList := by
        rw [isPrefixOf?_stem_iff, text, String.append_empty, String.ofList_toList]
      rw [number?, rest]
      split
      · next none => cases none
      · next digits signed =>
        -- a plus is no digit
        have plus : '+' ∈ numeral.toList := by
          rw [Option.some.inj signed]
          exact List.mem_cons_self
        exact absurd (spelled.isDigit '+' plus) (by decide)
      · next digits _ same => rwa [← Option.some.inj same]
    · have rest : stem.toList.isPrefixOf? id.text.toList = some ('+' :: numeral.toList) := by
        rw [isPrefixOf?_stem_iff, text, ofList_plus, String.append_assoc, String.ofList_toList]
      rw [number?, rest]
      exact read

theorem le_maxNumber_iff (n : Nat) : n ≤ maxNumber ↔ n < 2 ^ 64 := by
  have : maxNumber + 1 = 2 ^ 64 := rfl
  omega

/-- **Numbers are read as they are spelled.**  The number of an identifier is the one that it spells after the stem: at
most one plus, then decimal digits, one at least, with any number of zeros before the others.  Just the numbers of 64
bits are read.  Each of them is read off the fresh identifier it makes, so no two of them make the same one. -/
theorem numbers_read_as_spelled :
    (∀ (id : NodeId) (n : Nat), id.number? = some n ↔
      n < 2 ^ 64 ∧ ∃ sign numeral, (sign = "" ∨ sign = "+") ∧ Spells numeral n ∧
        id.text = "node_" ++ sign ++ numeral) ∧
    (∀ n < 2 ^ 64, (numbered n).number? = some n) ∧
    ∀ m < 2 ^ 64, ∀ n < 2 ^ 64, numbered m = numbered n → m = n := by
  simp only [← le_maxNumber_iff]
  exact ⟨number?_eq_some_iff, fun _ bound => number?_numbered bound,
    fun _ bound _ bound' same => (numbered_inj bound bound').1 same⟩

theorem numbers_read_as_spelled_at_largest :
    Spells "00018446744073709551615" (2 ^ 64 - 1) ∧ Spells "18446744073709551616" (2 ^ 64) ∧
    (NodeId.mk "node_+00018446744073709551615").number? = some (2 ^ 64 - 1) ∧
    (NodeId.mk "node_+18446744073709551616").number? ≠ some (2 ^ 64) ∧
    (numbered (2 ^ 64 - 1)).number? = some (2 ^ 64 - 1) ∧ numbered (2 ^ 64 - 1) ≠ numbered (2 ^ 64 - 2) := by
  have largest : Spells "00018446744073709551615" (2 ^ 64 - 1) :=
    ⟨[5, 1, 6, 1, 5, 5, 9, 0, 7, 3, 7, 0, 4, 4, 7, 6, 4, 4, 8, 1, 0, 0, 0], by decide, by decide, rfl, by decide⟩
  have above : Spells "18446744073709551616" (2 ^ 64) :=
    ⟨[6, 1, 6, 1, 5, 5, 9, 0, 7, 3, 7, 0, 4, 4, 7, 6, 4, 4, 8, 1], by decide, by decide, rfl, by decide⟩
  obtain ⟨read, back, apart⟩ := numbers_read_as_spelled
  exact ⟨largest, above, (read _ _).2 ⟨by decide, "+", _, .inr rfl, largest, rfl⟩,
    fun found => absurd ((read _ _).1 found).1 (by decide), back _ (by decide),
    fun same => absurd (apart _ (by decide) _ (by decide) same) (by decide)⟩

end Workflow.NodeId
