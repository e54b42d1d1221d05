import Mathlib.Tactic.IntervalCases
import Mathlib.Data.List.Basic
import Mathlib.Data.Nat.Digits

/-! Property names: the case policy of a lookup, and the decimal names `usize::to_string`
gives array indices. -/

namespace Avm1

def foldCase (name : String) : List Char :=
  name.data.map Char.toLower

def namesMatch (caseSensitive : Bool) (key name : String) : Bool :=
  if caseSensitive then key == name else foldCase key == foldCase name

theorem namesMatch_self (caseSensitive : Bool) (name : String) :
    namesMatch caseSensitive name name = true := by
  cases caseSensitive <;> simp [namesMatch]

theorem namesMatch_fold {caseSensitive : Bool} {key name : String}
    (found : namesMatch caseSensitive key name = true) : foldCase key = foldCase name := by
  cases caseSensitive <;> simp_all [namesMatch]

theorem namesMatch_symm (caseSensitive : Bool) (key name : String) :
    namesMatch caseSensitive key name = namesMatch caseSensitive name key := by
  cases caseSensitive <;> simp [namesMatch, eq_comm]

theorem toDigitsCore_fuel (fuel fuel' n : Nat) (ds : List Char) (enough : n < fuel)
    (enough' : n < fuel') : Nat.toDigitsCore 10 fuel n ds = Nat.toDigitsCore 10 fuel' n ds := by
  induction fuel generalizing fuel' n ds with
  | zero => omega
  | succ fuel ih =>
    obtain ⟨fuel', rfl⟩ : ∃ k, fuel' = k + 1 := ⟨fuel' - 1, by omega⟩
    simp only [Nat.toDigitsCore]
    split
    · rfl
    · exact ih _ _ _ (by omega) (by omega)

theorem toDigitsCore_append (fuel n : Nat) (ds : List Char) (enough : n < fuel) :
    Nat.toDigitsCore 10 fuel n ds = Nat.toDigitsCore 10 fuel n [] ++ ds := by
  induction fuel generalizing n ds with
  | zero => omega
  | succ fuel ih =>
    simp only [Nat.toDigitsCore]
    split
    · rfl
    · rw [ih _ _ (by omega), ih _ [_] (by omega)]
      simp

theorem toDigits_ten (n : Nat) :
    Nat.toDigits 10 n = if n / 10 = 0 then [Nat.digitChar (n % 10)]
      else Nat.toDigits 10 (n / 10) ++ [Nat.digitChar (n % 10)] := by
  rw [Nat.toDigits]
  simp only [Nat.toDigitsCore]
  split
  · rfl
  · rw [toDigitsCore_append _ _ _ (by omega),
      toDigitsCore_fuel n (n / 10 + 1) _ _ (by omega) (by omega)]
    rfl

theorem digitChar_isDigit (d : Nat) (small : d < 10) : (Nat.digitChar d).isDigit = true := by
  interval_cases d <;> decide

theorem digitChar_inj {a b : Nat} (ha : a < 10) (hb : b < 10)
    (same : Nat.digitChar a = Nat.digitChar b) : a = b := by
  interval_cases a <;> interval_cases b <;> first | rfl | exact absurd same (by decide)

theorem toDigits_ne_nil (n : Nat) : Nat.toDigits 10 n ≠ [] := by
  rw [toDigits_ten]; split <;> simp

theorem isDigit_of_mem_toString (n : Nat) : ∀ c ∈ (toString n).data, c.isDigit = true := by
  show ∀ c ∈ Nat.toDigits 10 n, _
  induction n using Nat.strong_induction_on with
  | _ n ih =>
    rw [toDigits_ten]
    split
    · simpa using digitChar_isDigit _ (Nat.mod_lt _ (by omega))
    · intro c member
      rcases List.mem_append.mp member with member | member
      · exact ih _ (by omega) c member
      · simpa [List.mem_singleton.mp member] using digitChar_isDigit _ (Nat.mod_lt _ (by omega))

theorem toString_injective {m n : Nat} (same : toString m = toString n) : m = n := by
  have digits : Nat.toDigits 10 m = Nat.toDigits 10 n := congrArg String.data same
  clear same
  induction m using Nat.strong_induction_on generalizing n with
  | _ m ih =>
    rw [toDigits_ten m, toDigits_ten n] at digits
    split at digits <;> split at digits
    · have := digitChar_inj (Nat.mod_lt m (by omega)) (Nat.mod_lt n (by omega))
        (List.singleton_inj.mp digits)
      omega
    · have lengths := congrArg List.length digits
      simp [toDigits_ne_nil] at lengths
    · have lengths := congrArg List.length digits
      simp [toDigits_ne_nil] at lengths
    · obtain ⟨high, low⟩ := List.append_inj' digits rfl
      have := ih _ (by omega) high
      have := digitChar_inj (Nat.mod_lt m (by omega)) (Nat.mod_lt n (by omega))
        (List.singleton_inj.mp low)
      omega

theorem toLower_eq_self_of_isDigit (c : Char) (digit : c.toLower.isDigit = true) :
    c.toLower = c := by
  by_cases upper : c.toNat ≥ 65 ∧ c.toNat ≤ 90
  · have lowered : c.toLower = Char.ofNat (c.toNat + 32) := by simp [Char.toLower, upper]
    have valid : (c.toNat + 32).isValidChar := Or.inl (by omega)
    rw [lowered] at digit
    simp [Char.isDigit, Char.ofNat, valid, Char.ofNatAux, Char.le_def, UInt32.le_def,
      BitVec.le_def] at digit
    omega
  · simp [Char.toLower, upper]

theorem toLower_of_isDigit (c : Char) (digit : c.isDigit = true) : c.toLower = c := by
  have value : c.toNat = c.val.toBitVec.toNat := rfl
  simp only [Char.isDigit, Char.le_def, UInt32.le_def, BitVec.le_def, Bool.and_eq_true,
    decide_eq_true_eq] at digit
  simp only [Char.toLower]
  split
  · simp at digit; omega
  · rfl

theorem foldCase_toString (n : Nat) : foldCase (toString n) = (toString n).data := by
  have lowered : ∀ c ∈ (toString n).data, c.toLower = c :=
    fun c member => toLower_of_isDigit c (isDigit_of_mem_toString n c member)
  rw [foldCase, List.map_congr_left lowered, List.map_id']

theorem namesMatch_toString {caseSensitive : Bool} {key : String} {n : Nat} :
    namesMatch caseSensitive key (toString n) = true ↔ key = toString n := by
  refine ⟨fun found => ?_, fun same => same ▸ namesMatch_self _ _⟩
  have folded := namesMatch_fold found
  rw [foldCase_toString] at folded
  have lowered : ∀ c ∈ key.data, c.toLower = c := by
    intro c member
    apply toLower_eq_self_of_isDigit
    exact isDigit_of_mem_toString n _ (folded ▸ List.mem_map_of_mem _ member)
  rw [foldCase, List.map_congr_left lowered, List.map_id'] at folded
  exact String.ext folded

theorem foldCase_toString_ne_length (n : Nat) : foldCase (toString n) ≠ foldCase "length" := by
  intro same
  rw [foldCase_toString] at same
  have := isDigit_of_mem_toString n 'l' (by rw [same]; decide)
  exact absurd this (by decide)

theorem toString_ne_length (n : Nat) : toString n ≠ "length" :=
  fun same => foldCase_toString_ne_length n (congrArg foldCase same)

end Avm1
