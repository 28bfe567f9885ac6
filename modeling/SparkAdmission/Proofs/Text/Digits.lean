import SparkAdmission.Pointer

/-!
# Decimal digits and index tokens

Writing a number in decimal digits and taking the value of the digits is the identity, and so is
the other way round for digits without a leading zero. Hence a token is an index exactly when it
is the decimal text of that index, and different tokens never denote the same item. Digits are told
from what follows them, if that does not start with a digit (`spanDigits_of_all`).
-/

namespace SparkAdmission.Text

/-- The number that grows out of `n` by writing digits behind it. -/
def valueBehind (n : Nat) (ds : List Char) : Nat :=
  ds.foldl (fun n c => n * 10 + (c.toNat - '0'.toNat)) n

theorem valueBehind_cons (n : Nat) (c : Char) (ds : List Char) :
    valueBehind n (c :: ds) = valueBehind (n * 10 + (c.toNat - '0'.toNat)) ds := by
  rw [valueBehind, List.foldl_cons, valueBehind]

theorem toList_toString (n : Nat) : (toString n).toList = Nat.toDigits 10 n := by
  rw [Nat.toString_eq_repr, Nat.toList_repr]

theorem digitsValue_eq_ofDigitChars (ds : List Char) :
    digitsValue ds = Nat.ofDigitChars 10 ds 0 := by
  simp only [digitsValue, Nat.ofDigitChars_eq_foldl, Nat.mul_comm]

@[simp] theorem digitsValue_toDigits (n : Nat) : digitsValue (Nat.toDigits 10 n) = n := by
  rw [digitsValue_eq_ofDigitChars, Nat.ofDigitChars_ten_toDigits]

theorem all_isDigit_toDigits (n : Nat) : (Nat.toDigits 10 n).all Char.isDigit := by
  rw [List.all_eq_true]
  exact fun c hc => Nat.isDigit_of_mem_toDigits (by decide) (by decide) hc

theorem head?_toDigits_ne_zero {n : Nat} (hn : 0 < n) :
    (Nat.toDigits 10 n).head? ≠ some '0' := by
  induction n using Nat.strongRecOn with
  | ind n ih =>
    by_cases h : n < 10
    · rw [Nat.toDigits_of_lt_base h]
      simp only [List.head?_cons, ne_eq, Option.some.injEq, Nat.digitChar_eq_zero]
      omega
    · have hne : Nat.toDigits 10 (n / 10) ≠ [] := Nat.toDigits_ne_nil
      obtain ⟨c, cs, hcs⟩ := List.exists_cons_of_ne_nil hne
      have hc := ih (n / 10) (by omega) (by omega)
      rw [hcs] at hc
      rw [Nat.toDigits_of_base_le (by decide) (by omega), hcs]
      exact hc

theorem isDigit_iff_toNat {c : Char} : c.isDigit ↔ 48 ≤ c.toNat ∧ c.toNat ≤ 57 := by
  simp [Char.isDigit, UInt32.le_iff_toNat_le]

theorem digitChar_of_isDigit {c : Char} (h : c.isDigit) : (c.toNat - 48).digitChar = c := by
  have small : ∀ k < 10, Nat.digitChar k = Char.ofNat (k + 48) := by decide
  obtain ⟨low, high⟩ := isDigit_iff_toNat.1 h
  rw [small _ (by omega), Nat.sub_add_cancel low, Char.ofNat_toNat]

/-- Digits behind a number that is not zero stand behind its decimal digits. -/
theorem toDigits_valueBehind {n : Nat} (hn : 0 < n) {ds : List Char} (h : ds.all Char.isDigit) :
    Nat.toDigits 10 (valueBehind n ds) = Nat.toDigits 10 n ++ ds := by
  induction ds generalizing n with
  | nil => exact (List.append_nil _).symm
  | cons c ds ih =>
    rw [List.all_cons, Bool.and_eq_true] at h
    have hd : c.toNat - 48 < 10 := by
      have := isDigit_iff_toNat.1 h.1
      omega
    have hstep : Nat.toDigits 10 (n * 10 + (c.toNat - 48)) = Nat.toDigits 10 n ++ [c] := by
      rw [Nat.mul_comm, ← Nat.toDigits_append_toDigits (by decide) hn hd,
        Nat.toDigits_of_lt_base hd, digitChar_of_isDigit h.1]
    rw [valueBehind_cons, ih (by omega) h.2]
    change Nat.toDigits 10 (n * 10 + (c.toNat - 48)) ++ ds = _
    rw [hstep, List.append_assoc, List.singleton_append]

/-- Digits without a leading zero are the decimal digits of their value. -/
theorem toDigits_digitsValue {ds : List Char} (ne : ds ≠ []) (digits : ds.all Char.isDigit)
    (lead : ¬ (ds.head? = some '0' ∧ 1 < ds.length)) :
    Nat.toDigits 10 (digitsValue ds) = ds := by
  cases ds with
  | nil => exact absurd rfl ne
  | cons c ds =>
    rw [List.all_cons, Bool.and_eq_true] at digits
    obtain ⟨low, high⟩ := isDigit_iff_toNat.1 digits.1
    have hd : c.toNat - 48 < 10 := by omega
    have value : digitsValue (c :: ds) = valueBehind (c.toNat - 48) ds := by
      simp [digitsValue, valueBehind]
    by_cases hz : c = '0'
    · -- a single zero
      have hnil : ds = [] := by
        rw [← List.length_eq_zero_iff]
        simp only [hz, List.head?_cons, List.length_cons, true_and] at lead
        omega
      rw [hnil, hz]
      decide
    · have hpos : 0 < c.toNat - 48 := by
        have : c.toNat ≠ 48 := fun he => hz (Char.toNat_inj.1 he)
        omega
      rw [value, toDigits_valueBehind hpos digits.2, Nat.toDigits_of_lt_base hd,
        digitChar_of_isDigit digits.1, List.singleton_append]

/-! ### Runs of digits -/

theorem spanDigits_of_all {ds rest : List Char} (hds : ds.all Char.isDigit)
    (hrest : ∀ c ∈ rest.head?, c.isDigit = false) : spanDigits (ds ++ rest) = (ds, rest) := by
  induction ds with
  | nil =>
    cases rest with
    | nil => rfl
    | cons c rest => simp [spanDigits, hrest c rfl]
  | cons c ds ih =>
    rw [List.all_cons, Bool.and_eq_true] at hds
    have hspan := ih hds.2
    simp only [spanDigits, Prod.mk.injEq] at hspan
    simp [spanDigits, hds.1, hspan]

theorem digitsValue_append (ds es : List Char) :
    digitsValue (ds ++ es) = valueBehind (digitsValue ds) es := List.foldl_append

theorem digitsValue_zeros_append (k : Nat) (ds : List Char) :
    digitsValue (List.replicate k '0' ++ ds) = digitsValue ds := by
  induction k with
  | zero => rfl
  | succ k ih => exact ih

theorem le_valueBehind (n : Nat) (ds : List Char) : n ≤ valueBehind n ds := by
  induction ds generalizing n with
  | nil => exact Nat.le_refl n
  | cons c ds ih => exact Nat.le_trans (by omega) (ih (n * 10 + (c.toNat - '0'.toNat)))

/-- Below the limit no digit is left. -/
theorem appendDigits_of_lt {limit n : Nat} {ds : List Char} (h : valueBehind n ds < limit) :
    appendDigits limit n ds = (valueBehind n ds, []) := by
  induction ds generalizing n with
  | nil => rfl
  | cons c ds ih =>
    rw [valueBehind_cons] at h
    rw [appendDigits, if_pos (Nat.lt_of_le_of_lt (le_valueBehind _ ds) h), ih h, valueBehind_cons]

end SparkAdmission.Text

namespace SparkAdmission.Json

/-- A token is an index when it is the decimal text of the index. -/
theorem index?_eq_some_iff {token : String} {n : Nat} :
    index? token = some n ↔ token = toString n := by
  have hlist : token = toString n ↔ token.toList = Nat.toDigits 10 n := by
    rw [← String.toList_inj, Text.toList_toString]
  rw [hlist, index?]
  constructor
  · intro h
    split at h
    · cases h
    · rename_i hcs
      simp only [Bool.or_eq_true, Bool.not_eq_true', List.isEmpty_iff, not_or, Bool.and_eq_true,
        beq_iff_eq, decide_eq_true_eq, Bool.not_eq_false] at hcs
      rw [← Option.some.inj h, Text.toDigits_digitsValue hcs.1.1 hcs.1.2 hcs.2]
  · intro h
    have hne : Nat.toDigits 10 n ≠ [] := Nat.toDigits_ne_nil
    -- only zero itself is written with a zero in front
    have hlead : ¬ ((Nat.toDigits 10 n).head? = some '0' ∧ 1 < (Nat.toDigits 10 n).length) := by
      rintro ⟨hzero, hlength⟩
      rcases Nat.eq_zero_or_pos n with rfl | hpos
      · simp at hlength
      · exact Text.head?_toDigits_ne_zero hpos hzero
    rw [h, if_neg, Text.digitsValue_toDigits]
    simp only [Bool.or_eq_true, Bool.not_eq_true', List.isEmpty_iff, not_or, Bool.and_eq_true,
      beq_iff_eq, decide_eq_true_eq, Bool.not_eq_false]
    exact ⟨⟨hne, Text.all_isDigit_toDigits n⟩, hlead⟩

@[simp] theorem index?_toString (n : Nat) : index? (toString n) = some n :=
  index?_eq_some_iff.2 rfl

end SparkAdmission.Json
