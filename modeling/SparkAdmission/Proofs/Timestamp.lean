import SparkAdmission.Proofs.Text.Digits
import SparkAdmission.Timestamp

/-!
# Timestamps and their texts

The canonical text of a timestamp is read as that timestamp (`Timestamp.parse?_text`). Every part
of the text is a number filled up with zeros, or a mark that no number and no blank starts with,
so the parts are read back one after the other, whatever follows them.
-/

namespace SparkAdmission

theorem Date.of?_self (d : Date) : Date.of? d.year d.month d.day = some d := dif_pos d.valid

namespace Timestamp

open Text

/-! ### Numbers filled up with zeros -/

theorem digitsValue_padded (width n : Nat) : digitsValue (padded width n) = n := by
  rw [padded, digitsValue_zeros_append, digitsValue_toDigits]

theorem isDigit_of_mem_padded {width n : Nat} {c : Char} (h : c ∈ padded width n) :
    c.isDigit := by
  rcases List.mem_append.1 h with h | h
  · rw [List.eq_of_mem_replicate h]
    rfl
  · exact List.all_eq_true.1 (all_isDigit_toDigits n) c h

theorem length_padded {width n : Nat} (hn : (Nat.toDigits 10 n).length ≤ width) :
    (padded width n).length = width := by
  rw [padded, List.length_append, List.length_replicate, Nat.sub_add_cancel hn]

theorem exists_padded_eq_cons (width n : Nat) :
    ∃ d ds, padded width n = d :: ds ∧ d.isDigit := by
  have hne : padded width n ≠ [] := List.append_ne_nil_of_right_ne_nil _ Nat.toDigits_ne_nil
  obtain ⟨d, ds, h⟩ := List.exists_cons_of_ne_nil hne
  exact ⟨d, ds, h, isDigit_of_mem_padded (h ▸ List.mem_cons_self)⟩

theorem isBlank_eq_false_of_isDigit {c : Char} (h : c.isDigit) : isBlank c = false := by
  obtain ⟨low, high⟩ := isDigit_iff_toNat.1 h
  simp only [isBlank, Bool.or_eq_false_iff, Bool.and_eq_false_iff, decide_eq_false_iff_not,
    beq_eq_false_iff_ne]
  omega

theorem skipBlanks_cons {c : Char} (h : isBlank c = false) (cs : List Char) :
    skipBlanks (c :: cs) = c :: cs := by
  rw [skipBlanks, List.dropWhile_cons, h]
  rfl

theorem skipBlanks_padded (width n : Nat) (rest : List Char) :
    skipBlanks (padded width n ++ rest) = padded width n ++ rest := by
  obtain ⟨d, ds, h, hd⟩ := exists_padded_eq_cons width n
  rw [h, List.cons_append, skipBlanks_cons (isBlank_eq_false_of_isDigit hd)]

/-! ### The parts of a text -/

/-- A number that has the full width is read up to what follows it. -/
theorem number?_padded {width n : Nat} (hn : (Nat.toDigits 10 n).length ≤ width)
    (rest : List Char) : number? width (padded width n ++ rest) = some (n, rest) := by
  have hlength := length_padded hn
  have hall : ∀ c ∈ padded width n, c.isDigit := fun c hc => isDigit_of_mem_padded hc
  have hdigits : ((padded width n ++ rest).take width).takeWhile Char.isDigit = padded width n := by
    rw [List.take_append_of_le_length (Nat.le_of_eq hlength.symm),
      List.take_of_length_le (Nat.le_of_eq hlength), ← List.append_nil (padded width n),
      List.takeWhile_append_of_pos (by simpa using hall), List.takeWhile_nil]
  have hne : (padded width n).isEmpty = false := by
    obtain ⟨d, ds, hcons, -⟩ := exists_padded_eq_cons width n
    rw [hcons, List.isEmpty_cons]
  simp only [number?, skipBlanks_padded, hdigits, hne, digitsValue_padded]
  simp

/-- Digits are read up to a character that is none. -/
theorem digits?_padded (width n : Nat) {c : Char} (hc : c.isDigit = false) (rest : List Char) :
    digits? (padded width n ++ c :: rest) = some (n, c :: rest) := by
  have hall : ∀ d ∈ padded width n, d.isDigit := fun d hd => isDigit_of_mem_padded hd
  have hspan : spanDigits (padded width n ++ c :: rest) = (padded width n, c :: rest) := by
    rw [spanDigits, List.takeWhile_append_of_pos hall, List.dropWhile_append_of_pos hall,
      List.takeWhile_cons_of_neg (by simp [hc]), List.dropWhile_cons_of_neg (by simp [hc]),
      List.append_nil]
  obtain ⟨d, ds, hcons, -⟩ := exists_padded_eq_cons width n
  have hvalue := digitsValue_padded width n
  rw [digits?, hspan, hcons]
  rw [hcons] at hvalue
  simp [hvalue]

theorem year?_yearText (year : Int) (rest : List Char) :
    year? (yearText year ++ '-' :: rest) = some (year, '-' :: rest) := by
  rw [yearText]
  split
  · rename_i h
    obtain ⟨d, ds, hcons, hd⟩ := exists_padded_eq_cons 4 year.toNat
    have hnumber : number? 4 (padded 4 year.toNat ++ '-' :: rest) =
        some (year.toNat, '-' :: rest) :=
      number?_padded ((Nat.length_toDigits_le_iff (by decide) (by decide)).2 (by omega)) _
    rw [year?, skipBlanks_padded]
    rw [hcons] at hnumber ⊢
    split
    · rename_i he
      cases he
      cases hd
    · rename_i he
      cases he
      cases hd
    · simp only [hnumber, Option.map_some, Int.toNat_of_nonneg h.1]
  · have hdigits := digits?_padded 4 year.natAbs (c := '-') rfl rest
    by_cases hneg : year < 0
    · have habs : -(year.natAbs : Int) = year := by omega
      rw [if_pos hneg, List.cons_append, year?, skipBlanks_cons rfl]
      simp only [hdigits, Option.map_some, habs]
    · have habs : (year.natAbs : Int) = year := by omega
      rw [if_neg hneg, List.cons_append, year?, skipBlanks_cons rfl]
      simp only [hdigits, Option.map_some, habs]

theorem expect?_cons {c : Char} (h : isBlank c = false) (rest : List Char) :
    expect? c (c :: rest) = some rest := by
  rw [expect?, skipBlanks_cons h]
  exact if_pos rfl

/-- Local time that is not ahead of UTC is UTC. -/
theorem ofLocal?_zero (t : Timestamp) : ofLocal? t.date t.hour t.minute t.second 0 = some t := by
  obtain ⟨date, hour, minute, second, valid⟩ := t
  have hminutes : ((hour : Int) * 60 + minute - 0) = ((hour * 60 + minute : Nat) : Int) := by simp
  have hlow : ¬ ((hour * 60 + minute : Nat) : Int) < 0 := by omega
  have hhigh : ¬ 1440 ≤ ((hour * 60 + minute : Nat) : Int) := by omega
  have hday : (((hour * 60 + minute : Nat) : Int) % 1440).toNat = hour * 60 + minute := by omega
  have hhour : (hour * 60 + minute) / 60 = hour := by omega
  have hminute : (hour * 60 + minute) % 60 = minute := by omega
  simp only [ofLocal?, hminutes, if_neg hlow, if_neg hhigh, hday, hhour, hminute,
    Option.bind_eq_bind, Option.bind_some]
  exact dif_pos valid

/-- The canonical text of a timestamp is read as the timestamp. -/
@[simp] theorem parse?_text (t : Timestamp) : parse? t.text = some t := by
  have hdays : daysInMonth t.date.year t.date.month ≤ 31 := by
    unfold daysInMonth
    split <;> split <;> omega
  obtain ⟨-, -, -, hmonth, -, hday⟩ := t.date.valid
  obtain ⟨hhour, hminute, hsecond⟩ := t.valid
  have htwo : ∀ n < 100, ∀ rest, number? 2 (padded 2 n ++ rest) = some (n, rest) :=
    fun n hn rest =>
      number?_padded ((Nat.length_toDigits_le_iff (by decide) (by decide)).2 hn) rest
  have hseparator : ∀ rest, separator? ('T' :: rest) = some rest := fun _ => rfl
  have hzone : offset? (skipBlanks ['Z']) = some (0, []) := by decide
  have hend : (skipBlanks []).isEmpty := rfl
  rw [parse?, text, String.toList_ofList]
  simp only [List.append_assoc, List.cons_append]
  rw [parseChars?]
  simp only [Option.bind_eq_bind]
  -- the date
  rw [year?_yearText, Option.bind_some]
  dsimp only
  rw [expect?_cons rfl, Option.bind_some, htwo t.date.month (by omega), Option.bind_some]
  dsimp only
  rw [expect?_cons rfl, Option.bind_some, htwo t.date.day (by omega), Option.bind_some]
  dsimp only
  -- the time of day
  rw [hseparator, Option.bind_some, htwo t.hour (by omega), Option.bind_some]
  dsimp only
  rw [expect?_cons rfl, Option.bind_some, htwo t.minute (by omega), Option.bind_some]
  dsimp only
  rw [expect?_cons rfl, Option.bind_some, htwo t.second (by omega), Option.bind_some]
  dsimp only
  rw [show fraction? ['Z'] = some ['Z'] from rfl, Option.bind_some, hzone, Option.bind_some,
    Date.of?_self, Option.bind_some, if_pos ⟨hend, t.valid⟩, ofLocal?_zero]

end Timestamp

end SparkAdmission
