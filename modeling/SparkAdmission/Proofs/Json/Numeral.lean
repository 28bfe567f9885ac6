import SparkAdmission.Proofs.Json.Double
import SparkAdmission.Proofs.Json.Text
import SparkAdmission.Proofs.Text.Digits

/-!
# Numbers written and read again

A number is written by its parts, and a number that is written by its parts is scanned into them
(`scanMagnitude_text`); what the parts denote is up to the reading. Whole numbers of 64 bits are
restored by every reading that keeps them (`restores_whole`), as `denoted` does. A double is written
by the parts of a decimal to which it is the nearest double, however the point is laid out
(`Numeral.exists_layout`), so a reading that rounds to the nearest double restores every number
(`restores_exactly`).
-/

namespace SparkAdmission.Source

open Text

/-! ### Numerals -/

/-- The parts of a number without its sign: the digits in front of the point, those behind it, and
the exponent. -/
structure Numeral where
  whole : List Char
  fraction : List Char
  exponent : Option Int

namespace Numeral

/-- The digits behind the point, with the point. -/
def fractionText : List Char → List Char
  | [] => []
  | ds => '.' :: ds

/-- The exponent as it is written. -/
def exponentText : Option Int → List Char
  | none => []
  | some e => 'e' :: (toString e).toList

/-- The text of the number. -/
def text (m : Numeral) : List Char :=
  m.whole ++ (fractionText m.fraction ++ exponentText m.exponent)

/-- The parts are digits, and only a single zero has a zero in front. -/
structure IsValid (m : Numeral) : Prop where
  whole_ne_nil : m.whole ≠ []
  whole_digits : m.whole.all Char.isDigit
  lead : m.whole.head? = some '0' → m.whole = ['0']
  fraction_digits : m.fraction.all Char.isDigit

end Numeral

theorem digitsValue_append_zeros (ds : List Char) (k : Nat) :
    digitsValue (ds ++ List.replicate k '0') = digitsValue ds * 10 ^ k := by
  induction k with
  | zero => simp
  | succ k ih =>
    rw [List.replicate_succ', ← List.append_assoc, digitsValue_append, ih]
    simp [valueBehind, Nat.pow_succ, Nat.mul_assoc]

theorem toList_toString_neg (n : Nat) :
    (toString (-(n + 1 : Nat) : Int)).toList = '-' :: Nat.toDigits 10 (n + 1) := by
  change ("-" ++ toString (n + 1)).toList = _
  rw [String.toList_append, toList_toString]
  rfl

theorem scanWhole_of_digits {ds rest : List Char} (hne : ds ≠ []) (hds : ds.all Char.isDigit)
    (hlead : ds.head? = some '0' → ds = ['0']) (hrest : ∀ c ∈ rest.head?, c.isDigit = false) :
    scanWhole (ds ++ rest) = some (ds, rest) := by
  rw [scanWhole, spanDigits_of_all hds hrest]
  split
  · rename_i heq
    exact absurd (Prod.mk.inj heq).1 hne
  · rename_i heq
    rw [(Prod.mk.inj heq).1] at hlead
    exact absurd (hlead rfl) (by simp)
  · rfl

theorem scanFraction_text {ds rest : List Char} (hds : ds.all Char.isDigit)
    (hrest : ∀ c ∈ rest.head?, c.isDigit = false ∧ c ≠ '.') :
    scanFraction (Numeral.fractionText ds ++ rest) = some (ds, rest) := by
  cases ds with
  | nil =>
    rw [Numeral.fractionText, List.nil_append, scanFraction]
    rintro cs rfl
    exact (hrest '.' rfl).2 rfl
  | cons d ds =>
    change scanFraction ('.' :: ((d :: ds) ++ rest)) = _
    rw [scanFraction, spanDigits_of_all hds fun c hc => (hrest c hc).1]

theorem scanExponentDigits_toDigits (negative : Bool) (n : Nat) {rest : List Char}
    (hrest : ∀ c ∈ rest.head?, c.isDigit = false) :
    scanExponentDigits negative (Nat.toDigits 10 n ++ rest) =
      some (some (if negative then -(n : Int) else n), rest) := by
  rw [scanExponentDigits, spanDigits_of_all (all_isDigit_toDigits n) hrest]
  split
  · rename_i heq
    exact absurd (Prod.mk.inj heq).1 Nat.toDigits_ne_nil
  · rename_i heq
    obtain ⟨hds, hrest⟩ := Prod.mk.inj heq
    rw [← hds, ← hrest, digitsValue_toDigits]

/-- Digits start with no other character. -/
theorem digits_append_ne {ds : List Char} (hne : ds ≠ []) (hds : ds.all Char.isDigit) {c : Char}
    (hc : c.isDigit = false) (rest cs : List Char) : ds ++ rest ≠ c :: cs := by
  intro he
  cases ds with
  | nil => exact hne rfl
  | cons d ds =>
    rw [List.all_cons, Bool.and_eq_true, (List.cons.inj he).1, hc] at hds
    exact Bool.false_ne_true hds.1

theorem toDigits_append_ne {c : Char} (hc : c.isDigit = false) (n : Nat) (rest cs : List Char) :
    Nat.toDigits 10 n ++ rest ≠ c :: cs :=
  digits_append_ne Nat.toDigits_ne_nil (all_isDigit_toDigits n) hc rest cs

theorem scanExponent_text (exponent : Option Int) {rest : List Char} (hstops : Stops rest) :
    scanExponent (Numeral.exponentText exponent ++ rest) = some (exponent, rest) := by
  have hdigit : ∀ c ∈ rest.head?, c.isDigit = false := fun c hc => (hstops c hc).1
  cases exponent with
  | none =>
    cases rest with
    | nil => rfl
    | cons c rest =>
      obtain ⟨-, -, he, hE⟩ := hstops c rfl
      change (if c = 'e' ∨ c = 'E' then _ else some (none, c :: rest)) = _
      rw [if_neg (by simp [he, hE])]
  | some e =>
    cases e with
    | ofNat n =>
      have htext : Numeral.exponentText (some (.ofNat n)) = 'e' :: Nat.toDigits 10 n :=
        congrArg (List.cons 'e') (toList_toString n)
      rw [htext, List.cons_append, scanExponent, if_pos (.inl rfl),
        scanExponentDigits_toDigits false n hdigit]
      · rfl
      · exact fun cs => toDigits_append_ne rfl n rest cs
      · exact fun cs => toDigits_append_ne rfl n rest cs
    | negSucc n =>
      have htext : Numeral.exponentText (some (.negSucc n)) =
          'e' :: '-' :: Nat.toDigits 10 (n + 1) :=
        congrArg (List.cons 'e') (toList_toString_neg n)
      rw [htext, List.cons_append, List.cons_append, scanExponent, if_pos (.inl rfl),
        scanExponentDigits_toDigits true (n + 1) hdigit]
      rfl

/-- A number that is written by its parts is read by its parts. -/
theorem scanMagnitude_text {m : Numeral} (h : m.IsValid) (reading : NumberReading)
    (negative : Bool) {rest : List Char} (hstops : Stops rest) :
    scanMagnitude reading negative (m.text ++ rest) =
      some (reading negative m.whole m.fraction m.exponent, rest) := by
  have hexponent : ∀ c ∈ (Numeral.exponentText m.exponent ++ rest).head?,
      c.isDigit = false ∧ c ≠ '.' := by
    intro c hc
    cases hm : m.exponent with
    | none =>
      rw [hm] at hc
      exact ⟨(hstops c hc).1, (hstops c hc).2.1⟩
    | some e =>
      rw [hm] at hc
      cases hc
      exact ⟨rfl, by decide⟩
  have hfraction : ∀ c ∈ (Numeral.fractionText m.fraction ++
      (Numeral.exponentText m.exponent ++ rest)).head?, c.isDigit = false := by
    intro c hc
    cases hm : m.fraction with
    | nil =>
      rw [hm] at hc
      exact (hexponent c hc).1
    | cons d ds =>
      rw [hm] at hc
      cases hc
      rfl
  rw [scanMagnitude, Numeral.text, List.append_assoc, List.append_assoc,
    scanWhole_of_digits h.whole_ne_nil h.whole_digits h.lead hfraction]
  simp only [Option.bind_eq_bind, Option.bind_some]
  rw [scanFraction_text h.fraction_digits hexponent]
  simp only [Option.bind_some]
  rw [scanExponent_text m.exponent hstops]
  rfl

/-! ### Whole numbers -/

theorem lead_toDigits {n : Nat} (h : (Nat.toDigits 10 n).head? = some '0') :
    Nat.toDigits 10 n = ['0'] := by
  rcases Nat.eq_zero_or_pos n with rfl | hpos
  · rfl
  · exact absurd h (head?_toDigits_ne_zero hpos)

theorem Numeral.isValid_toDigits (n : Nat) : IsValid ⟨Nat.toDigits 10 n, [], none⟩ where
  whole_ne_nil := Nat.toDigits_ne_nil
  whole_digits := all_isDigit_toDigits n
  lead := lead_toDigits
  fraction_digits := rfl

/-- Whole numbers of 64 bits are read exactly. -/
def NumberReading.KeepsWhole (reading : NumberReading) : Prop :=
  ∀ negative ds, digitsValue ds < 0x10000000000000000 →
    reading negative ds [] none = Number.ofDigits? negative (digitsValue ds)

theorem keepsWhole_denoted : NumberReading.KeepsWhole denoted := by
  intro negative ds h
  have hdigits : appendDigits 0x10000000000000000 0 ds = (digitsValue ds, []) :=
    appendDigits_of_lt h
  simp [denoted, hdigits]

theorem scanMagnitude_toDigits {reading : NumberReading} (h : reading.KeepsWhole)
    (negative : Bool) {n : Nat} (hn : n < 0x10000000000000000) {rest : List Char}
    (hstops : Stops rest) :
    scanMagnitude reading negative (Nat.toDigits 10 n ++ rest) =
      some (Number.ofDigits? negative n, rest) := by
  have hscan := scanMagnitude_text (Numeral.isValid_toDigits n) reading negative hstops
  rw [← digitsValue_toDigits n] at hn
  rw [h negative _ hn, digitsValue_toDigits] at hscan
  simpa [Numeral.text, Numeral.fractionText, Numeral.exponentText] using hscan

theorem restores_whole {reading : NumberReading} (h : reading.KeepsWhole) (n : Int)
    (hn : IsExact n) : reading.Restores (.whole n hn) := by
  intro rest hstops
  by_cases hsign : 0 ≤ n
  · obtain ⟨k, rfl⟩ := Int.eq_ofNat_of_zero_le hsign
    have hk : k < 0x10000000000000000 := by
      have hhigh := hn.2
      omega
    rw [show Json.printNumber (.whole k hn) = Nat.toDigits 10 k from toList_toString k, scanNumber,
      scanMagnitude_toDigits h false hk hstops]
    · rw [Number.ofDigits?, if_neg Bool.false_ne_true, Number.ofInt?, dif_pos hn]
    · exact fun cs => toDigits_append_ne rfl k rest cs
  · obtain ⟨k, rfl⟩ : ∃ k : Nat, n = -(k + 1 : Nat) := ⟨(-n - 1).toNat, by omega⟩
    have hk : k + 1 < 0x10000000000000000 := by
      have hlow := hn.1
      omega
    rw [show Json.printNumber (.whole _ hn) = '-' :: Nat.toDigits 10 (k + 1) from
      toList_toString_neg k, List.cons_append, scanNumber,
      scanMagnitude_toDigits h true hk hstops, Number.ofDigits?, if_pos rfl,
      if_neg (Nat.succ_ne_zero k), Number.ofInt?, dif_pos hn]

/-! ### Doubles -/

/-- Numbers are read as the grammar means them: a whole number of 64 bits as it is, every other
number as the nearest double. -/
def exactly : NumberReading := fun negative whole fraction exponent =>
  if fraction.isEmpty && exponent.isNone then Number.ofDigits? negative (digitsValue whole)
  else
    (Double.ofDecimal negative (digitsValue (whole ++ fraction))
      (exponent.getD 0 - fraction.length)).map .double

theorem keepsWhole_exactly : NumberReading.KeepsWhole exactly := by
  intro negative ds _
  simp [exactly]

/-- A number with a fraction or an exponent is read as a double. -/
theorem exactly_of_point {fraction : List Char} {exponent : Option Int}
    (h : fraction ≠ [] ∨ exponent.isSome = true) (negative : Bool) (whole : List Char) :
    exactly negative whole fraction exponent =
      (Double.ofDecimal negative (digitsValue (whole ++ fraction))
        (exponent.getD 0 - fraction.length)).map .double := by
  have hpoint : ¬ (fraction.isEmpty && exponent.isNone) = true := by
    cases fraction <;> cases exponent <;> simp_all
  rw [exactly, if_neg hpoint]

theorem ofDecimal_mul_ten_pow (negative : Bool) (digits k : Nat) (exponent : Int) :
    Double.ofDecimal negative (digits * 10 ^ k) exponent =
      Double.ofDecimal negative digits (exponent + k) := by
  induction k generalizing exponent with
  | zero => simp
  | succ k ih =>
    rw [Nat.pow_succ, ← Nat.mul_assoc, Double.ofDecimal_mul_ten, ih]
    congr 1
    omega

namespace Numeral

/-- The parts are those of a double that is nearest to the decimal. -/
structure Denotes (m : Numeral) (digits : Nat) (exponent : Int) : Prop where
  valid : m.IsValid
  exactly_eq : ∀ negative, exactly negative m.whole m.fraction m.exponent =
    (Double.ofDecimal negative digits exponent).map .double

theorem fractionText_of_ne_nil {ds : List Char} (h : ds ≠ []) : fractionText ds = '.' :: ds := by
  cases ds with
  | nil => exact absurd rfl h
  | cons d ds => rfl

theorem head?_take {ds : List Char} {k : Nat} (hk : 0 < k) : (ds.take k).head? = ds.head? := by
  cases ds with
  | nil => simp
  | cons d ds =>
    obtain ⟨k, rfl⟩ := Nat.exists_eq_add_of_le' hk
    rfl

/-- All digits stand behind the point. -/
theorem denotes_behind (digits k : Nat) :
    Denotes ⟨['0'], List.replicate k '0' ++ Nat.toDigits 10 digits, none⟩ digits
      (-(k + (Nat.toDigits 10 digits).length : Nat)) := by
  have hne : List.replicate k '0' ++ Nat.toDigits 10 digits ≠ [] :=
    List.append_ne_nil_of_right_ne_nil _ Nat.toDigits_ne_nil
  refine ⟨⟨List.cons_ne_nil _ _, rfl, fun _ => rfl, ?_⟩, fun negative => ?_⟩
  · rw [List.all_append, all_isDigit_toDigits]
    simp
  · have hvalue : digitsValue ('0' :: (List.replicate k '0' ++ Nat.toDigits 10 digits)) =
        digits := by
      rw [← List.cons_append, ← List.replicate_succ, digitsValue_zeros_append,
        digitsValue_toDigits]
    rw [exactly_of_point (.inl hne), List.singleton_append, hvalue, List.length_append,
      List.length_replicate, Option.getD_none, Int.zero_sub]

variable {digits : Nat} (h : digits ≠ 0)
include h

theorem lead_ne (hlead : (Nat.toDigits 10 digits).head? = some '0') : False :=
  head?_toDigits_ne_zero (Nat.pos_of_ne_zero h) hlead

/-- All digits stand in front of the point. -/
theorem denotes_zeros (k : Nat) :
    Denotes ⟨Nat.toDigits 10 digits ++ List.replicate k '0', ['0'], none⟩ digits k := by
  refine ⟨⟨by simp, ?_, fun hlead => ?_, rfl⟩, fun negative => ?_⟩
  · rw [List.all_append, all_isDigit_toDigits]
    simp
  · rw [List.head?_append_of_ne_nil _ Nat.toDigits_ne_nil] at hlead
    exact (lead_ne h hlead).elim
  · have hzeros : List.replicate k '0' ++ ['0'] = List.replicate (k + 1) '0' :=
      List.replicate_succ'.symm
    have hvalue : digitsValue (Nat.toDigits 10 digits ++ List.replicate k '0' ++ ['0']) =
        digits * 10 ^ (k + 1) := by
      rw [List.append_assoc, hzeros, digitsValue_append_zeros, digitsValue_toDigits]
    have hplaces : (0 : Int) - 1 + (k + 1 : Nat) = k := by omega
    rw [exactly_of_point (.inl (List.cons_ne_nil _ _)), hvalue, ofDecimal_mul_ten_pow]
    exact congrArg (fun e => (Double.ofDecimal negative digits e).map Number.double) hplaces

/-- The point, or the end of the digits, stands behind some of them. -/
theorem denotes_split {k : Nat} (hk : 0 < k) {exponent : Option Int}
    (hpoint : (Nat.toDigits 10 digits).drop k ≠ [] ∨ exponent.isSome = true) :
    Denotes ⟨(Nat.toDigits 10 digits).take k, (Nat.toDigits 10 digits).drop k, exponent⟩ digits
      (exponent.getD 0 - ((Nat.toDigits 10 digits).length - k : Nat)) := by
  have hdigits : ∀ c ∈ Nat.toDigits 10 digits, c.isDigit = true :=
    List.all_eq_true.1 (all_isDigit_toDigits digits)
  refine ⟨⟨?_, ?_, fun hlead => ?_, ?_⟩, fun negative => ?_⟩
  · rw [ne_eq, List.take_eq_nil_iff, not_or]
    exact ⟨hk.ne', Nat.toDigits_ne_nil⟩
  · exact List.all_eq_true.2 fun c hc => hdigits c (List.mem_of_mem_take hc)
  · rw [head?_take hk] at hlead
    exact (lead_ne h hlead).elim
  · exact List.all_eq_true.2 fun c hc => hdigits c (List.mem_of_mem_drop hc)
  · rw [exactly_of_point hpoint, List.take_append_drop, digitsValue_toDigits, List.length_drop]

/-- The layout of a decimal is the text of a number that denotes it. -/
theorem exists_layout (exponent : Int) :
    ∃ m : Numeral, m.Denotes digits exponent ∧ Double.layout digits exponent = m.text := by
  have hlength : 0 < (Nat.toDigits 10 digits).length :=
    List.length_pos_of_ne_nil Nat.toDigits_ne_nil
  rw [Double.layout]
  dsimp only
  split
  · rename_i hzeros
    obtain ⟨k, rfl⟩ := Int.eq_ofNat_of_zero_le hzeros.1
    exact ⟨_, denotes_zeros h k, by simp [text, fractionText, exponentText]⟩
  split
  · rename_i hzeros hpoint
    generalize hk : (((Nat.toDigits 10 digits).length : Int) + exponent).toNat = k
    have hne : (Nat.toDigits 10 digits).drop k ≠ [] := by
      rw [ne_eq, List.drop_eq_nil_iff]
      omega
    have hdenotes : Denotes ⟨_, _, none⟩ digits _ := denotes_split h (by omega : 0 < k) (.inl hne)
    have hplaces : (0 : Int) - ((Nat.toDigits 10 digits).length - k : Nat) = exponent := by omega
    rw [Option.getD_none, hplaces] at hdenotes
    exact ⟨_, hdenotes, by rw [text, fractionText_of_ne_nil hne]; simp [exponentText]⟩
  split
  · rename_i hpoint
    generalize hk : (-(((Nat.toDigits 10 digits).length : Int) + exponent)).toNat = k
    have hne : List.replicate k '0' ++ Nat.toDigits 10 digits ≠ [] :=
      List.append_ne_nil_of_right_ne_nil _ Nat.toDigits_ne_nil
    have hdenotes := denotes_behind digits k
    have hplaces : -((k + (Nat.toDigits 10 digits).length : Nat) : Int) = exponent := by omega
    rw [hplaces] at hdenotes
    exact ⟨_, hdenotes, by rw [text, fractionText_of_ne_nil hne]; simp [exponentText]⟩
  · generalize hk : ((Nat.toDigits 10 digits).length : Int) + exponent - 1 = e
    have hdenotes : Denotes ⟨_, _, some e⟩ digits _ :=
      denotes_split h Nat.one_pos (.inr rfl)
    have hplaces : e - ((Nat.toDigits 10 digits).length - 1 : Nat) = exponent := by omega
    rw [Option.getD_some, hplaces] at hdenotes
    have hfraction : (if (Nat.toDigits 10 digits).length = 1 then []
        else '.' :: (Nat.toDigits 10 digits).drop 1) =
          fractionText ((Nat.toDigits 10 digits).drop 1) := by
      split
      · rename_i hone
        rw [List.drop_eq_nil_iff.2 hone.le]
        rfl
      · rename_i hone
        rw [fractionText_of_ne_nil]
        rw [ne_eq, List.drop_eq_nil_iff]
        omega
    refine ⟨_, hdenotes, ?_⟩
    rw [hfraction, text, exponentText, List.append_assoc]

end Numeral

/-- The magnitude of a double is written as a number that is read as the double. -/
theorem exists_magnitude (x : Double) : ∃ m : Numeral, m.IsValid ∧
    (if x.mantissa = 0 then ['0', '.', '0'] else Double.layout x.shortest.1 x.shortest.2) = m.text ∧
    exactly x.negative m.whole m.fraction m.exponent = some (.double x) := by
  have hshortest := x.ofDecimal_shortest
  split
  · rename_i hzero
    refine ⟨⟨['0'], ['0'], none⟩, ⟨List.cons_ne_nil _ _, rfl, fun _ => rfl, rfl⟩, rfl, ?_⟩
    rw [exactly_of_point (.inl (List.cons_ne_nil _ _))]
    change (Double.ofDecimal x.negative 0 (0 - 1)).map Number.double = _
    rw [Double.ofDecimal_zero, ← Double.eq_zero_of_mantissa hzero]
    rfl
  · rename_i hzero
    have hdigits : x.shortest.1 ≠ 0 := by
      intro he
      rw [he, Double.ofDecimal_zero] at hshortest
      rw [← Option.some.inj hshortest] at hzero
      exact hzero rfl
    obtain ⟨m, hdenotes, htext⟩ := Numeral.exists_layout hdigits x.shortest.2
    refine ⟨m, hdenotes.valid, htext, ?_⟩
    rw [hdenotes.exactly_eq, hshortest]
    rfl

/-- A double is read as it was: it is the nearest one to the decimal that is written. -/
theorem restores_double (x : Double) : NumberReading.Restores exactly (.double x) := by
  intro rest hstops
  obtain ⟨m, hvalid, htext, hexact⟩ := exists_magnitude x
  have hscan := scanMagnitude_text hvalid exactly x.negative hstops
  rw [hexact] at hscan
  change scanNumber exactly (x.text ++ rest) = _
  rw [Double.text]
  dsimp only
  rw [htext]
  cases hsign : x.negative with
  | true =>
    rw [hsign] at hscan
    rw [if_pos rfl, List.cons_append, scanNumber, hscan]
  | false =>
    rw [hsign] at hscan
    rw [if_neg Bool.false_ne_true, scanNumber, hscan]
    intro cs
    rw [Numeral.text, List.append_assoc]
    exact digits_append_ne hvalid.whole_ne_nil hvalid.whole_digits rfl _ cs

/-- Every number is read as it was. -/
theorem restores_exactly (n : Number) : NumberReading.Restores exactly n := by
  cases n with
  | whole n hn => exact restores_whole keepsWhole_exactly n hn
  | double x => exact restores_double x

end SparkAdmission.Source
