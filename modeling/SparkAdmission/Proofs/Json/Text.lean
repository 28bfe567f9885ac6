import Mathlib.Tactic.SplitIfs
import SparkAdmission.Json.Printer
import SparkAdmission.Json.Scanner

/-!
# Values written and read again

The text of a value says that value, and all of it (`ofTextWith_render`), provided that its numbers
are read as they were. A string is read as it was, whatever characters it holds: what is escaped is
scanned as one unit, and the unit spells the character that was escaped. A number needs to be told
from what follows it (`Stops`); behind a value in an array or object a comma or bracket follows.
-/

namespace SparkAdmission.Source

open Json (escape hexDigit printNumber print printItems printMembers quote)
open Text

/-! ### Strings -/

/-- In front of other units this one spells the character. -/
def TextUnit.Spells (unit : TextUnit) (c : Char) : Prop :=
  ∀ units, spell (unit :: units) = (spell units).map (c :: ·)

theorem spells_char (c : Char) : (TextUnit.char c).Spells c := fun _ => rfl

/-- A code below the blank is no half of a surrogate pair, whatever follows it. -/
theorem spells_code {c : Char} (h : c < ' ') : (TextUnit.code c.toNat).Spells c := by
  have hlt : c.toNat < 32 := h
  have hhigh : isHighSurrogate c.toNat = false := by
    simp only [isHighSurrogate, Bool.and_eq_false_iff, decide_eq_false_iff_not]
    omega
  have hlow : isLowSurrogate c.toNat = false := by
    simp only [isLowSurrogate, Bool.and_eq_false_iff, decide_eq_false_iff_not]
    omega
  intro units
  cases units with
  | nil => simp [spell, hhigh, hlow]
  | cons unit units => cases unit <;> simp [spell, hhigh, hlow]

theorem hexValue?_hexDigit : ∀ d < 16, hexValue? (hexDigit d) = some d := by decide

theorem hexQuad?_of_lt {n : Nat} (h : n < 256) :
    hexQuad? '0' '0' (hexDigit (n / 16)) (hexDigit (n % 16)) = some n := by
  have hzero : hexValue? '0' = some 0 := rfl
  have hhigh := hexValue?_hexDigit (n / 16) (by omega)
  have hlow := hexValue?_hexDigit (n % 16) (by omega)
  simp only [hexQuad?, hzero, hhigh, hlow, Option.bind_eq_bind, Option.bind_some, Option.pure_def,
    Option.some.injEq]
  omega

/-- How a character is written in a string. -/
inductive IsWritten (c : Char) : List Char → Prop
  /-- By an escape of its own. -/
  | short {e : Char} (ne : e ≠ 'u') (simple : simpleEscape? e = some c) : IsWritten c ['\\', e]
  /-- By its code. -/
  | code (lt : c < ' ') : IsWritten c
      ['\\', 'u', '0', '0', hexDigit (c.toNat / 16), hexDigit (c.toNat % 16)]
  /-- As it is. -/
  | plain (not_lt : ¬ c < ' ') (ne_quote : c ≠ '"') (ne_backslash : c ≠ '\\') : IsWritten c [c]

theorem isWritten_escape (c : Char) : IsWritten c (escape c) := by
  have hshort : ∀ {e d : Char}, e ≠ 'u' → simpleEscape? e = some d → c = d →
      IsWritten c ['\\', e] := fun hne hsimple hc => .short hne (hc ▸ hsimple)
  unfold escape
  split_ifs with hquote hbackslash hb ht hn hf hr hlt
  · exact hshort (by decide) rfl hquote
  · exact hshort (by decide) rfl hbackslash
  · exact hshort (by decide) rfl hb
  · exact hshort (by decide) rfl ht
  · exact hshort (by decide) rfl hn
  · exact hshort (by decide) rfl hf
  · exact hshort (by decide) rfl hr
  · exact .code hlt
  · exact .plain hlt hquote hbackslash

/-- A character as it is written in a string is scanned as a unit that spells it. -/
theorem exists_unit_of_escape (c : Char) : ∃ unit : TextUnit, unit.Spells c ∧
    ∀ rest, scanUnits (escape c ++ rest) =
      (scanUnits rest).map fun scanned => (unit :: scanned.1, scanned.2) := by
  have hwritten := isWritten_escape c
  generalize escape c = cs at hwritten
  cases hwritten with
  | @short e ne simple =>
    refine ⟨_, spells_char c, fun rest => ?_⟩
    change scanUnits ('\\' :: e :: rest) = _
    rw [scanUnits, simple]
    · cases scanUnits rest <;> rfl
    · exact fun _ _ _ _ _ he _ => ne he
  | code lt =>
    refine ⟨_, spells_code lt, fun rest => ?_⟩
    have hquad : hexQuad? '0' '0' (hexDigit (c.toNat / 16)) (hexDigit (c.toNat % 16)) =
        some c.toNat := hexQuad?_of_lt (Nat.lt_trans (show c.toNat < 32 from lt) (by decide))
    change scanUnits ('\\' :: 'u' :: '0' :: '0' :: hexDigit _ :: hexDigit _ :: rest) = _
    rw [scanUnits, hquad]
    cases scanUnits rest <;> rfl
  | plain not_lt ne_quote ne_backslash =>
    refine ⟨_, spells_char c, fun rest => ?_⟩
    rw [List.singleton_append, scanUnits, if_neg not_lt]
    · cases scanUnits rest <;> rfl
    · exact ne_quote
    · exact fun _ _ _ _ _ he _ => ne_backslash he
    · exact fun _ _ he _ => ne_backslash he

theorem exists_units (cs rest : List Char) :
    ∃ units, scanUnits (cs.flatMap escape ++ '"' :: rest) = some (units, rest) ∧
      spell units = some cs := by
  induction cs with
  | nil => exact ⟨[], rfl, rfl⟩
  | cons c cs ih =>
    obtain ⟨units, hscan, hspell⟩ := ih
    obtain ⟨unit, hspells, hunit⟩ := exists_unit_of_escape c
    refine ⟨unit :: units, ?_, ?_⟩
    · rw [List.flatMap_cons, List.append_assoc, hunit, hscan, Option.map_some]
    · rw [hspells, hspell, Option.map_some]

/-- A string is read as it was, whatever characters it holds. -/
theorem scanString_quote (s : String) (rest : List Char) :
    scanString (s.toList.flatMap escape ++ '"' :: rest) = some (some s, rest) := by
  obtain ⟨units, hscan, hspell⟩ := exists_units s.toList rest
  rw [scanString, hscan, Option.map_some]
  dsimp only
  rw [hspell, Option.map_some, String.ofList_toList]

/-! ### Numbers in a value -/

/-- A property of every number in a value. -/
inductive Numbers (p : Number → Prop) : Json → Prop
  | null : Numbers p .null
  | bool (b : Bool) : Numbers p (.bool b)
  | number {n : Number} (holds : p n) : Numbers p (.number n)
  | string (s : String) : Numbers p (.string s)
  | array {items : List Json} (each : ∀ j ∈ items, Numbers p j) : Numbers p (.array items)
  | object {members : List (String × Json)} (each : ∀ m ∈ members, Numbers p m.2) :
      Numbers p (.object members)

attribute [simp] Numbers.null Numbers.bool Numbers.string

@[simp] theorem numbers_number {p : Number → Prop} {n : Number} :
    Numbers p (.number n) ↔ p n :=
  ⟨fun | .number holds => holds, .number⟩

@[simp] theorem numbers_array {p : Number → Prop} {items : List Json} :
    Numbers p (.array items) ↔ ∀ j ∈ items, Numbers p j :=
  ⟨fun | .array each => each, .array⟩

@[simp] theorem numbers_object {p : Number → Prop} {members : List (String × Json)} :
    Numbers p (.object members) ↔ ∀ m ∈ members, Numbers p m.2 :=
  ⟨fun | .object each => each, .object⟩

mutual

theorem Numbers.of_forall {p : Number → Prop} (h : ∀ n, p n) : (j : Json) → Numbers p j
  | .null => .null
  | .bool b => .bool b
  | .number n => .number (h n)
  | .string s => .string s
  | .array items => .array (numbers_of_items h items)
  | .object members => .object (numbers_of_members h members)

theorem numbers_of_items {p : Number → Prop} (h : ∀ n, p n) :
    (items : List Json) → ∀ j ∈ items, Numbers p j
  | [] => List.forall_mem_nil _
  | j :: rest => List.forall_mem_cons.2 ⟨Numbers.of_forall h j, numbers_of_items h rest⟩

theorem numbers_of_members {p : Number → Prop} (h : ∀ n, p n) :
    (members : List (String × Json)) → ∀ m ∈ members, Numbers p m.2
  | [] => List.forall_mem_nil _
  | (_, j) :: rest => List.forall_mem_cons.2 ⟨Numbers.of_forall h j, numbers_of_members h rest⟩

end

theorem Numbers.imp {p q : Number → Prop} (hpq : ∀ n, p n → q n) {j : Json} (h : Numbers p j) :
    Numbers q j := by
  induction h with
  | null => exact .null
  | bool b => exact .bool b
  | number holds => exact .number (hpq _ holds)
  | string s => exact .string s
  | array each ih => exact .array ih
  | object each ih => exact .object ih

/-! ### Values -/

/-- Nothing that could belong to a number follows. -/
def Stops (rest : List Char) : Prop :=
  ∀ c ∈ rest.head?, c.isDigit = false ∧ c ≠ '.' ∧ c ≠ 'e' ∧ c ≠ 'E'

/-- The number is read as it was, whatever stops it. -/
def NumberReading.Restores (reading : NumberReading) (n : Number) : Prop :=
  ∀ rest, Stops rest → scanNumber reading (printNumber n ++ rest) = some (some n, rest)

/-- The value is read as it was, whatever stops it, when the calls are enough for its text. -/
def NumberReading.Scans (reading : NumberReading) (j : Json) : Prop :=
  ∀ fuel rest, Stops rest → 2 * j.print.length ≤ fuel →
    scanValue reading fuel (j.print ++ rest) = (ofJson j, rest)

theorem stops_of_mem {c : Char} (h : c ∈ [',', ']', '\x7d']) (rest : List Char) :
    Stops (c :: rest) := by
  intro d hd
  cases hd
  obtain rfl | rfl | rfl : c = ',' ∨ c = ']' ∨ c = '\x7d' := by simpa using h
  all_goals decide

theorem skipBlanks_cons {c : Char} (h : isBlank c = false) (cs : List Char) :
    skipBlanks (c :: cs) = c :: cs := by
  rw [skipBlanks, List.dropWhile_cons_of_neg (by simp [h])]

variable {reading : NumberReading}

/-- A number starts with its sign or with a digit. -/
def IsStart (c : Char) : Prop := c = '-' ∨ c.isDigit = true

theorem isStart_of_scanNumber {cs : List Char} {result : Option Number × List Char}
    (h : scanNumber reading cs = some result) : ∃ c rest, cs = c :: rest ∧ IsStart c := by
  cases cs with
  | nil => cases h
  | cons c rest =>
    refine ⟨c, rest, rfl, ?_⟩
    by_cases hminus : c = '-'
    · exact .inl hminus
    · cases hdigit : c.isDigit with
      | true => exact .inr hdigit
      | false =>
        have hwhole : scanWhole (c :: rest) = none := by simp [scanWhole, spanDigits, hdigit]
        rw [scanNumber, scanMagnitude, hwhole] at h
        · cases h
        · exact fun _ he => hminus (List.cons.inj he).1

/-- What starts a number starts nothing else. -/
theorem IsStart.ne {c d : Char} (h : IsStart c)
    (hd : d ∈ [' ', '\n', '\t', '\r', '\x7b', '[', '"', 'n', 't', 'f', ']']) : c ≠ d := by
  rintro rfl
  have hnone : [' ', '\n', '\t', '\r', '\x7b', '[', '"', 'n', 't', 'f', ']'].all
      (fun c => c != '-' && !c.isDigit) = true := by decide
  have hc : c ≠ '-' ∧ c.isDigit = false := by simpa using List.all_eq_true.1 hnone c hd
  exact h.elim hc.1 (ne_true_of_eq_false hc.2)

theorem IsStart.isBlank_eq_false {c : Char} (h : IsStart c) : isBlank c = false := by
  simp [isBlank, h.ne]

theorem scanValue_of_isStart {c : Char} (h : IsStart c) (cs : List Char) (fuel : Nat) :
    scanValue reading (fuel + 1) (c :: cs) =
      match scanNumber reading (c :: cs) with
      | some (n, rest) => (.number n, rest)
      | none => (.fault, []) := by
  rw [scanValue, skipBlanks_cons h.isBlank_eq_false]
  split
  any_goals
    rename_i heq
    exact absurd (List.cons.inj heq).1 (h.ne (by decide))
  rfl

/-- How the text of a value starts. -/
theorem exists_print_eq_cons (reading : NumberReading) {j : Json}
    (h : ∀ n, j = .number n → reading.Restores n) :
    ∃ c cs, j.print = c :: cs ∧ isBlank c = false ∧ c ≠ ']' := by
  cases j with
  | null => exact ⟨_, _, rfl, rfl, by decide⟩
  | bool b => cases b <;> exact ⟨_, _, rfl, rfl, by decide⟩
  | number n =>
    have hscan := h n rfl [] nofun
    rw [List.append_nil] at hscan
    obtain ⟨c, cs, hcs, hc⟩ := isStart_of_scanNumber hscan
    exact ⟨c, cs, hcs, hc.isBlank_eq_false, hc.ne (by decide)⟩
  | string s => exact ⟨_, _, rfl, rfl, by decide⟩
  | array items => cases items <;> exact ⟨_, _, rfl, rfl, by decide⟩
  | object members => cases members <;> exact ⟨_, _, rfl, rfl, by decide⟩

theorem stops_printItems (xs : List Json) (rest : List Char) : Stops (printItems xs ++ rest) := by
  cases xs <;> exact stops_of_mem (by decide) _

theorem stops_printMembers (ms : List (String × Json)) (rest : List Char) :
    Stops (printMembers ms ++ rest) := by
  cases ms <;> exact stops_of_mem (by decide) _

theorem scanItems_close {fuel : Nat} {cs rest : List Char} {s : Source}
    (h : scanValue reading fuel cs = (s, ']' :: rest)) :
    scanItems reading (fuel + 1) cs = ([s], true, rest) := by
  rw [scanItems, h]
  rfl

theorem scanItems_more {fuel : Nat} {cs next rest : List Char} {s : Source} {items : List Source}
    {closed : Bool} (h : scanValue reading fuel cs = (s, ',' :: next))
    (hmore : scanItems reading fuel next = (items, closed, rest)) :
    scanItems reading (fuel + 1) cs = (s :: items, closed, rest) := by
  have hcomma : skipBlanks (',' :: next) = ',' :: next := rfl
  rw [scanItems, h]
  simp only [hcomma, hmore]

theorem scanItems_print {x : Json} {xs : List Json} (h : ∀ j ∈ x :: xs, reading.Scans j)
    {fuel : Nat} (hfuel : 2 * (print x ++ printItems xs).length ≤ fuel) (rest : List Char) :
    scanItems reading fuel (print x ++ (printItems xs ++ rest)) =
      ((x :: xs).map ofJson, true, rest) := by
  induction xs generalizing x fuel with
  | nil =>
    obtain ⟨hx, -⟩ := List.forall_mem_cons.1 h
    rw [List.length_append, printItems, List.length_singleton] at hfuel
    obtain ⟨fuel, rfl⟩ : ∃ k, fuel = k + 1 := Nat.exists_eq_add_of_le' (by omega)
    exact scanItems_close (hx fuel _ (stops_printItems [] rest) (by omega))
  | cons y ys ih =>
    obtain ⟨hx, hys⟩ := List.forall_mem_cons.1 h
    rw [List.length_append, printItems, List.length_cons] at hfuel
    obtain ⟨fuel, rfl⟩ : ∃ k, fuel = k + 1 := Nat.exists_eq_add_of_le' (by omega)
    refine scanItems_more (hx fuel _ (stops_printItems (y :: ys) rest) (by omega)) ?_
    change scanItems reading fuel (print y ++ printItems ys ++ rest) = _
    rw [List.append_assoc]
    exact ih hys (by omega)

theorem scanMembers_close {fuel : Nat} {cs next rest : List Char} {name : Option String}
    {s : Source} (hname : scanString cs = some (name, ':' :: next))
    (h : scanValue reading fuel next = (s, '\x7d' :: rest)) :
    scanMembers reading (fuel + 1) ('"' :: cs) = ([(name, s)], true, rest) := by
  have hquote : skipBlanks ('"' :: cs) = '"' :: cs := rfl
  have hcolon : skipBlanks (':' :: next) = ':' :: next := rfl
  have hbrace : skipBlanks ('\x7d' :: rest) = '\x7d' :: rest := rfl
  rw [scanMembers]
  simp only [hquote, hname, hcolon, h, hbrace]

theorem scanMembers_more {fuel : Nat} {cs next behind rest : List Char} {name : Option String}
    {s : Source} {members : List (Option String × Source)} {closed : Bool}
    (hname : scanString cs = some (name, ':' :: next))
    (h : scanValue reading fuel next = (s, ',' :: behind))
    (hmore : scanMembers reading fuel behind = (members, closed, rest)) :
    scanMembers reading (fuel + 1) ('"' :: cs) = ((name, s) :: members, closed, rest) := by
  have hquote : skipBlanks ('"' :: cs) = '"' :: cs := rfl
  have hcolon : skipBlanks (':' :: next) = ':' :: next := rfl
  have hcomma : skipBlanks (',' :: behind) = ',' :: behind := rfl
  rw [scanMembers]
  simp only [hquote, hname, hcolon, h, hcomma, hmore]

theorem scanMembers_print {name : String} {x : Json} {ms : List (String × Json)}
    (h : ∀ m ∈ (name, x) :: ms, reading.Scans m.2) {fuel : Nat}
    (hfuel : 2 * (quote name ++ ':' :: (print x ++ printMembers ms)).length ≤ fuel)
    (rest : List Char) :
    scanMembers reading fuel (quote name ++ ':' :: (print x ++ (printMembers ms ++ rest))) =
      (((name, x) :: ms).map fun m => (some m.1, ofJson m.2), true, rest) := by
  induction ms generalizing name x fuel with
  | nil =>
    have hx : reading.Scans x := h _ List.mem_cons_self
    simp only [List.length_append, List.length_cons, printMembers] at hfuel
    obtain ⟨fuel, rfl⟩ : ∃ k, fuel = k + 1 := Nat.exists_eq_add_of_le' (by omega)
    rw [quote, List.cons_append, List.append_assoc, List.singleton_append]
    exact scanMembers_close (scanString_quote name _)
      (hx fuel _ (stops_printMembers [] rest) (by omega))
  | cons m ms ih =>
    obtain ⟨next, y⟩ := m
    have hx : reading.Scans x := h _ List.mem_cons_self
    have hms : ∀ m ∈ (next, y) :: ms, reading.Scans m.2 :=
      fun m hm => h m (List.mem_cons_of_mem _ hm)
    simp only [List.length_append, List.length_cons, printMembers] at hfuel
    obtain ⟨fuel, rfl⟩ : ∃ k, fuel = k + 1 := Nat.exists_eq_add_of_le' (by omega)
    rw [quote, List.cons_append, List.append_assoc, List.singleton_append]
    refine scanMembers_more (scanString_quote name _)
      (hx fuel _ (stops_printMembers ((next, y) :: ms) rest) (by omega)) ?_
    change scanMembers reading fuel
      (quote next ++ ':' :: (print y ++ printMembers ms) ++ rest) = _
    rw [List.append_assoc, List.cons_append, List.append_assoc]
    refine ih hms ?_
    simp only [List.length_append, List.length_cons]
    omega

theorem scanValue_bracket {c : Char} (hblank : isBlank c = false) (hne : c ≠ ']')
    {cs rest : List Char} {fuel : Nat} {items : List Source} {closed : Bool}
    (h : scanItems reading fuel (c :: cs) = (items, closed, rest)) :
    scanValue reading (fuel + 1) ('[' :: c :: cs) = (.array items closed, rest) := by
  have hbracket : skipBlanks ('[' :: c :: cs) = '[' :: c :: cs := rfl
  rw [scanValue, hbracket]
  simp only [skipBlanks_cons hblank]
  split
  · rename_i heq
    exact absurd (List.cons.inj heq).1 hne
  · rw [h]

theorem scanValue_brace {cs rest : List Char} {fuel : Nat}
    {members : List (Option String × Source)} {closed : Bool}
    (h : scanMembers reading fuel ('"' :: cs) = (members, closed, rest)) :
    scanValue reading (fuel + 1) ('\x7b' :: '"' :: cs) = (.object members closed, rest) := by
  have hbrace : skipBlanks ('\x7b' :: '"' :: cs) = '\x7b' :: '"' :: cs := rfl
  have hquote : skipBlanks ('"' :: cs) = '"' :: cs := rfl
  rw [scanValue, hbrace]
  simp only [hquote]
  split
  · rename_i heq
    exact absurd (List.cons.inj heq).1 (by decide)
  · rw [h]

/-- A text that is not empty leaves a call for its value. -/
theorem NumberReading.Scans.of_succ {j : Json} (hpos : 0 < j.print.length)
    (h : ∀ fuel rest, Stops rest → 2 * j.print.length ≤ fuel + 1 →
      scanValue reading (fuel + 1) (j.print ++ rest) = (ofJson j, rest)) : reading.Scans j := by
  intro fuel rest hstops hfuel
  obtain ⟨fuel, rfl⟩ : ∃ k, fuel = k + 1 := Nat.exists_eq_add_of_le' (by omega)
  exact h fuel rest hstops hfuel

theorem scans_number {n : Number} (h : reading.Restores n) : reading.Scans (.number n) := by
  have hpos : 0 < (printNumber n).length := by
    obtain ⟨c, cs, hcs, -⟩ := isStart_of_scanNumber (h [] nofun)
    rw [List.append_nil] at hcs
    rw [hcs]
    exact Nat.succ_pos _
  refine .of_succ hpos fun fuel rest hstops _ => ?_
  have hscan := h rest hstops
  obtain ⟨c, cs, hcs, hc⟩ := isStart_of_scanNumber hscan
  change scanValue reading (fuel + 1) (printNumber n ++ rest) = _
  rw [hcs, scanValue_of_isStart hc, ← hcs, hscan]
  rfl

theorem scans_string (s : String) : reading.Scans (.string s) := by
  refine .of_succ (Nat.succ_pos _) fun fuel rest _ _ => ?_
  change scanValue reading (fuel + 1) (quote s ++ rest) = _
  have hquote : ∀ cs, skipBlanks ('"' :: cs) = '"' :: cs := fun _ => rfl
  rw [quote, List.cons_append, List.append_assoc, List.singleton_append, scanValue, hquote]
  simp only [scanString_quote]
  rfl

theorem scans_array {items : List Json} (h : ∀ j ∈ items, reading.Scans j)
    (hstart : ∀ j ∈ items, ∃ c cs, j.print = c :: cs ∧ isBlank c = false ∧ c ≠ ']') :
    reading.Scans (.array items) := by
  cases items with
  | nil => exact .of_succ (Nat.succ_pos _) fun _ _ _ _ => rfl
  | cons x xs =>
    refine .of_succ (Nat.succ_pos _) fun fuel rest _ hfuel => ?_
    rw [print, List.length_cons] at hfuel
    have hitems : scanItems reading fuel _ = _ := scanItems_print h (by omega) rest
    obtain ⟨c, cs, hcs, hblank, hne⟩ := hstart x List.mem_cons_self
    rw [hcs, List.cons_append] at hitems
    rw [print, hcs, List.cons_append, List.append_assoc, List.cons_append]
    rw [scanValue_bracket hblank hne hitems, ofJson, ofItems_eq_map]

theorem scans_object {members : List (String × Json)} (h : ∀ m ∈ members, reading.Scans m.2) :
    reading.Scans (.object members) := by
  cases members with
  | nil => exact .of_succ (Nat.succ_pos _) fun _ _ _ _ => rfl
  | cons m ms =>
    obtain ⟨name, x⟩ := m
    refine .of_succ (Nat.succ_pos _) fun fuel rest _ hfuel => ?_
    rw [print, List.length_cons] at hfuel
    have hmembers : scanMembers reading fuel _ = _ := scanMembers_print h (by omega) rest
    rw [quote, List.cons_append] at hmembers
    have htext : print (.object ((name, x) :: ms)) ++ rest = '\x7b' :: '"' ::
        (name.toList.flatMap escape ++ ['"'] ++ ':' :: (print x ++ (printMembers ms ++ rest))) := by
      simp [print, quote]
    rw [htext, scanValue_brace hmembers, ofJson, ofMembers_eq_map]

/-- A value whose numbers are read as they were is read as it was. -/
theorem scans_of_numbers {j : Json} (h : Numbers reading.Restores j) : reading.Scans j := by
  induction h with
  | null => exact .of_succ (Nat.succ_pos _) fun _ _ _ _ => rfl
  | bool b => cases b <;> exact .of_succ (Nat.succ_pos _) fun _ _ _ _ => rfl
  | number holds => exact scans_number holds
  | string s => exact scans_string s
  | array each ih =>
    refine scans_array ih fun j hj => exists_print_eq_cons reading fun n hn => ?_
    exact numbers_number.1 (hn ▸ each j hj)
  | object each ih => exact scans_object ih

/-- A value whose numbers are read as they were is what its text says, and all that it says. -/
theorem ofTextWith_render {j : Json} (h : Numbers reading.Restores j) :
    ofTextWith reading j.render = (ofJson j, true) := by
  have hscan := scans_of_numbers h (2 * j.print.length + 2) [] nofun (by omega)
  rw [List.append_nil] at hscan
  rw [ofTextWith, Json.render, String.toList_ofList]
  simp only [hscan]
  rfl

end SparkAdmission.Source
