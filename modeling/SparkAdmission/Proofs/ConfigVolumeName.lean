import SparkAdmission.Derivation

/-!
# Names of volumes for config maps

The name of a volume has to be a label: at most 63 lower case letters, digits and hyphens, with a
hyphen at neither end. The name made for a config map is cut to the greatest length wherever that
is, so of a label it has everything but the end (`isLabel_configVolumeName_iff`): the cut may fall
behind a hyphen of the config map's name, or behind the hyphen of `-vol`. A name of 62 characters
is the shortest that is cut there (`not_forall_isLabel_configVolumeName`).

What is cut off is lost, so config maps may share the name of a volume. Only long names that begin
alike do (`configVolumeName_shared`): four characters are the most that `-vol` can take of a name.
-/

namespace SparkAdmission

/-! ### Labels -/

namespace Label

/-- The greatest number of characters of a label. -/
def maxLength : Nat := 63

/-- Whether this is a lower case letter or a digit. -/
def isAlphanumeric (c : Char) : Bool := c.isLower || c.isDigit

/-- Whether this may stand in a label. -/
def isLabelChar (c : Char) : Bool := isAlphanumeric c || c == '-'

/-- A label but for its length. -/
structure IsWord (cs : List Char) : Prop where
  chars : ∀ c ∈ cs, isLabelChar c
  first : cs.head?.any isAlphanumeric
  last : cs.getLast?.any isAlphanumeric

/-- A label. -/
structure IsLabel (name : String) : Prop where
  isWord : IsWord name.toList
  length_le : name.length ≤ maxLength

theorem isAlphanumeric_iff_ne_hyphen {c : Char} (h : isLabelChar c) :
    isAlphanumeric c ↔ c ≠ '-' := by
  constructor
  · rintro hc rfl
    exact absurd hc (by decide)
  · intro hc
    exact (Bool.or_eq_true_iff.1 h).resolve_right fun he => hc (beq_iff_eq.1 he)

end Label

open Label

/-! ### The cut -/

/-- What stands behind the name of a config map. -/
def volumeSuffix : List Char := ['-', 'v', 'o', 'l']

theorem isLabelChar_of_mem_volumeSuffix {c : Char} (h : c ∈ volumeSuffix) : isLabelChar c :=
  List.all_eq_true.1 (rfl : volumeSuffix.all isLabelChar = true) c h

theorem toList_configVolumeName (name : String) (max : Nat) :
    (configVolumeName name max).toList = (name.toList ++ volumeSuffix).take max := by
  rw [configVolumeName, String.toList_ofList, String.toList_append]
  rfl

theorem length_configVolumeName (name : String) (max : Nat) :
    (configVolumeName name max).length = min (name.length + 4) max := by
  rw [← String.length_toList, toList_configVolumeName, List.length_take, List.length_append,
    String.length_toList, Nat.min_comm]
  rfl

/-- The last character is the one at which the name is cut, and the last one of `-vol` where nothing
is cut off. -/
theorem getLast?_configVolumeName (name : String) {max : Nat} (hpos : 0 < max) :
    (configVolumeName name max).toList.getLast? =
      ((name.toList ++ volumeSuffix)[max - 1]?).or (some 'l') := by
  rw [toList_configVolumeName, List.getLast?_take, if_neg (Nat.ne_of_gt hpos),
    List.getLast?_append]
  rfl

/-- The character at the cut is no hyphen exactly when it is neither a hyphen of the name nor the
one behind the name. -/
theorem any_isAlphanumeric_getLast?_iff {name : String} (h : IsWord name.toList) {max : Nat}
    (hpos : 0 < max) :
    (configVolumeName name max).toList.getLast?.any isAlphanumeric ↔
      name.length + 1 ≠ max ∧ name.toList[max - 1]? ≠ some '-' := by
  rw [getLast?_configVolumeName name hpos]
  have hlength : name.toList.length = name.length := String.length_toList
  rcases Nat.lt_or_ge (max - 1) name.length with hlt | hge
  · -- the cut falls into the name
    have hchar := h.chars _ (List.getElem_mem (hlength ▸ hlt : max - 1 < name.toList.length))
    rw [List.getElem?_append_left (hlength ▸ hlt), List.getElem?_eq_getElem (hlength ▸ hlt),
      Option.some_or, Option.any_some, isAlphanumeric_iff_ne_hyphen hchar]
    exact ⟨fun hc => ⟨by omega, fun he => hc (Option.some.inj he)⟩,
      fun hc he => hc.2 (congrArg some he)⟩
  · -- the cut falls behind the name
    obtain ⟨k, hk⟩ := Nat.exists_eq_add_of_le hge
    have hnone : name.toList[max - 1]? = none := List.getElem?_eq_none (hlength ▸ hge)
    have hbehind : (name.toList ++ volumeSuffix)[max - 1]? = volumeSuffix[k]? := by
      rw [List.getElem?_append_right (hlength ▸ hge), hlength, hk, Nat.add_sub_cancel_left]
    have hmax : name.length + 1 ≠ max ↔ k ≠ 0 := by omega
    rw [hnone, hbehind, hmax]
    match k with
    | 0 | 1 | 2 | 3 => decide
    | k + 4 => simp [volumeSuffix, isAlphanumeric]

/-- The name of a volume for a config map whose name is a label, or one but for its length, is cut
to at most the greatest length. It has at least one character, consists of lower case letters,
digits and hyphens, and does not begin with a hyphen. It is a label exactly when it does not end
with a hyphen either, that is, when the name of the config map is not one character shorter than the
greatest length and has no hyphen as the last character within it. -/
theorem isLabel_configVolumeName_iff {name : String} (h : IsWord name.toList) {max : Nat}
    (hpos : 0 < max) (hmax : max ≤ Label.maxLength) :
    (configVolumeName name max).length = min (name.length + 4) max ∧
      0 < (configVolumeName name max).length ∧
      (∀ c ∈ (configVolumeName name max).toList, isLabelChar c) ∧
      (configVolumeName name max).toList.head?.any isAlphanumeric ∧
      (IsLabel (configVolumeName name max) ↔
        name.length + 1 ≠ max ∧ name.toList[max - 1]? ≠ some '-') := by
  have hlength := length_configVolumeName name max
  have hchars : ∀ c ∈ (configVolumeName name max).toList, isLabelChar c := by
    intro c hc
    rw [toList_configVolumeName] at hc
    rcases List.mem_append.1 (List.mem_of_mem_take hc) with hc | hc
    · exact h.chars c hc
    · exact isLabelChar_of_mem_volumeSuffix hc
  have hfirst : (configVolumeName name max).toList.head?.any isAlphanumeric := by
    rw [toList_configVolumeName, List.head?_take, if_neg (Nat.ne_of_gt hpos), List.head?_append]
    cases hname : name.toList.head? with
    | none => simpa [hname] using h.first
    | some c => simpa [hname] using h.first
  refine ⟨hlength, by omega, hchars, hfirst, ?_⟩
  rw [← any_isAlphanumeric_getLast?_iff h hpos]
  exact ⟨fun hl => hl.isWord.last, fun hlast => ⟨⟨hchars, hfirst, hlast⟩, by omega⟩⟩

/-- A name of so many letters. -/
def repeatedName (n : Nat) : String := String.ofList (List.replicate n 'n')

theorem length_repeatedName (n : Nat) : (repeatedName n).length = n := by
  rw [repeatedName, String.length_ofList, List.length_replicate]

theorem isWord_repeatedName {n : Nat} (h : n ≠ 0) : IsWord (repeatedName n).toList := by
  rw [repeatedName, String.toList_ofList]
  refine ⟨fun c hc => ?_, ?_, ?_⟩
  · rw [List.eq_of_mem_replicate hc]
    rfl
  · rw [List.head?_replicate, if_neg h]
    rfl
  · rw [List.getLast?_replicate, if_neg h]
    rfl

/-- A name of 70 characters is cut within itself. -/
theorem isLabel_configVolumeName_iff_sample :
    IsWord (repeatedName 70).toList ∧
      0 < ({} : Settings).maxNameLength ∧ ({} : Settings).maxNameLength ≤ Label.maxLength ∧
      IsLabel (configVolumeName (repeatedName 70) ({} : Settings).maxNameLength) := by
  have hword : IsWord (repeatedName 70).toList := isWord_repeatedName nofun
  obtain ⟨-, -, -, -, hiff⟩ := isLabel_configVolumeName_iff hword
    (by decide : 0 < ({} : Settings).maxNameLength) (by decide)
  refine ⟨hword, by decide, by decide, hiff.2 ⟨?_, fun hhyphen => ?_⟩⟩
  · rw [length_repeatedName]
    decide
  · rw [repeatedName, String.toList_ofList, List.getElem?_replicate_of_lt (by decide)] at hhyphen
    cases hhyphen

/-- A name of 62 characters is cut behind the hyphen of `-vol`. -/
theorem not_forall_isLabel_configVolumeName :
    ¬ ∀ name : String, IsWord name.toList →
      IsLabel (configVolumeName name ({} : Settings).maxNameLength) := by
  intro h
  have hword : IsWord (repeatedName 62).toList := isWord_repeatedName nofun
  have hlast := (h _ hword).isWord.last
  rw [any_isAlphanumeric_getLast?_iff hword (by decide), length_repeatedName] at hlast
  exact hlast.1 rfl

/-! ### Config maps that share the name of a volume -/

theorem prefix_configVolumeName (name : String) (max : Nat) :
    (configVolumeName name max).toList <+: (name ++ "-vol").toList := by
  rw [configVolumeName, String.toList_ofList]
  exact List.take_prefix _ _

/-- A name of which nothing is cut off. -/
theorem configVolumeName_of_le {name : String} {max : Nat} (h : name.length + 4 ≤ max) :
    configVolumeName name max = name ++ "-vol" := by
  have hlength : (name ++ "-vol").toList.length ≤ max := by
    rw [String.length_toList, String.length_append]
    exact h
  rw [configVolumeName, List.take_of_length_le hlength, String.ofList_toList]

/-- A name that is long enough fills the name of its volume but for four characters. -/
theorem take_configVolumeName {name : String} {max : Nat} (h : max - 4 ≤ name.length) :
    (configVolumeName name max).toList.take (max - 4) = name.toList.take (max - 4) := by
  rw [← String.length_toList] at h
  rw [toList_configVolumeName, List.take_take, Nat.min_eq_left (Nat.sub_le max 4),
    List.take_append_of_le_length h]

variable {a b : String} {max : Nat}

/-- Names that `-vol` fits behind have volumes with names of their own. -/
theorem eq_of_configVolumeName_eq_of_le (ha : a.length ≤ max - 4) (hb : b.length ≤ max - 4)
    (h : configVolumeName a max = configVolumeName b max) : a = b := by
  rcases Nat.lt_or_ge max 4 with hmax | hmax
  · -- `-vol` alone is longer, and the names have no characters
    have hazero : a = "" := String.length_eq_zero_iff.1 (by omega)
    have hbzero : b = "" := String.length_eq_zero_iff.1 (by omega)
    rw [hazero, hbzero]
  · rw [configVolumeName_of_le (by omega), configVolumeName_of_le (by omega)] at h
    exact (String.append_left_inj _).1 h

/-- A name that `-vol` fits behind with room to spare shares the name of its volume with no other,
since a name that is cut has no room to spare. -/
theorem eq_of_configVolumeName_eq_of_lt (ha : a.length < max - 4)
    (h : configVolumeName a max = configVolumeName b max) : a = b := by
  have hlength := congrArg String.length h
  rw [length_configVolumeName, length_configVolumeName] at hlength
  exact eq_of_configVolumeName_eq_of_le (by omega) (by omega) h

/-- The name of a volume is as much of the config map's name with `-vol` as fits into the greatest
length. When it is that of two config maps, both names have as many characters as `-vol` leaves of
the greatest length, one of them has more, and they agree in that many. So a name with fewer
characters shares the name of its volume with no other. -/
theorem configVolumeName_shared (max : Nat) :
    (∀ name, (configVolumeName name max).toList <+: (name ++ "-vol").toList ∧
        (configVolumeName name max).length = min (name.length + 4) max) ∧
      (∀ a b, a ≠ b → configVolumeName a max = configVolumeName b max →
        (max - 4 ≤ a.length ∧ max - 4 ≤ b.length) ∧
          (max - 4 < a.length ∨ max - 4 < b.length) ∧
          a.toList.take (max - 4) = b.toList.take (max - 4)) ∧
      ∀ a b, a.length < max - 4 → configVolumeName a max = configVolumeName b max → a = b := by
  refine ⟨fun name => ⟨prefix_configVolumeName name max, length_configVolumeName name max⟩,
    fun a b hne h => ?_, fun a b ha h => eq_of_configVolumeName_eq_of_lt ha h⟩
  have ha : max - 4 ≤ a.length :=
    Nat.le_of_not_lt fun hlt => hne (eq_of_configVolumeName_eq_of_lt hlt h)
  have hb : max - 4 ≤ b.length :=
    Nat.le_of_not_lt fun hlt => hne (eq_of_configVolumeName_eq_of_lt hlt h.symm).symm
  have hlong : max - 4 < a.length ∨ max - 4 < b.length := by
    rcases Nat.lt_or_ge (max - 4) a.length with hlt | hle
    · exact .inl hlt
    · rcases Nat.lt_or_ge (max - 4) b.length with hlt' | hle'
      · exact .inr hlt'
      · exact absurd (eq_of_configVolumeName_eq_of_le hle hle' h) hne
  refine ⟨⟨ha, hb⟩, hlong, ?_⟩
  rw [← take_configVolumeName ha, ← take_configVolumeName hb, h]

/-- A name that ends with `-vol` is cut to the name of the volume for what stands before it. -/
theorem configVolumeName_shared_sample :
    "x" ≠ "x-vol" ∧ configVolumeName "x" 5 = configVolumeName "x-vol" 5 ∧
      "x".toList.take 1 = "x-vol".toList.take 1 ∧
      "".length < 5 - 4 ∧ configVolumeName "" 5 ≠ configVolumeName "x" 5 := by
  have hne : "x" ≠ "x-vol" := by decide
  have heq : configVolumeName "x" 5 = configVolumeName "x-vol" 5 := by decide
  have hlt : "".length < 5 - 4 := by decide
  obtain ⟨-, hshared, hown⟩ := configVolumeName_shared 5
  obtain ⟨-, -, hagree⟩ := hshared "x" "x-vol" hne heq
  exact ⟨hne, heq, hagree, hlt, fun h => absurd (hown "" "x" hlt h) (by decide)⟩

end SparkAdmission
