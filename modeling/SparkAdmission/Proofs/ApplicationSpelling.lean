import SparkAdmission.Derivation
import SparkAdmission.Proofs.Json.Spelling

/-!
# Specifications in all their spellings

The specification of an application, what it declares for a role and its entries for config maps
are records. A specification is read alike however these are spelled, and so every pod gets the same
patch from it; it is not read when a list or a role is `null`, when an array has one item too many
or when an entry lacks one of its fields (`ApplicationSpec.read_of_respellings`).
-/

namespace SparkAdmission

open Source Record

/-! ### Entries for config maps -/

namespace ConfigMount

/-- The fields in their order. -/
def fields : List (RecordField (Option String × Option String)) := [
  .of "name" Reader.string fun r v => (some v, r.2),
  .of "path" Reader.string fun r v => (r.1, some v)]

/-- The entry of which these are the fields. -/
def complete (r : Option String × Option String) : Except ReadError ConfigMount := do
  return ⟨← required r.1, ← required r.2⟩

theorem read_eq :
    read = fun depth source => Record.read fields (none, none) depth source >>= complete := rfl

/-- How an entry may be spelled. -/
def spellings : List FieldSpelling := [.required "name", .required "path"]

theorem spelled (depth : Levels) : Spelled fields (none, none) depth spellings where
  independent := {
    nodup := by decide
    commuting := .cons (List.forall_mem_singleton.2 (RecordField.commutes_of fun _ _ _ => rfl))
      (List.pairwise_singleton _ _) }
  spelledAs := .cons .required (.cons .required .nil)

/-- An entry whose fields are spoiled, or that lacks one of them. -/
inductive Spoiled : Source → Source → Prop
  | record {source other : Source} (h : Record.Spoiled spellings source other) :
      Spoiled source other
  | dropped {members : List (Option String × Source)} {closed : Bool} {field : FieldSpelling}
      (h : field ∈ spellings) :
      Spoiled (.object members closed)
        (.object (members.filter fun m => m.1 != some field.name) closed)

/-- Of an entry that is read, no field is absent. -/
theorem mem_names_of_read {depth : Levels} {members : List (Option String × Source)}
    {closed : Bool} {m : ConfigMount} (h : read depth (.object members closed) = .ok m)
    {field : FieldSpelling} (hf : field ∈ spellings) : some field.name ∈ members.map (·.1) := by
  rw [read_eq] at h
  obtain ⟨r, hr, hcomplete⟩ := bind_eq_ok.1 h
  obtain ⟨name, hname, hcomplete⟩ := bind_eq_ok.1 hcomplete
  obtain ⟨path, hpath, -⟩ := bind_eq_ok.1 hcomplete
  obtain ⟨inside, henter⟩ := exists_enter_of_read hr
  by_contra habsent
  simp only [spellings, List.mem_cons, List.not_mem_nil, or_false] at hf
  rcases hf with rfl | rfl
  · have hkeep : ∀ field ∈ fields, field.name ≠ "name" → field.Keeps Prod.fst := by
      simp only [fields, List.forall_mem_cons]
      exact ⟨fun hne => absurd rfl hne, fun _ => RecordField.keeps_of fun _ _ => rfl,
        List.forall_mem_nil _⟩
    rw [part_eq_of_read hkeep habsent henter hr] at hname
    cases hname
  · have hkeep : ∀ field ∈ fields, field.name ≠ "path" → field.Keeps Prod.snd := by
      simp only [fields, List.forall_mem_cons]
      exact ⟨fun _ => RecordField.keeps_of fun _ _ => rfl, fun hne => absurd rfl hne,
        List.forall_mem_nil _⟩
    rw [part_eq_of_read hkeep habsent henter hr] at hpath
    cases hpath

/-- An entry is read alike in all its spellings, and not when it is spoiled. -/
theorem spells_read (depth : Levels) : Reader.Spells read depth (Respelled spellings) Spoiled := by
  have hspells : Reader.Spells read depth (Respelled spellings) (Record.Spoiled spellings) :=
    (Spelled.spells_read fun inside _ => spelled inside).bind complete
  refine ⟨hspells.keeps, fun {source other m} hs hr => ?_⟩
  cases hs with
  | record hs => exact hspells.refuses hs hr
  | dropped hf =>
    obtain ⟨m, hm, hname⟩ := List.mem_map.1 (mem_names_of_read hr hf)
    have hne := (List.mem_filter.1 hm).2
    rw [hname] at hne
    simp at hne

end ConfigMount

/-! ### What is declared for a role -/

namespace Customization

/-- How the entries for config maps may be spelled. -/
def configMapsSpelling : FieldSpelling :=
  .list "configMaps" (Respelled ConfigMount.spellings) ConfigMount.Spoiled

/-- How a customization may be spelled. -/
def spellings : List FieldSpelling := [
  .list "volumeMounts" NoStep NoStep,
  configMapsSpelling,
  .list "tolerations" NoStep NoStep,
  .optional "affinity",
  .optional "securityContext"]

theorem independent_fields : Independent fields where
  nodup := by decide
  commuting := by
    -- each pair of fields sets two different parts
    simp only [fields, List.pairwise_cons, List.forall_mem_cons, List.not_mem_nil, false_implies,
      implies_true, List.Pairwise.nil, and_true]
    and_intros <;> exact RecordField.commutes_of fun _ _ _ => rfl

theorem spelled {depth : Levels} (hroom : Leaves 1 depth) : Spelled fields {} depth spellings where
  independent := independent_fields
  spelledAs := .cons (.list rfl hroom fun _ _ => .noStep) <|
    .cons (.list rfl hroom fun inside _ => ConfigMount.spells_read inside) <|
    .cons (.list rfl hroom fun _ _ => .noStep) <|
    .cons (.optional rfl) (.cons (.optional rfl) .nil)

/-- A customization is read alike in all its spellings, and not when it is spoiled. -/
theorem spells_read {depth : Levels} (hroom : Leaves 2 depth) :
    Reader.Spells read depth (Respelled spellings) (Spoiled spellings) :=
  Spelled.spells_read fun _ henter => spelled (hroom.of_enter henter)

end Customization

/-! ### Specifications -/

namespace ApplicationSpec

/-- How what is declared for the role of that name may be spelled. -/
def roleSpelling (name : String) : FieldSpelling :=
  .record name (Respelled Customization.spellings) (Spoiled Customization.spellings)

/-- How a specification may be spelled. -/
def spellings : List FieldSpelling := [
  .list "volumes" NoStep NoStep,
  roleSpelling "driver",
  roleSpelling "executor",
  .optional "sparkConfigMap",
  .optional "hadoopConfigMap"]

theorem independent_fields : Independent fields where
  nodup := by decide
  commuting := by
    simp only [fields, List.pairwise_cons, List.forall_mem_cons, List.not_mem_nil, false_implies,
      implies_true, List.Pairwise.nil, and_true]
    and_intros <;> exact RecordField.commutes_of fun _ _ _ => rfl

theorem spelled {depth : Levels} (hroom : Leaves 2 depth) : Spelled fields {} depth spellings := by
  have hinside : Leaves 1 depth := hroom.mono (by decide)
  have hrole : Reader.Spells Customization.read depth (Respelled Customization.spellings)
      (Spoiled Customization.spellings) := Customization.spells_read hroom
  exact {
    independent := independent_fields
    spelledAs := .cons (.list rfl hinside fun _ _ => .noStep) <|
      .cons (.record rfl hinside hrole) <| .cons (.record rfl hinside hrole) <|
      .cons (.optional rfl) (.cons (.optional rfl) .nil) }

/-- A specification is read alike in all its spellings, and not when it is spoiled. -/
theorem spells_read {depth : Levels} (hroom : Leaves 3 depth) :
    Reader.Spells read depth (Respelled spellings) (Spoiled spellings) :=
  Spelled.spells_read fun _ henter => spelled (hroom.of_enter henter)

/-- However a specification that is read is spelled, the same is read, so that every pod gets the
same patch from it; and nothing is read once it is spoiled. The three levels of brackets that a
spelling may add are there in every value, and at the root of a text with many to spare. -/
theorem read_of_respellings {depth : Levels} (hroom : Leaves 3 depth) {source other : Source}
    {spec : ApplicationSpec} (h : read depth source = .ok spec)
    (hs : Relation.ReflTransGen (Respelled spellings) source other) :
    read depth other = .ok spec ∧
      (∀ metadata pod role settings,
        (read depth other).map (fun again => derivePatch pod ⟨metadata, again⟩ role settings) =
          .ok (derivePatch pod ⟨metadata, spec⟩ role settings)) ∧
      ∀ spoiled again, Spoiled spellings other spoiled → read depth spoiled ≠ .ok again := by
  have hother : read depth other = .ok spec := (spells_read hroom).keeps_all hs h
  refine ⟨hother, fun metadata pod role settings => ?_, fun spoiled again hspoiled => ?_⟩
  · rw [hother]
    rfl
  · exact (spells_read hroom).refuses hspoiled

/-- A specification with names. -/
def sampleNamed (driver : Source) : Source := .object [(some "driver", driver)] true

/-- A specification by position. -/
def samplePositional (driver : Source) : Source := .array [.array [] true, driver] true

/-- What is declared for the driver, with names, in entries for config maps. -/
def sampleEntries (entry : Source) : Source :=
  .object [(some "affinity", .null), (some "configMaps", .array [entry] true)] true

/-- An entry for a config map with its path in front and a key that is unknown. -/
def sampleEntry : Source :=
  .object [(some "path", .string (some "/c")), (some "note", .null),
    (some "name", .string (some "c"))] true

/-- The values of the entry, and others behind them. -/
def sampleItems (others : List Source) : Source :=
  .array ([.string (some "c"), .string (some "/c")] ++ others) true

theorem read_of_respellings_sample :
    read textLevels (sampleNamed (sampleEntries sampleEntry)) =
        .ok { driver := { configMounts := [⟨"c", "/c"⟩] } } ∧
      Relation.ReflTransGen (Respelled spellings) (sampleNamed (sampleEntries sampleEntry))
        (samplePositional (sampleEntries (sampleItems []))) ∧
      read textLevels (samplePositional (sampleEntries (sampleItems []))) =
        .ok { driver := { configMounts := [⟨"c", "/c"⟩] } } ∧
      ∀ again, read textLevels (samplePositional (sampleEntries (sampleItems [.null]))) ≠
        .ok again := by
  have hroom : Leaves 3 textLevels := fun _ hleft => by cases hleft; decide
  have hread : read textLevels (sampleNamed (sampleEntries sampleEntry)) =
      .ok { driver := { configMounts := [⟨"c", "/c"⟩] } } := rfl
  have hentry : Respelled ConfigMount.spellings sampleEntry (sampleItems []) :=
    .positional <| .given (.tail _ (.tail _ (.head _))) <| .given (.head _) <|
      .absent (List.forall_mem_nil _)
  have hdriver : Respelled Customization.spellings (sampleEntries sampleEntry)
      (sampleEntries (sampleItems [])) :=
    @Respelled.member _ [(some "affinity", .null)] [] true Customization.configMapsSpelling _ _
      (.tail _ (.head _)) (@InItem.mk _ [] [] _ _ true hentry)
  have hnamed : Respelled spellings (sampleNamed (sampleEntries sampleEntry))
      (sampleNamed (sampleEntries (sampleItems []))) :=
    @Respelled.member _ [] [] true (roleSpelling "driver") _ _ (.tail _ (.head _)) hdriver
  have hpositional : Respelled spellings (sampleNamed (sampleEntries (sampleItems [])))
      (samplePositional (sampleEntries (sampleItems []))) :=
    .positional <| .blank (by decide) rfl <| .given (.head _) <| .absent (by decide)
  have hsteps := (Relation.ReflTransGen.single hnamed).tail hpositional
  have hspoiled : Spoiled spellings (samplePositional (sampleEntries (sampleItems [])))
      (samplePositional (sampleEntries (sampleItems [.null]))) := by
    refine @Record.Spoiled.item _ [.array [] true] [] true (roleSpelling "driver") _ _ rfl
      (.inr ?_)
    refine @Record.Spoiled.member _ [(some "affinity", .null)] [] true
      Customization.configMapsSpelling _ _ (.tail _ (.head _)) (.inr ?_)
    exact @InItem.mk _ [] [] _ _ true (.record (.overlong rfl .null))
  obtain ⟨hother, -, hrefused⟩ := read_of_respellings hroom hread hsteps
  exact ⟨hread, hsteps, hother, fun again => hrefused _ again hspoiled⟩

end ApplicationSpec

end SparkAdmission
