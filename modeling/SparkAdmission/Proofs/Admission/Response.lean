import SparkAdmission.Admission.Response
import SparkAdmission.Proofs.Json.Numeral
import SparkAdmission.Proofs.Kubernetes.Reading
import SparkAdmission.Proofs.Patch

/-!
# What an answer says

An answer is sent as a JSON text, and a patch in it as the bytes of another one. Both are read back
as what was written (`Json.parse?_render`, `Json.utf8?_bytes`, `Patch.parse?_render`).
-/

namespace SparkAdmission

open Source

/-- The text of a value is read as the value. -/
theorem Reader.text_render {α : Type} {read : Reader α} {j : Json} {a : α}
    (h : Numbers (NumberReading.Restores denoted) j)
    (hread : read textLevels (ofJson j) = .ok a) : text read j.render = .ok a := by
  rw [text_eq_ok, ofText, ofTextWith_render h]
  exact ⟨hread, rfl⟩

namespace Json

/-- The value that a text says, its numbers read like this, if it is one and nothing follows it. -/
def parse? (reading : NumberReading) (text : String) : Option Json :=
  match ofTextWith reading text with
  | (root, true) => (Document.read none root).toOption.map fun d : Document .any => d.json
  | (_, false) => none

/-- The byte that a number is. -/
def byte? (j : Json) : Option UInt8 :=
  j.nat?.bind fun n => if n < 256 then some (UInt8.ofNat n) else none

/-- The text that an array of bytes is in UTF-8. -/
def utf8? : Json → Option String
  | .array items => (items.mapM byte?).bind fun bytes => String.fromUTF8? ⟨bytes.toArray⟩
  | _ => none

theorem parse?_render {reading : NumberReading} {j : Json} (h : Numbers reading.Restores j) :
    parse? reading j.render = some (ofJson j).toJson := by
  have hread : Document.read (s := .any) none (ofJson j) = .ok (.ofSource (ofJson j)) := by
    rw [Document.read, show Shape.any.check (ofJson j) none = _ from Shape.accepts_any j]
    rfl
  rw [parse?, ofTextWith_render h]
  simp only [hread]
  rfl

/-! ### Bytes -/

theorem toList_loop (bytes : ByteArray) (i : Nat) (seen : List UInt8) :
    ByteArray.toList.loop bytes i seen = seen.reverse ++ bytes.data.toList.drop i := by
  induction i, seen using ByteArray.toList.loop.induct bytes with
  | case1 i seen hlt ih =>
    have hi : i < bytes.data.toList.length := hlt
    have hget : bytes.get! i = bytes.data.toList[i] := getElem!_pos bytes.data i hlt
    rw [ByteArray.toList.loop, if_pos hlt, ih, List.drop_eq_getElem_cons hi, hget,
      List.reverse_cons, List.append_assoc, List.singleton_append]
  | case2 i seen hge =>
    rw [ByteArray.toList.loop, if_neg hge, List.drop_of_length_le (Nat.not_lt.1 hge),
      List.append_nil]

theorem toArray_toList (bytes : ByteArray) : (⟨bytes.toList.toArray⟩ : ByteArray) = bytes := by
  rw [ByteArray.toList, toList_loop]
  rfl

theorem fromUTF8?_toUTF8 (text : String) : String.fromUTF8? text.toUTF8 = some text :=
  dif_pos text.isValidUTF8

theorem nat_toNat (b : UInt8) :
    ∃ h : IsExact b.toNat, nat b.toNat = .number (.whole b.toNat h) := by
  have hlt : b.toNat < 256 := b.toNat_lt
  have hexact : IsExact b.toNat := by
    unfold IsExact
    omega
  refine ⟨hexact, ?_⟩
  rw [nat, Number.ofInt?, dif_pos hexact]
  rfl

theorem byte?_nat (b : UInt8) : byte? (nat b.toNat) = some b := by
  obtain ⟨hexact, hnat⟩ := nat_toNat b
  rw [hnat]
  change (if b.toNat < 256 then some (UInt8.ofNat b.toNat) else none) = some b
  rw [if_pos b.toNat_lt, UInt8.ofNat_toNat]

/-- Bytes of a text are those of no other text. -/
theorem utf8?_bytes (text : String) : utf8? (Admission.Response.bytes text) = some text := by
  have hbytes : (text.toUTF8.toList.map fun b => nat b.toNat).mapM byte? =
      some text.toUTF8.toList := by
    generalize text.toUTF8.toList = bytes
    induction bytes with
    | nil => rfl
    | cons b bytes ih => rw [List.map_cons, List.mapM_cons, byte?_nat, ih]; rfl
  rw [Admission.Response.bytes, utf8?, hbytes, Option.bind_some, toArray_toList, fromUTF8?_toUTF8]

end Json

/-! ### Patches -/

namespace Patch

/-- A patch whose values are in canonical form is in canonical form as JSON. -/
theorem canonical_toJson {patch : Patch} (h : ∀ op ∈ patch, op.value.Canonical) :
    patch.toJson.Canonical := by
  have sorted : Json.Increasing ["op", "path", "value"] := by
    unfold Json.Increasing
    decide
  refine .array (List.forall_mem_map.2 fun op hop => .object sorted ?_)
  simp only [List.forall_mem_cons]
  exact ⟨.string _, .string _, h op hop, List.forall_mem_nil _⟩

theorem numbers_toJson {p : Number → Prop} {patch : Patch}
    (h : ∀ op ∈ patch, Numbers p op.value) : Numbers p patch.toJson := by
  refine .array (List.forall_mem_map.2 fun op hop => ?_)
  simpa [Add.toJson] using h op hop

/-- The text of a patch says that patch. -/
theorem parse?_render {reading : NumberReading} {patch : Patch}
    (hcanonical : ∀ op ∈ patch, op.value.Canonical)
    (hnumbers : ∀ op ∈ patch, Numbers reading.Restores op.value) :
    (Json.parse? reading patch.toJson.render).bind ofJson? = some patch := by
  rw [Json.parse?_render (numbers_toJson hnumbers), toJson_ofJson (canonical_toJson hcanonical),
    Option.bind_some, ofJson?_toJson]

/-- The bytes are those of a text in UTF-8, and the text says the operations, all of them, in their
order. Doubles are back exactly when they are read as the nearest ones; without doubles, whoever
keeps whole numbers reads the operations. -/
def SaidBy (ops : Patch) (bytes : Json) : Prop :=
  ∃ text, bytes.utf8? = some text ∧
    (Json.parse? exactly text).bind ofJson? = some ops ∧
    ((∀ op ∈ ops, Numbers (fun n => n.whole?.isSome) op.value) →
      ∀ reading : NumberReading, reading.KeepsWhole →
        (Json.parse? reading text).bind ofJson? = some ops)

theorem saidBy_bytes {ops : Patch} (h : ∀ op ∈ ops, op.value.Canonical) :
    ops.SaidBy (Admission.Response.bytes ops.toJson.render) := by
  refine ⟨ops.toJson.render, Json.utf8?_bytes _, ?_, fun hwhole reading hkeeps => ?_⟩
  · exact parse?_render h fun _ _ => Numbers.of_forall restores_exactly _
  · refine parse?_render h fun op hop => (hwhole op hop).imp ?_
    rintro (⟨n, hn⟩ | x) hsome
    · exact restores_whole hkeeps n hn
    · cases hsome

theorem SaidBy.unique {ops other : Patch} {bytes : Json} (h : ops.SaidBy bytes)
    (h' : other.SaidBy bytes) : ops = other := by
  obtain ⟨text, htext, hops, -⟩ := h
  obtain ⟨text', htext', hother, -⟩ := h'
  obtain rfl := Option.some.inj (htext.symm.trans htext')
  exact Option.some.inj (hops.symm.trans hother)

end Patch

/-! ### Answers -/

namespace Admission.Response

/-- What the text of an answer says. -/
def said (r : Response) : Json := (Source.ofJson r.toJson).toJson

/-- The members of the response in an answer. -/
def members (r : Response) : List (String × Json) :=
  [("uid", .string r.uid), ("allowed", .bool r.verdict.admits), ("status", r.verdict.status)] ++
    patchMembers (fun patch => bytes patch.toJson.render) r.verdict

theorem numbers_bytes {p : Number → Prop} (h : ∀ n hn, p (.whole n hn)) (text : String) :
    Numbers p (bytes text) := by
  refine .array (List.forall_mem_map.2 fun b _ => ?_)
  obtain ⟨hexact, hnat⟩ := Json.nat_toNat b
  rw [hnat]
  exact .number (h _ hexact)

theorem canonical_bytes (text : String) : (bytes text).Canonical :=
  .array (List.forall_mem_map.2 fun _ _ => .number _)

theorem numbers_status (p : Number → Prop) (verdict : Verdict) : Numbers p verdict.status := by
  cases verdict <;> simp [Verdict.status]

theorem numbers_patchMembers {p : Number → Prop} {form : Patch → Json}
    (h : ∀ patch, Numbers p (form patch)) (verdict : Verdict) :
    ∀ m ∈ patchMembers form verdict, Numbers p m.2 := by
  rw [patchMembers]
  split
  · simp [h]
  · exact List.forall_mem_nil _

/-- The numbers of an answer are whole. -/
theorem numbers_toJson {p : Number → Prop} (h : ∀ n hn, p (.whole n hn)) (r : Response) :
    Numbers p r.toJson := by
  have hpatch := numbers_patchMembers (fun patch => numbers_bytes h patch.toJson.render) r.verdict
  have hresponse : Numbers p (.object r.members) := by
    rw [members, numbers_object, List.forall_mem_append]
    exact ⟨by simp [numbers_status], hpatch⟩
  change Numbers p (.object [("apiVersion", .string r.apiVersion), ("kind", .string r.kind),
    ("response", .object r.members)])
  simpa using hresponse

/-- Whoever keeps whole numbers reads from the text of an answer what it says. -/
theorem parse?_render {reading : NumberReading} (h : reading.KeepsWhole) (r : Response) :
    Json.parse? reading r.toJson.render = some r.said :=
  Json.parse?_render (numbers_toJson (restores_whole h) r)

/-- The member of a name is the value of the last one that is written. -/
theorem get?_toJson_ofJson (name : String) (members : List (String × Json)) :
    (ofJson (.object members)).toJson.get? name =
      (lastMember? name (members.map fun m => (some m.1, ofJson m.2))).map Source.toJson := by
  rw [ofJson, ofMembers_eq_map]
  exact lookup_sortMembers_membersToJson name _

theorem at?_said (r : Response) (name : String) :
    r.said.at? ["response", name] =
      (lastMember? name (r.members.map fun m => (some m.1, ofJson m.2))).map Source.toJson := by
  have hresponse : r.said.get? "response" = some (ofJson (.object r.members)).toJson :=
    get?_toJson_ofJson "response" _
  rw [Json.at?_cons, hresponse, Option.bind_some, Json.at?_cons, get?_toJson_ofJson]
  exact Option.bind_fun_some _

/-- An answer says version and kind, and in it the response says the identifier of the request, the
decision, and the patch, if there is one, as the bytes of its text. -/
theorem said_spec (r : Response) :
    r.said.at? ["apiVersion"] = some (.string r.apiVersion) ∧
      r.said.at? ["kind"] = some (.string r.kind) ∧
      r.said.at? ["response", "uid"] = some (.string r.uid) ∧
      r.said.at? ["response", "allowed"] = some (.bool r.verdict.admits) ∧
      r.said.at? ["response", "patch"] =
        r.verdict.patch?.map fun patch => bytes patch.toJson.render := by
  have hroot : ∀ {name : String} {j : Json}, r.said.get? name = some j →
      r.said.at? [name] = some j := fun h => by rw [Json.at?_cons, h]; rfl
  refine ⟨hroot (get?_toJson_ofJson _ _), hroot (get?_toJson_ofJson _ _), ?_, ?_, ?_⟩ <;>
    rw [at?_said, members]
  · cases r.verdict <;> rfl
  · cases r.verdict <;> rfl
  · cases r.verdict with
    | patched patch => exact congrArg some (toJson_ofJson (canonical_bytes patch.toJson.render))
    | _ => rfl

/-- The status in an answer. -/
theorem at?_said_status (r : Response) :
    r.said.at? ["response", "status"] = some (ofJson r.verdict.status).toJson := by
  rw [at?_said, members]
  cases r.verdict <;> rfl

/-- The kind of patch is told with a patch. -/
theorem at?_said_patchType (r : Response) :
    r.said.at? ["response", "patchType"] =
      r.verdict.patch?.map fun _ => .string "JSONPatch" := by
  rw [at?_said, members]
  cases r.verdict <;> rfl

end Admission.Response

end SparkAdmission
