import SparkAdmission.Derivation
import SparkAdmission.Proofs.Json.Record
import SparkAdmission.Proofs.Kubernetes.SourceReading
import SparkAdmission.Proofs.PodDocument

/-!
# Applications written and read again

Reading an application fills in and drops: records may be arrays, `null` may stand for what is
absent, defaults are missing, times have offsets. Writing leaves out what is empty in the records of
the application, and keeps what is empty in its Kubernetes objects. An application that is written
is nevertheless read as it was (`Application.read_toJson`), so that writing what has been read is
idempotent and changes nothing that a pod is patched with (`Application.rewritten?_eq_some`).
-/

namespace SparkAdmission

open Record

/-- A document is read as it is. -/
theorem Document.read_json {s : Shape} (hs : s.isSorted) (d : Document s) :
    read none (.ofJson d.json) = .ok d := by
  obtain ⟨again, hvalue, hjson⟩ := value_of_reads (Shape.reads_of_conforms s hs d.conforms)
  have hsame : again = d := Document.ext hjson
  subst hsame
  cases hread : read (s := s) none (.ofJson again.json) with
  | error e =>
    rw [Reader.value, hread] at hvalue
    cases hvalue
  | ok d =>
    rw [Reader.value, hread] at hvalue
    exact congrArg Except.ok (Option.some.inj hvalue)

theorem ConfigMount.read_toJson (m : ConfigMount) : read none (.ofJson m.toJson) = .ok m := rfl

theorem written_documents {s : Shape} (hs : s.isSorted) (ds : List (Document s)) :
    Written (Reader.list Document.read) [] (Document.listToJson ds) ds :=
  .list fun d _ => d.read_json hs

theorem written_setting (setting : PodSetting) (d : Option (Document setting.shape)) :
    Written (Reader.optional Document.read) none (d.map (·.json)) d :=
  .optional (fun d _ => d.read_json setting.isSorted_shape)
    fun d _ => PodSetting.ne_null d.conforms

/-- A customization that is written is read as it was. -/
theorem Customization.read_toJson (c : Customization) : read none (.ofJson c.toJson) = .ok c := by
  have sorted : Json.Increasing
      ["affinity", "configMaps", "securityContext", "tolerations", "volumeMounts"] := by
    unfold Json.Increasing
    decide
  have haffinity : Written (Reader.optional Document.read) none (c.affinity.map (·.json))
      c.affinity := written_setting .affinity c.affinity
  have hsecurity : Written (Reader.optional Document.read) none (c.security.map (·.json))
      c.security := written_setting .securityContext c.security
  have hmounts : Written (Reader.list ConfigMount.read) [] (ConfigMount.listToJson c.configMounts)
      c.configMounts := .list fun m _ => m.read_toJson
  have htolerations : Written (Reader.list Document.read) [] (Document.listToJson c.tolerations)
      c.tolerations := written_documents (PodList.isSorted_item .tolerations) c.tolerations
  have hvolumes : Written (Reader.list Document.read) [] (Document.listToJson c.volumeMounts)
      c.volumeMounts := written_documents (PodList.isSorted_item .volumeMounts) c.volumeMounts
  rw [toJson, read, read_ofSome]
  · rw [putSome_cons rfl rfl haffinity, putSome_cons rfl rfl hmounts,
      putSome_cons rfl rfl hsecurity, putSome_cons rfl rfl htolerations,
      putSome_cons rfl rfl hvolumes]
    rfl
  · exact sorted

/-- A specification that is written is read as it was. -/
theorem ApplicationSpec.read_toJson (spec : ApplicationSpec) :
    read none (.ofJson spec.toJson) = .ok spec := by
  have sorted : Json.Increasing
      ["driver", "executor", "hadoopConfigMap", "sparkConfigMap", "volumes"] := by
    unfold Json.Increasing
    decide
  have hrole : ∀ c : Customization, Written Customization.read {} (some c.toJson) c :=
    fun c => .of_read c.read_toJson
  have hname : ∀ name : Option String, Written (Reader.optional Reader.string) none
      (name.map .string) name := fun name => .optional (fun _ _ => rfl) fun _ _ => nofun
  have hvolumes : Written (Reader.list Document.read) [] (Document.listToJson spec.volumes)
      spec.volumes := written_documents (PodList.isSorted_item .volumes) spec.volumes
  rw [toJson, read, read_ofSome]
  · rw [putSome_cons rfl rfl (hrole spec.driver), putSome_cons rfl rfl (hrole spec.executor),
      putSome_cons rfl rfl (hname spec.hadoopConfigMap),
      putSome_cons rfl rfl (hname spec.sparkConfigMap), putSome_cons rfl rfl hvolumes]
    rfl
  · exact sorted

namespace Application

theorem isSorted_objectMeta : Kubernetes.objectMeta.isSorted := by decide +kernel

/-- An application that is written is read as it was; version and kind are skipped. -/
theorem read_toJson (app : Application) : read none (.ofJson app.toJson) = .ok app := by
  have hsome : app.toJson = .ofSome [("apiVersion", some (.string apiVersion)),
      ("kind", some (.string kind)), ("metadata", some app.metadata.json),
      ("spec", some app.spec.toJson)] := rfl
  have sorted : Json.Increasing ["apiVersion", "kind", "metadata", "spec"] := by
    unfold Json.Increasing
    decide
  have hmembers : putSome fields [("metadata", some app.metadata.json),
      ("spec", some app.spec.toJson)] (none, none) = .ok (some app.metadata, some app.spec) := by
    rw [putSome_cons_of_read rfl (app.metadata.read_json isSorted_objectMeta),
      putSome_cons_of_read rfl app.spec.read_toJson]
    rfl
  have hread : Record.read fields (none, none) none (.ofJson app.toJson) =
      .ok (some app.metadata, some app.spec) := by
    rw [hsome, read_ofSome]
    · exact hmembers
    · exact sorted
  rw [read, hread]
  rfl

/-- What is written of the application that is read from a value. -/
def rewritten? (j : Json) : Option Json := (Reader.value read j).map toJson

/-- Writing what has been read is idempotent, and what is read from the result is interchangeable
with what was read at first: it declares the same for both roles, has the same configuration and
owns its pods in the same way, and every pod gets the same patch from it. -/
theorem rewritten?_eq_some {j written : Json} (h : rewritten? j = some written) :
    rewritten? written = some written ∧
      ∃ app again, Reader.value read j = some app ∧ Reader.value read written = some again ∧
        (∀ role, (again.spec.customization role).toJson =
          (app.spec.customization role).toJson) ∧
        again.spec.sparkConf? = app.spec.sparkConf? ∧
        again.spec.hadoopConf? = app.spec.hadoopConf? ∧
        again.ownerReference = app.ownerReference ∧
        ∀ pod role settings, derivePatch pod again role settings =
          derivePatch pod app role settings := by
  obtain ⟨app, hread, rfl⟩ := Option.map_eq_some_iff.1 h
  have hagain : Reader.value read app.toJson = some app := by
    rw [Reader.value, read_toJson]
    rfl
  refine ⟨by rw [rewritten?, hagain, Option.map_some], app, app, hread, hagain, ?_⟩
  exact ⟨fun _ => rfl, rfl, rfl, rfl, fun _ _ _ => rfl⟩

/-- An application whose records are arrays, with a time that has an offset and a fraction, an
absent name and a list that is `null`. -/
def sampleValue : Json :=
  .array [
    .object [("creationTimestamp", .string "2024-05-01T12:30:00.987+02:00"),
      ("finalizers", .null), ("name", .string "pi")],
    .array [
      .array [.object [("configMap", .object [])]],
      .array [.array [], .array [.array [.string "conf", .string "/conf"]]]]]

/-- The application of `sampleValue` as it is written. -/
def sampleWritten : Json :=
  .object [("apiVersion", .string "sparkoperator.k8s.io/v1beta1"),
    ("kind", .string "SparkApplication"),
    ("metadata", .object [("creationTimestamp", .string "2024-05-01T10:30:00Z"),
      ("name", .string "pi")]),
    ("spec", .object [
      ("driver", .object [("configMaps", .array [
        .object [("name", .string "conf"), ("path", .string "/conf")]])]),
      ("executor", .object []),
      ("volumes", .array [
        .object [("configMap", .object [("name", .string "")]), ("name", .string "")]])])]

theorem rewritten?_eq_some_sample :
    rewritten? sampleValue = some sampleWritten ∧ rewritten? sampleWritten = some sampleWritten := by
  have h : rewritten? sampleValue = some sampleWritten := rfl
  exact ⟨h, (rewritten?_eq_some h).1⟩

end Application

end SparkAdmission
