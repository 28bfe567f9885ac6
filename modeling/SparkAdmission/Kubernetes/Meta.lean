import SparkAdmission.Kubernetes.Shape

/-!
# Object metadata

Shapes that objects of every kind share: names and labels, owners, references and selectors.
-/

namespace SparkAdmission.Kubernetes

/-- A member that is written when it is given. -/
def opt (name : String) (shape : Shape) : Field := (name, .optional, shape)

/-- A member that is always written. -/
def req (name : String) (shape : Shape) : Field := (name, .defaulted, shape)

/-- The fields that one manager owns. -/
def managedFieldsEntry : Shape :=
  .object [
    opt "apiVersion" .string, opt "fieldsType" .string, opt "fieldsV1" .any,
    opt "manager" .string, opt "operation" .string, opt "subresource" .string, opt "time" .time]

/-- The object that owns another one. -/
def ownerReference : Shape :=
  .object [
    req "apiVersion" .string, opt "blockOwnerDeletion" .boolean, opt "controller" .boolean,
    req "kind" .string, req "name" .string, req "uid" .string]

/-- Name, labels, owners and history of an object. -/
def objectMeta : Shape :=
  .object [
    opt "annotations" (.map .string), opt "creationTimestamp" .time,
    opt "deletionGracePeriodSeconds" .int64, opt "deletionTimestamp" .time,
    opt "finalizers" (.list .string), opt "generateName" .string, opt "generation" .int64,
    opt "labels" (.map .string), opt "managedFields" (.list managedFieldsEntry),
    opt "name" .string, opt "namespace" .string, opt "ownerReferences" (.list ownerReference),
    opt "resourceVersion" .string, opt "selfLink" .string, opt "uid" .string]

/-- A condition on one label. -/
def labelSelectorRequirement : Shape :=
  .object [req "key" .string, req "operator" .string, opt "values" (.list .string)]

/-- A condition on labels. -/
def labelSelector : Shape :=
  .object [
    opt "matchExpressions" (.list labelSelectorRequirement), opt "matchLabels" (.map .string)]

/-- An object of the same namespace, by name. -/
def localObjectReference : Shape :=
  .object [req "name" .string]

/-- An object of the same namespace, by kind and name. -/
def typedLocalObjectReference : Shape :=
  .object [opt "apiGroup" .string, req "kind" .string, req "name" .string]

/-- An object, by kind, name and namespace. -/
def typedObjectReference : Shape :=
  .object [opt "apiGroup" .string, req "kind" .string, req "name" .string, opt "namespace" .string]

/-- The user behind a request. -/
def userInfo : Shape :=
  .object [
    opt "extra" (.map (.list .string)), opt "groups" (.list .string), opt "uid" .string,
    opt "username" .string]

end SparkAdmission.Kubernetes
