import SparkAdmission.Kubernetes.Meta

/-!
# Scheduling

Shapes that say where a pod may run: affinity, tolerations, spread.
-/

namespace SparkAdmission.Kubernetes

/-- A condition on one label or field of a node. -/
def nodeSelectorRequirement : Shape :=
  .object [req "key" .string, req "operator" .string, opt "values" (.list .string)]

/-- Conditions on a node, all of which must hold. -/
def nodeSelectorTerm : Shape :=
  .object [
    opt "matchExpressions" (.list nodeSelectorRequirement),
    opt "matchFields" (.list nodeSelectorRequirement)]

/-- Conditions on a node, one of which must hold. -/
def nodeSelector : Shape :=
  .object [req "nodeSelectorTerms" (.list nodeSelectorTerm)]

/-- A preferred kind of node, with its weight. -/
def preferredSchedulingTerm : Shape :=
  .object [req "preference" nodeSelectorTerm, req "weight" .int32]

/-- The nodes on which a pod may or should run. -/
def nodeAffinity : Shape :=
  .object [
    opt "preferredDuringSchedulingIgnoredDuringExecution" (.list preferredSchedulingTerm),
    opt "requiredDuringSchedulingIgnoredDuringExecution" nodeSelector]

/-- Pods, and how far from them. -/
def podAffinityTerm : Shape :=
  .object [
    opt "labelSelector" labelSelector, opt "matchLabelKeys" (.list .string),
    opt "mismatchLabelKeys" (.list .string), opt "namespaceSelector" labelSelector,
    opt "namespaces" (.list .string), req "topologyKey" .string]

/-- A preferred distance to pods, with its weight. -/
def weightedPodAffinityTerm : Shape :=
  .object [req "podAffinityTerm" podAffinityTerm, req "weight" .int32]

/-- The pods near which a pod must or should run. -/
def podAffinity : Shape :=
  .object [
    opt "preferredDuringSchedulingIgnoredDuringExecution" (.list weightedPodAffinityTerm),
    opt "requiredDuringSchedulingIgnoredDuringExecution" (.list podAffinityTerm)]

/-- The pods away from which a pod must or should run. -/
def podAntiAffinity : Shape :=
  .object [
    opt "preferredDuringSchedulingIgnoredDuringExecution" (.list weightedPodAffinityTerm),
    opt "requiredDuringSchedulingIgnoredDuringExecution" (.list podAffinityTerm)]

/-- Where a pod may or should run. -/
def affinity : Shape :=
  .object [
    opt "nodeAffinity" nodeAffinity, opt "podAffinity" podAffinity,
    opt "podAntiAffinity" podAntiAffinity]

/-- A taint of nodes that a pod bears. -/
def toleration : Shape :=
  .object [
    opt "effect" .string, opt "key" .string, opt "operator" .string,
    opt "tolerationSeconds" .int64, opt "value" .string]

/-- How evenly pods are spread. -/
def topologySpreadConstraint : Shape :=
  .object [
    opt "labelSelector" labelSelector, opt "matchLabelKeys" (.list .string), req "maxSkew" .int32,
    opt "minDomains" .int32, opt "nodeAffinityPolicy" .string, opt "nodeTaintsPolicy" .string,
    req "topologyKey" .string, req "whenUnsatisfiable" .string]

end SparkAdmission.Kubernetes
