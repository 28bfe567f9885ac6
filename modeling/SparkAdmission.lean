import SparkAdmission.Definition
import SparkAdmission.Main
import SparkAdmission.Webhook
import SparkAdmission.Proofs.Admission.Decision
import SparkAdmission.Proofs.Steps
import SparkAdmission.Proofs.Operations
import SparkAdmission.Proofs.PatchedPod
import SparkAdmission.Proofs.SecondPatch
import SparkAdmission.Proofs.VolumeNames
import SparkAdmission.Proofs.Admission.Request
import SparkAdmission.Proofs.Webhook
import SparkAdmission.Proofs.Dependence
import SparkAdmission.Proofs.Application
import SparkAdmission.Proofs.Lookup.Target
import SparkAdmission.Proofs.Delivery
import SparkAdmission.Proofs.ConfigVolumeName
import SparkAdmission.Proofs.DeclaredVolumes
import SparkAdmission.Proofs.Mounts
import SparkAdmission.Proofs.Admission.Verdict
import SparkAdmission.Proofs.Controllers
import SparkAdmission.Proofs.SparkContainer
import SparkAdmission.Proofs.ConfDirectories
import SparkAdmission.Proofs.ApplicationSpelling
