/-!
# Settings

The names and limits that the derivation of a patch depends on.
-/

namespace SparkAdmission

/-- How a directory of configuration files is given to the Spark container. -/
structure ConfDirectory where
  /-- The name of the volume. -/
  volume : String
  /-- Where the volume is mounted. -/
  path : String
  /-- The environment variable that holds the path. -/
  variableName : String
deriving DecidableEq, Repr

namespace ConfDirectory

/-- The directory of the Spark configuration. -/
def spark : ConfDirectory := ⟨"spark-configmap-volume", "/etc/spark/conf", "SPARK_CONF_DIR"⟩

/-- The directory of the Hadoop configuration. -/
def hadoop : ConfDirectory := ⟨"hadoop-configmap-volume", "/etc/hadoop/conf", "HADOOP_CONF_DIR"⟩

end ConfDirectory

/-- What the derivation of a patch can be told. -/
structure Settings where
  /-- The Spark container of driver pods. -/
  driverContainer : String := "spark-kubernetes-driver"
  /-- The Spark container of executor pods. -/
  executorContainer : String := "executor"
  /-- The greatest length of the volume name made for a config map. -/
  maxNameLength : Nat := 63
  sparkConf : ConfDirectory := .spark
  hadoopConf : ConfDirectory := .hadoop
deriving DecidableEq, Repr

namespace Settings

instance : Inhabited Settings := ⟨{}⟩

/-- The names of Spark containers, that of drivers first. -/
def containerNames (s : Settings) : List String := [s.driverContainer, s.executorContainer]

end Settings

end SparkAdmission
