import TableOptions.Catalog.Form
import TableOptions.Catalog.Key

/-!
# Table and read options

What a job has to know about the table itself, and how it reads one.
-/

namespace TableOptions.Catalog

/-- The options about the table and its index. -/
def tableOptions : List Definition := [
  textUnset "base" Key.path
    ("Base path for the target hoodie table.\nThe path would be created if it does not " ++
     "exist,\notherwise a Hoodie table expects to be initialized successfully"),
  text "base" Key.partitionDefaultName "__DEFAULT_PARTITION__"
    "The default partition name in case the dynamic partition column value is null/empty string",
  flag "base" Key.indexBootstrap false
    "Whether to bootstrap the index state from existing hoodie table, default false"]

/-- The options about reading. -/
def readOptions : List Definition := [
  count "read" Key.readTasks 4
    "Parallelism of tasks that do actual read, default is 4",
  textUnset "read" Key.readSchemaPath
    "Avro schema file path, the parsed schema is used for deserialization",
  textUnset "read" Key.readSchema
    "Avro schema string, the parsed schema is used for deserialization",
  choice "read" Key.queryType
    ["snapshot", "incremental", "read_optimized"] "snapshot"
    ("Decides how data files need to be read, in\n1) Snapshot mode (obtain latest view, based on " ++
     "row & columnar data);\n2) incremental mode (new data since an instantTime);\n3) Read " ++
     "Optimized mode (obtain latest view, based on columnar data)\n.Default: snapshot"),
  choice "read" Key.mergeType
    ["skip_merge", "payload_combine"] "payload_combine"
    ("For Snapshot query on merge on read table. Use this key to define how the payloads are " ++
     "merged, in\n1) skip_merge: read the base file records plus the log file records;\n2) " ++
     "payload_combine: read the base file records first, for each record in base file, checks " ++
     "whether the key is in the\n   log file records(combines the two records with same key for " ++
     "base and log file records), then read the left log file records"),
  flag "read" Key.hiveStylePartition false
    ("Whether the partition path is with Hive style, e.g. '\x7bpartition key\x7d=\x7bpartition " ++
     "value\x7d', default false"),
  flag "read" Key.utcTimezone true
    ("Use UTC timezone or local timezone to the conversion between epoch time and LocalDateTime. " ++
     "Hive 0.x/1.x/2.x use local timezone. But Hive 3.x use UTC timezone, by default true"),
  flag "read" Key.readStreaming false
    "Whether to read as streaming source, default false",
  count "read" Key.readCheckInterval 60
    "Check interval for streaming read of SECOND, default 1 minute",
  textUnset "read" Key.readStartCommit
    ("Start commit instant for streaming read, the commit time format should be " ++
     "'yyyyMMddHHmmss', by default reading from the latest instant")]

end TableOptions.Catalog
