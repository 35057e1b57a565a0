import TableOptions.Catalog.Form
import TableOptions.Catalog.Key

/-!
# Write options

What is written under which name, how records are merged and retried, and how the work is split.
-/

namespace TableOptions.Catalog

/-- The options about writing. -/
def writeOptions : List Definition := [
  textUnset "write" Key.tableName
    "Table name to register to Hive metastore",
  choice "write" Key.tableType
    ["COPY_ON_WRITE", "MERGE_ON_READ"] "COPY_ON_WRITE"
    "Type of table to write. COPY_ON_WRITE (or) MERGE_ON_READ",
  text "write" Key.writeOperation "upsert"
    "The write operation, that this write should do",
  text "write" Key.precombineField "ts"
    ("Field used in preCombining before actual write. When two records have the same\nkey value, " ++
     "we will pick the one with the largest value for the precombine field,\ndetermined by the " ++
     "natural ordering of the field values"),
  text "write" Key.payloadClass "org.apache.hudi.common.model.OverwriteWithLatestAvroPayload"
    ("Payload class used. Override this, if you like to roll your own merge logic, when " ++
     "upserting/inserting.\nThis will render any value set for the option in-effective"),
  flag "write" Key.dropDuplicates false
    ("Flag to indicate whether to drop duplicates upon insert.\nBy default insert will accept " ++
     "duplicates, to gain extra performance"),
  count "write" Key.retryTimes 3
    ("Flag to indicate how many times streaming job should retry for a failed checkpoint " ++
     "batch.\nBy default 3"),
  longCount "write" Key.retryInterval 2000
    ("Flag to indicate how long (by millisecond) before a retry should issued for failed " ++
     "checkpoint batch.\nBy default 2000 and it will be doubled by every retry"),
  flag "write" Key.ignoreFailed true
    ("Flag to indicate whether to ignore any non exception error (e.g. writestatus error). " ++
     "within a checkpoint batch.\nBy default true (in favor of streaming progressing over data " ++
     "integrity)"),
  text "write" Key.recordKeyField "uuid"
    ("Record key field. Value to be used as the `recordKey` component of `HoodieKey`.\nActual " ++
     "value will be obtained by converting the field value to a string. Nested fields can be " ++
     "specified using the dot notation eg: `a.b.c`"),
  text "write" Key.partitionPathField "partition-path"
    ("Partition path field. Value to be used at the `partitionPath` component of " ++
     "`HoodieKey`.\nActual value obtained by converting the field value to a string"),
  flag "write" Key.partitionUrlEncode false
    "Whether to encode the partition path url, default false",
  text "write" Key.keyGeneratorClass "org.apache.hudi.keygen.SimpleAvroKeyGenerator"
    "Key generator class, that implements will extract the key out of incoming record",
  count "write" Key.writeTasks 4
    "Parallelism of tasks that do actual write, default is 4",
  measure "write" Key.writeBatchSize (Double.ofInt 64)
    "Batch buffer size in MB to flush data into the underneath filesystem, default 64MB",
  count "write" Key.writeLogBlockSize 128
    "Max log block size in MB for log file, default 128MB",
  count "write" Key.writeMergeMemory 100
    "Max memory in MB for merge, default 100MB"]

end TableOptions.Catalog
