import TableOptions.Definition

/-!
# Option keys

The keys of the standard options. Operators write them in their files, so they never change.
-/

namespace TableOptions.Key

/-! ### The table -/

def path : String := pathKey
def partitionDefaultName : String := "partition.default_name"
def indexBootstrap : String := "index.bootstrap.enabled"

/-! ### Reading -/

def readTasks : String := "read.tasks"
def readSchemaPath : String := "read.avro-schema.path"
def readSchema : String := "read.avro-schema"
def queryType : String := "hoodie.datasource.query.type"
def mergeType : String := "hoodie.datasource.merge.type"
def hiveStylePartition : String := "hoodie.datasource.hive_style_partition"
def utcTimezone : String := "read.utc-timezone"
def readStreaming : String := "read.streaming.enabled"
def readCheckInterval : String := "read.streaming.check-interval"
def readStartCommit : String := "read.streaming.start-commit"

/-! ### Writing -/

def tableName : String := "hoodie.table.name"
def tableType : String := "table.type"
def writeOperation : String := "write.operation"
def precombineField : String := "write.precombine.field"
def payloadClass : String := "write.payload.class"
def dropDuplicates : String := "write.insert.drop.duplicates"
def retryTimes : String := "write.retry.times"
def retryInterval : String := "write.retry.interval.ms"
def ignoreFailed : String := "write.ignore.failed"
def recordKeyField : String := "hoodie.datasource.write.recordkey.field"
def partitionPathField : String := "hoodie.datasource.write.partitionpath.field"
def partitionUrlEncode : String := "write.partition.url_encode"
def keyGeneratorClass : String := "hoodie.datasource.write.keygenerator.class"
def writeTasks : String := "write.tasks"
def writeBatchSize : String := "write.batch.size.MB"
def writeLogBlockSize : String := "write.log_block.size.MB"
def writeMergeMemory : String := "write.merge.max_memory"

/-! ### Compaction -/

def compactionAsync : String := "compaction.async.enabled"
def compactionTasks : String := "compaction.tasks"
def compactionTrigger : String := "compaction.trigger.strategy"
def compactionCommits : String := "compaction.delta_commits"
def compactionSeconds : String := "compaction.delta_seconds"
def compactionMemory : String := "compaction.max_memory"

/-! ### Cleaning -/

def cleanAsync : String := "clean.async.enabled"
def cleanRetained : String := "clean.retain_commits"

/-! ### Hive sync -/

def hiveEnabled : String := "hive_sync.enable"
def hiveDatabase : String := "hive_sync.db"
def hiveTable : String := "hive_sync.table"
def hiveFileFormat : String := "hive_sync.file_format"
def hiveUser : String := "hive_sync.username"
def hivePassword : String := "hive_sync.password"
def hiveUrl : String := "hive_sync.jdbc_url"
def hivePartitionFields : String := "hive_sync.partition_fields"
def hivePartitionExtractor : String := "hive_sync.partition_extractor_class"
def hiveDatePartition : String := "hive_sync.assume_date_partitioning"
def hiveUseJdbc : String := "hive_sync.use_jdbc"
def hiveCreateDatabase : String := "hive_sync.auto_create_db"
def hiveIgnoreExceptions : String := "hive_sync.ignore_exceptions"
def hiveSkipSuffix : String := "hive_sync.skip_ro_suffix"
def hiveTimestamp : String := "hive_sync.support_timestamp"

end TableOptions.Key
