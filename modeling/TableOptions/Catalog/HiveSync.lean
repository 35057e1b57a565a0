import TableOptions.Catalog.Form
import TableOptions.Catalog.Key

/-!
# Hive sync options

How a table is made known to a Hive metastore.
-/

namespace TableOptions.Catalog

/-- The options about syncing to Hive. -/
def hiveSyncOptions : List Definition := [
  flag "hive_sync" Key.hiveEnabled false
    "Asynchronously sync Hive meta to HMS, default false",
  text "hive_sync" Key.hiveDatabase "default"
    "Database name for hive sync, default 'default'",
  text "hive_sync" Key.hiveTable "unknown"
    "Table name for hive sync, default 'unknown'",
  text "hive_sync" Key.hiveFileFormat "PARQUET"
    "File format for hive sync, default 'PARQUET'",
  text "hive_sync" Key.hiveUser "hive"
    "Username for hive sync, default 'hive'",
  text "hive_sync" Key.hivePassword "hive"
    "Password for hive sync, default 'hive'",
  text "hive_sync" Key.hiveUrl "jdbc:hive2://localhost:10000"
    "Jdbc URL for hive sync, default 'jdbc:hive2://localhost:10000'",
  text "hive_sync" Key.hivePartitionFields ""
    "Partition fields for hive sync, default ''",
  text "hive_sync" Key.hivePartitionExtractor
    "org.apache.hudi.hive.SlashEncodedDayPartitionValueExtractor"
    ("Tool to extract the partition value from HDFS path, default " ++
     "'SlashEncodedDayPartitionValueExtractor'"),
  flag "hive_sync" Key.hiveDatePartition false
    "Assume partitioning is yyyy/mm/dd, default false",
  flag "hive_sync" Key.hiveUseJdbc true
    "Use JDBC when hive synchronization is enabled, default true",
  flag "hive_sync" Key.hiveCreateDatabase true
    "Auto create hive database if it does not exists, default true",
  flag "hive_sync" Key.hiveIgnoreExceptions false
    "Ignore exceptions during hive synchronization, default false",
  flag "hive_sync" Key.hiveSkipSuffix false
    "Skip the _ro suffix for Read optimized table when registering, default false",
  flag "hive_sync" Key.hiveTimestamp false
    ("INT64 with original type TIMESTAMP_MICROS is converted to hive timestamp type.\nDisabled " ++
     "by default for backward compatibility.")]

end TableOptions.Catalog
