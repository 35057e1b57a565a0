import TableOptions.Catalog.Reading
import TableOptions.Catalog.Writing
import TableOptions.Catalog.Upkeep
import TableOptions.Catalog.HiveSync
import TableOptions.Registry

/-!
# The standard registry

All options of the catalog: first the table, then reading, writing, compaction, cleaning and Hive
sync. No key occurs twice.
-/

namespace TableOptions

/-- The standard options in their order. -/
def Catalog.standard : List Definition :=
  tableOptions ++ readOptions ++ writeOptions ++ compactionOptions ++ cleanOptions ++
    hiveSyncOptions

/-- The registry of the standard options. -/
def Registry.standard : Registry :=
  ⟨Catalog.standard, by decide +kernel⟩

end TableOptions
