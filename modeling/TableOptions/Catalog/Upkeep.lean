import TableOptions.Catalog.Form
import TableOptions.Catalog.Key

/-!
# Compaction and cleaning options

When delta commits are compacted, and how many commits are retained.
-/

namespace TableOptions.Catalog

/-- The options about compaction. -/
def compactionOptions : List Definition := [
  flag "compaction" Key.compactionAsync true
    "Async Compaction, enabled by default for MOR",
  count "compaction" Key.compactionTasks 10
    "Parallelism of tasks that do actual compaction, default is 10",
  choice "compaction" Key.compactionTrigger
    ["num_commits", "time_elapsed", "num_and_time", "num_or_time"] "num_commits"
    ("Strategy to trigger compaction, options are 'num_commits': trigger compaction when reach N " ++
     "delta commits;\n'time_elapsed': trigger compaction when time elapsed > N seconds since " ++
     "last compaction;\n'num_and_time': trigger compaction when both NUM_COMMITS and " ++
     "TIME_ELAPSED are satisfied;\n'num_or_time': trigger compaction when NUM_COMMITS or " ++
     "TIME_ELAPSED is satisfied.\nDefault is 'num_commits'"),
  count "compaction" Key.compactionCommits 5
    "Max delta commits needed to trigger compaction, default 5 commits",
  count "compaction" Key.compactionSeconds 3600
    "Max delta seconds time needed to trigger compaction, default 1 hour",
  count "compaction" Key.compactionMemory 100
    "Max memory in MB for compaction spillable map, default 100MB"]

/-- The options about cleaning. -/
def cleanOptions : List Definition := [
  flag "clean" Key.cleanAsync true
    "Whether to cleanup the old commits immediately on new commits, enabled by default",
  count "clean" Key.cleanRetained 10
    ("Number of commits to retain. So data will be retained for num_of_commits * " ++
     "time_between_commits (scheduled).\nThis also directly translates into how much you can " ++
     "incrementally pull on this table, default 10")]

end TableOptions.Catalog
