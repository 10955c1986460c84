import Passbook.Text.Uppercase
/-! Tables that are there without having been made: they show values of other tables, or the state of the store. -/
namespace Passbook.Script

/-- The tables of the modules of a store that need no arguments. -/
def moduleTables : List String := ["json_each", "json_tree", "dbstat", "fts3tokenize", "sqlite_stmt"]

def readableSettings : List String := [
  "analysis_limit", "application_id", "auto_vacuum", "automatic_index", "busy_timeout", "cache_size", "cache_spill",
  "cell_size_check", "checkpoint_fullfsync", "collation_list", "compile_options", "count_changes", "data_version",
  "database_list", "default_cache_size", "defer_foreign_keys", "empty_result_callbacks", "encoding", "foreign_key_check",
  "foreign_key_list", "foreign_keys", "freelist_count", "full_column_names", "fullfsync", "function_list",
  "hard_heap_limit", "ignore_check_constraints", "index_info", "index_list", "index_xinfo", "integrity_check",
  "journal_mode", "journal_size_limit", "legacy_alter_table", "locking_mode", "max_page_count", "module_list", "optimize",
  "page_count", "page_size", "pragma_list", "query_only", "quick_check", "read_uncommitted", "recursive_triggers",
  "reverse_unordered_selects", "schema_version", "secure_delete", "short_column_names", "soft_heap_limit", "synchronous",
  "table_info", "table_list", "table_xinfo", "temp_store", "threads", "trusted_schema", "user_version",
  "writable_schema"]

/-- The name by which a table is told that is there without having been made. -/
def virtualName? (name : String) : Option String :=
  let lower := Text.asciiLowercase name
  if moduleTables.contains lower then some lower
  else if (readableSettings.map ("pragma_" ++ ·)).contains lower then some name
  else none

def isUnusable (name : String) : Bool := Text.asciiLowercase name == "fts4aux"

end Passbook.Script
