import TableExport.Table.Definition

/-! # Functions that stand for tables

Some functions of a database give rows.  A query reads them like tables without types, and a catalog
reports them in every place.  A table with the same name hides a function
(`Database.find?_of_table`). -/

namespace TableExport.TableFunction

/-- The columns of the functions that take JSON apart. -/
def partColumns : List String :=
  ["key", "value", "type", "atom", "id", "parent", "fullkey", "path"]

/-- The functions, with the columns of their rows. -/
def all : List (String × List String) :=
  [("json_each", partColumns),
    ("json_tree", partColumns),
    ("pragma_table_info", ["cid", "name", "type", "notnull", "dflt_value", "pk"]),
    ("pragma_table_xinfo", ["cid", "name", "type", "notnull", "dflt_value", "pk", "hidden"]),
    ("pragma_table_list", ["schema", "name", "type", "ncol", "wr", "strict"]),
    ("pragma_index_list", ["seq", "name", "unique", "origin", "partial"]),
    ("pragma_index_info", ["seqno", "cid", "name"]),
    ("pragma_index_xinfo", ["seqno", "cid", "name", "desc", "coll", "key"]),
    ("pragma_foreign_key_list",
      ["id", "seq", "table", "from", "to", "on_update", "on_delete", "match"]),
    ("pragma_database_list", ["seq", "name", "file"]),
    ("pragma_collation_list", ["seq", "name"]),
    ("pragma_function_list", ["name", "builtin", "type", "enc", "narg", "flags"]),
    ("pragma_module_list", ["name"]),
    ("pragma_pragma_list", ["name"]),
    ("pragma_compile_options", ["compile_options"])]

/-- The function with a name, as a table. -/
def find? (name : String) : Option Definition :=
  (all.find? fun function => Definition.sameName function.1 name).map fun function =>
    .plain .main function.1 (function.2.map fun column => .filled column .untyped)

end TableExport.TableFunction
