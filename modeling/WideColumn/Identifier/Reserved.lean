/-
  WideColumn.Identifier.Reserved — the words that no unquoted identifier may be.
-/

namespace WideColumn.Identifier

/-- Reserved keywords of CQL, in lower case. -/
def reservedWords : List String :=
  ["add", "allow", "alter", "and", "apply", "asc", "authorize", "batch", "begin", "by", "columnfamily",
   "create", "delete", "desc", "describe", "drop", "entries", "execute", "from", "full", "grant", "if", "in",
   "index", "infinity", "insert", "into", "keyspace", "limit", "modify", "nan", "norecursive", "not", "null",
   "of", "on", "or", "order", "primary", "rename", "replace", "revoke", "schema", "select", "set", "table",
   "to", "token", "truncate", "unlogged", "update", "use", "using", "view", "where", "with"]

def isReserved (word : String) : Bool := reservedWords.contains word

end WideColumn.Identifier
