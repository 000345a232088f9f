/-
  WideColumn.Version — the version of the library.
-/

namespace WideColumn

def version : String := "0.4.0"

end WideColumn
