/-!
The version that programs built on this library report (`VERSION`).
-/

namespace TypedSearch

def version : String := "0.1.0"

end TypedSearch
