import TypedSearch.Handler.Leaf
import TypedSearch.Handler.Record
import TypedSearch.Handler.Registry

/-!
The standard registry (`HandlerRegistry::standard`). The types `null`, `long` and `double` are selected
by no handler, so they are left out of every surface.
-/

namespace TypedSearch.Registry

/-- The registry of the handlers for truth values, bytes, real numbers, integers, records and
strings. -/
def standard : Registry :=
  ⟨[.boolean, .bytes, .float, .int, .record, .string]⟩

end TypedSearch.Registry
