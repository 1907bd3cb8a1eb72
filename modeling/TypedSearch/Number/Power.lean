/-!
Powers of the two bases that numbers are written in.
-/

namespace TypedSearch

/-- A power of two, which is also the number of values of so many bits. -/
def powerOfTwo (exponent : Nat) : Nat := Nat.pow 2 exponent

def powerOfTen (exponent : Nat) : Nat := Nat.pow 10 exponent

end TypedSearch
