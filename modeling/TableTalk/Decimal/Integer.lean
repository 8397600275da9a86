/-!
# Integers of 64 bits
-/

namespace TableTalk

set_option autoImplicit false

def fitsSigned (n : Int) : Bool := -9223372036854775808 ≤ n && n < 9223372036854775808

def fitsUnsigned (n : Int) : Bool := 0 ≤ n && n < 18446744073709551616

end TableTalk
