/-!
# Words

Integers as a machine word of 64 bits with a sign holds them.
-/

set_option autoImplicit false

namespace Automation

/-- Whether an integer fits into a word. -/
def fitsWord (n : Int) : Bool := -9223372036854775808 ≤ n && n < 9223372036854775808

end Automation
