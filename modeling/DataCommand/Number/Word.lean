/-!
64-bit words: the signed ones are the integers of commands, and the unsigned ones are the bounds of
windows and the greatest integers of command files.
-/

namespace DataCommand.Number

/-- The integer is a signed 64-bit word. -/
def fitsWord (n : Int) : Bool := -9223372036854775808 ≤ n && n ≤ 9223372036854775807

/-- The integer is an unsigned 64-bit word. -/
def fitsUnsignedWord (n : Int) : Bool := 0 ≤ n && n ≤ 18446744073709551615

end DataCommand.Number
