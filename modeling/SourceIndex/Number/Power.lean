/-! # Powers of two and of ten

Exact arithmetic on numbers in binary and in decimal notation scales by these. -/
set_option autoImplicit false
namespace SourceIndex

def powTwo (n : Nat) : Nat := Nat.pow 2 n

def powTen (n : Nat) : Nat := Nat.pow 10 n

end SourceIndex
