/-
Powers with natural exponents. Every power in this library is the one that the
core library computes, also in a module where another is in scope.
-/
namespace SqlBind

@[default_instance high]
instance (priority := high) corePower {α : Type} [NatPow α] : Pow α Nat := instPowNat

end SqlBind
