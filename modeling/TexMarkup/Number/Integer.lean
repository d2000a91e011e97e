/-!
# Powers of whole numbers

The powers of natural numbers and of integers are those of the core library, also
where a more general notion of powers is known.

## Main definitions

* `natPow`, `intPow`: powers with a natural number as exponent.
-/

namespace TexMarkup

/-- Powers of integers. -/
@[default_instance 19000] instance intPow : Pow Int Nat := instPowNat

/-- Powers of natural numbers, which are meant where nothing else is said. -/
@[default_instance 20000] instance natPow : Pow Nat Nat := instPowNat

end TexMarkup
