/-!
`2 ^ 64` is the power of natural numbers itself, also where a module sees the powers of
monoids: the definitions below mean one thing in every module that uses them.
-/

attribute [instance (high), default_instance (high + 10000)] instPowNat
