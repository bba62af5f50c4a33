/-!
# Numbers that do not fit

Counts and lengths are held in words of 64 or 32 bits. A number that is too large for its type ends
the run in which it comes up, and nothing comes of that run: this is an `Overflow`. `word64` and
`word32` put a number into a word.
-/

namespace Slumber

/-- The end of a run by a number that is too large for its type. -/
inductive Overflow where
  | tooLarge
deriving DecidableEq, Repr

/-- A number in 64 bits. -/
def word64 (n : Nat) : Except Overflow UInt64 :=
  if n < UInt64.size then .ok (.ofNat n) else .error .tooLarge

/-- A number in 32 bits. -/
def word32 (n : Nat) : Except Overflow UInt32 :=
  if n < UInt32.size then .ok (.ofNat n) else .error .tooLarge

end Slumber
