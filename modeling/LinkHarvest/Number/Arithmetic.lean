import LinkHarvest.Number.Binary64

/-!
# Arithmetic

Sums and products of floating point numbers: the exact result, rounded to the nearest value.
-/

namespace LinkHarvest.Binary64

def negate : Binary64 → Binary64
  | .nan => .nan
  | .infinite negative => .infinite !negative
  | .finite negative m e => .finite (!negative) m e

/-- The value nearest to `n * 2 ^ e`; a zero has the given sign. -/
def ofScaled (negativeZero : Bool) (n : Int) (e : Int) : Binary64 :=
  if n = 0 then .finite negativeZero 0 minExponent
  else if e < 0 then ofRatio (n < 0) n.natAbs (Nat.pow 2 e.natAbs)
  else ofRatio (n < 0) (n.natAbs * Nat.pow 2 e.natAbs) 1

def add : Binary64 → Binary64 → Binary64
  | .nan, _ => .nan
  | _, .nan => .nan
  | .infinite a, .infinite b => if a = b then .infinite a else .nan
  | .infinite a, _ => .infinite a
  | _, .infinite b => .infinite b
  | .finite a m e, .finite b n f =>
    let g := min e f
    ofScaled (a && b)
      (Integer.signed a m * Nat.pow 2 (e - g).toNat +
        Integer.signed b n * Nat.pow 2 (f - g).toNat) g

def mul : Binary64 → Binary64 → Binary64
  | .nan, _ => .nan
  | _, .nan => .nan
  | .infinite a, .infinite b => .infinite (a != b)
  | .infinite a, .finite b n _ => if n = 0 then .nan else .infinite (a != b)
  | .finite a m _, .infinite b => if m = 0 then .nan else .infinite (a != b)
  | .finite a m e, .finite b n f =>
    ofScaled (a != b) (Integer.signed (a != b) (m * n)) (e + f)

end LinkHarvest.Binary64
