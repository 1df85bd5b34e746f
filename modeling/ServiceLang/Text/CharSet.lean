namespace ServiceLang.Text

/-!
# Sets of characters

A set of characters is a list of ascending code points `lo₀, hi₀, lo₁, hi₁, …`: it holds the
characters whose code point `n` satisfies `loᵢ ≤ n < hiᵢ` for some `i`.
-/

/-- A set of characters, given by the ascending ends of its half-open runs. -/
structure CharSet where
  /-- The ends `lo₀, hi₀, lo₁, hi₁, …`, in ascending order. -/
  bounds : List Nat

/-- Whether a code point lies in one of the half-open runs of `bounds`. -/
def withinBounds : List Nat → Nat → Bool
  | lo :: hi :: rest, n => if n < lo then false else if n < hi then true else withinBounds rest n
  | _, _ => false

/-- Whether a character belongs to the set. -/
def CharSet.contains (s : CharSet) (c : Char) : Bool := withinBounds s.bounds c.toNat

end ServiceLang.Text
