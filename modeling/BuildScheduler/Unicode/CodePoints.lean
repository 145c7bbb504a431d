/-!
# Sets of code points

A set is the increasing list of the code points at which membership changes. A code point
belongs to it when an odd number of changes stand at or before it, so complement is one more
change at zero and every Boolean operation is one merge.
-/

namespace BuildScheduler

structure CodePoints where
  cuts : List Nat
deriving DecidableEq, Repr, Inhabited

namespace CodePoints

def empty : CodePoints := ⟨[]⟩

/-- Whether the parity of the changes up to `point` is odd, from the parity `inside`. -/
def insideAt (point : Nat) : Bool → List Nat → Bool
  | inside, [] => inside
  | inside, cut :: rest => if cut ≤ point then insideAt point (!inside) rest else inside

def contains (set : CodePoints) (point : Nat) : Bool := insideAt point false set.cuts

/-- The code points from `low` to `high`, both included. -/
def range (low high : Nat) : CodePoints := if low ≤ high then ⟨[low, high + 1]⟩ else empty

def single (point : Nat) : CodePoints := range point point

/-- Merges the changes of two sets; a change is kept where the operation's result changes. -/
def merge (op : Bool → Bool → Bool) : Bool → Bool → List Nat → List Nat → List Nat
  | _, _, [], [] => []
  | p, q, a :: as, [] =>
      let rest := merge op (!p) q as []
      if op p q = op (!p) q then rest else a :: rest
  | p, q, [], b :: bs =>
      let rest := merge op p (!q) [] bs
      if op p q = op p (!q) then rest else b :: rest
  | p, q, a :: as, b :: bs =>
      if a < b then
        let rest := merge op (!p) q as (b :: bs)
        if op p q = op (!p) q then rest else a :: rest
      else if b < a then
        let rest := merge op p (!q) (a :: as) bs
        if op p q = op p (!q) then rest else b :: rest
      else
        let rest := merge op (!p) (!q) as bs
        if op p q = op (!p) (!q) then rest else a :: rest
termination_by _ _ as bs => as.length + bs.length

/-- Point by point application of an operation that keeps `false false` outside. -/
def combine (op : Bool → Bool → Bool) (a b : CodePoints) : CodePoints :=
  ⟨merge op false false a.cuts b.cuts⟩

def union (a b : CodePoints) : CodePoints := combine or a b

def inter (a b : CodePoints) : CodePoints := combine and a b

def diff (a b : CodePoints) : CodePoints := combine (fun p q => p && !q) a b

def symmDiff (a b : CodePoints) : CodePoints := combine xor a b

/-- Every code point that is not in the set. -/
def compl (set : CodePoints) : CodePoints :=
  match set.cuts with
  | 0 :: rest => ⟨rest⟩
  | cuts => ⟨0 :: cuts⟩

/-- The union of many sets, halving the list so that no set is merged often. -/
def unionPairs : List CodePoints → List CodePoints
  | a :: b :: rest => union a b :: unionPairs rest
  | sets => sets

/-- Fuel is the length of the list, which halving never needs in full. -/
def unionAux : Nat → List CodePoints → CodePoints
  | _, [] => empty
  | _, [set] => set
  | 0, set :: _ => set
  | fuel + 1, sets => unionAux fuel (unionPairs sets)

def unions (sets : List CodePoints) : CodePoints := unionAux sets.length sets

def ofPoints (points : List Nat) : CodePoints := unions (points.map single)

def ofRanges (ranges : List (Nat × Nat)) : CodePoints :=
  unions (ranges.map fun r => range r.1 r.2)

/-! Tables write a set as the gaps between its changes, in hexadecimal. -/

def hexDigit (c : Char) : Nat :=
  if '0' ≤ c ∧ c ≤ '9' then c.toNat - 48
  else if 'a' ≤ c ∧ c ≤ 'f' then c.toNat - 87
  else 0

/-- The numbers of a row of hexadecimal words. -/
def rowNumbers : List Char → Nat → Bool → List Nat
  | [], number, started => if started then [number] else []
  | c :: rest, number, started =>
      if c = ' ' ∨ c = '\n' then
        if started then number :: rowNumbers rest 0 false else rowNumbers rest 0 false
      else rowNumbers rest (16 * number + hexDigit c) true

/-- Running sums of gaps. -/
def sums : Nat → List Nat → List Nat
  | _, [] => []
  | total, gap :: rest => (total + gap) :: sums (total + gap) rest

/-- The set a table row writes. -/
def ofRow (row : String) : CodePoints := ⟨sums 0 (rowNumbers row.toList 0 false)⟩

/-! Membership by halving, for sets that are asked often. -/

/-- The number of changes at or before `point` between `low` and `high`; fuel bounds the halvings. -/
def countAux (cuts : Array Nat) (point : Nat) : Nat → Nat → Nat → Nat
  | 0, low, _ => low
  | fuel + 1, low, high =>
      if low < high then
        let middle := (low + high) / 2
        if (cuts[middle]?).any (· ≤ point) then countAux cuts point fuel (middle + 1) high
        else countAux cuts point fuel low middle
      else low

/-- Whether a sorted array of changes holds an odd number of them up to `point`. -/
def containsIn (cuts : Array Nat) (point : Nat) : Bool :=
  countAux cuts point 64 0 cuts.size % 2 == 1

end CodePoints

end BuildScheduler
