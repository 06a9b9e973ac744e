import ColumnarReport.Number.Binary

/-! How alike two words are: the share of characters that match within a window of positions,
less for those that match out of order. The score is computed in double precision. -/
namespace ColumnarReport
namespace Text
namespace Similarity

/-- Characters match when their positions are at most this far apart. -/
def reach (a b : List Char) : Nat := max a.length b.length/2-1

def partner (b : List Char) (reach : Nat) (taken : List Nat) (c : Char) (i : Nat) : Option Nat :=
  (List.range' (i-reach) (min b.length (i+reach+1)-(i-reach))).find? fun j =>
    b[j]? = some c && !taken.contains j

/-- The matching positions, first in `a` and then in `b`, in the order of `a`. -/
def pairs (a b : List Char) : List (Nat × Nat) :=
  a.zipIdx.foldl (fun found (c,i) =>
    match partner b (reach a b) (found.map (·.2)) c i with
    | some j => found++[(i,j)]
    | none => found) []

/-- Half the number of matches whose characters differ when both words are read in order. -/
def exchanges (a b : List Char) : Nat :=
  let found := pairs a b
  let inA := found.filterMap fun p => a[p.1]?
  let inB := b.zipIdx.filterMap fun (c,j) => if (found.map (·.2)).contains j then some c else none
  (inA.zip inB).countP (fun (x,y) => x ≠ y)/2

def ratio (n m : Nat) : Double := (Binary.ofInt n).div (.ofInt m)

def score (a b : List Char) : Double :=
  let n := (pairs a b).length
  if a = [] ∧ b = [] then .ofInt 1
  else if n = 0 then .ofInt 0
  else
    (((ratio n a.length).add (ratio n b.length)).add (ratio (n-exchanges a b) n)).div (.ofInt 3)

def threshold : Double := ratio 7 10

end Similarity

/-- The candidate most like a word, if one is alike enough; of equals the last. -/
def mostSimilar {α : Type} (name : α → String) (word : String) (candidates : List α) : Option α :=
  let scored := candidates.map fun c => (Similarity.score word.toList (name c).toList,c)
  (scored.foldl (fun best e =>
    if e.1.totalCompare Similarity.threshold ≠ .gt then best
    else
      match best with
      | none => some e
      | some b => if e.1.totalCompare b.1 = .lt then best else some e) none).map (·.2)

end Text
end ColumnarReport
