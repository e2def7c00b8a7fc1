import Relational.Binary64

/-!
# Similarity of words

Two words are the more similar the more of their characters match.  Characters
match if they are equal and stand at nearly the same place, and matches that
cross each other count less.  Similarity is a number from zero to one.
-/

namespace Relational

namespace Similarity

/-- How far apart the places of matching characters may be. -/
def reach (word other : List Char) : Nat :=
  max word.length other.length / 2 - 1

/-- The places in another word that the characters of a word match, beginning
with the character at `place`.  Each takes the first equal one that is near
enough and not taken. -/
def matchedPlaces (reach : Nat) (other : List Char) (place : Nat) (taken : List Nat) :
    List Char → List (Char × Nat)
  | [] => []
  | c :: rest =>
    let candidates := other.zipIdx.filter fun (d, spot) =>
      c = d && place ≤ spot + reach && spot ≤ place + reach && !taken.contains spot
    match candidates with
    | (_, found) :: _ => (c, found) :: matchedPlaces reach other (place + 1) (found :: taken) rest
    | [] => matchedPlaces reach other (place + 1) taken rest

/-- How many of two lists' characters differ, place by place. -/
def differences (left right : List Char) : Nat :=
  (left.zip right).countP fun (c, d) => c ≠ d

/-- The similarity of two words. -/
def score (word other : List Char) : Binary64 :=
  let found := matchedPlaces (reach word other) other 0 [] word
  let places := found.map Prod.snd
  let inOther := (other.zipIdx.filter fun (_, place) => places.contains place).map Prod.fst
  let crossings := differences (found.map Prod.fst) inOther / 2
  let count := Binary64.ofNat found.length
  if found.isEmpty then 0.0
  else
    (count / Binary64.ofNat word.length + count / Binary64.ofNat other.length +
      Binary64.ofNat (found.length - crossings) / count) / 3.0

/-- Words are similar above this score. -/
def threshold : Binary64 := 0.7

/-- The later of the two most similar candidates, so far as there are any. -/
def better {α : Type} (best : Option (Binary64 × α)) (candidate : Binary64 × α) :
    Option (Binary64 × α) :=
  match best with
  | none => some candidate
  | some other =>
    if other.1.orderKey ≤ candidate.1.orderKey then some candidate else some other

/-- The item whose name is most similar to a word, the last one of several, if
any name is similar at all. -/
def closest? {α : Type} (nameOf : α → String) (items : List α) (word : String) : Option α :=
  let scored := items.map fun item => (score word.toList (nameOf item).toList, item)
  let similar := scored.filter fun entry => threshold.orderKey < entry.1.orderKey
  (similar.foldl better none).map Prod.snd

end Similarity

end Relational
