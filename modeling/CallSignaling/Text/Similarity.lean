/-!
# Similarity — how alike two words are

Two characters match if they are equal and not further apart than about half the longer word.  The
measure of Jaro is the mean of the matched part of either word and of the part of the matches that
stands in the same order in both.
-/

namespace CallSignaling.Text

/-- The place of the first character equal to `c` that is not taken and whose place, counted from
`index`, lies between the bounds. -/
def matchPlace? (c : Char) (low high : Nat) (taken : List Nat) : Nat → List Char → Option Nat
  | _, [] => none
  | index, d :: ds =>
    if high ≤ index then none
    else if low ≤ index ∧ c = d ∧ !taken.contains index then some index
    else matchPlace? c low high taken (index + 1) ds

/-- The characters of the first word, from the place `index` on, that match one of the second word,
and the places that are taken there. -/
def matching (reach : Nat) (word : List Char) :
    Nat → List Nat → List Char → List Char × List Nat
  | _, taken, [] => ([], taken)
  | index, taken, c :: cs =>
    match matchPlace? c (index - reach) (index + reach + 1) taken 0 word with
    | none => matching reach word (index + 1) taken cs
    | some j =>
      let (ms, taken) := matching reach word (index + 1) (j :: taken) cs
      (c :: ms, taken)

/-- The similarity of two words: one if they are equal, nought if they have nothing in common. -/
def similarity (a b : String) : Float :=
  let xs := a.toList
  let ys := b.toList
  let reach := max xs.length ys.length / 2 - 1
  let (ms, taken) := matching reach ys 0 [] xs
  let others := (ys.zipIdx.filter fun p => taken.contains p.2).map Prod.fst
  let moved := ((ms.zip others).filter fun p => p.1 != p.2).length / 2
  let count := ms.length
  if xs.isEmpty && ys.isEmpty then 1
  else if count = 0 then 0
  else
    (count.toFloat / xs.length.toFloat + count.toFloat / ys.length.toFloat
      + (count - moved).toFloat / count.toFloat) / 3

/-- Words are similar above this. -/
def similarityLimit : Float := 0.7

/-- The word most similar to the given one, the last of equals, if one is similar at all. -/
def mostSimilar? (word : String) (words : List String) : Option String :=
  let step (best : Option (Float × String)) (w : String) : Option (Float × String) :=
    let s := similarity word w
    if similarityLimit < s then
      match best with
      | some (t, _) => if t ≤ s then some (s, w) else best
      | none => some (s, w)
    else best
  (words.foldl step none).map Prod.snd

end CallSignaling.Text
