/-!
# Similar words

When a command line names something that does not exist, the complaint may point at a name that
does and looks alike. Likeness is the Jaro similarity of the two character sequences: a
character of one word matches an equal, not yet matched character of the other that stands at
most `max(|a|, |b|) / 2 - 1` places away; with `m` matches and `t` half the number of matched
pairs that come in a different order, the similarity is `(m/|a| + m/|b| + (m - t)/m) / 3`, and
0 when nothing matches. It is computed in 64-bit floating point, in that order of operations,
so that ties and the cut-off come out as the command line decides them.

A name is suggested when its similarity is above 0.7. Suggestions are listed from the least to
the most similar, names of equal similarity in their given order, so the last one is the best.
-/

namespace HostInterop.Text

/-- The first unmatched place of `b` in `[lo, hi)` that holds `c`. -/
def matchPlace (b : Array Char) (taken : Array Bool) (c : Char) (lo hi : Nat) : Option Nat :=
  (List.range' lo (hi - lo)).find? fun j => b[j]? == some c && taken[j]? == some false

/-- Match the characters of `a` in turn against `b`: the places of `a` that matched, and the
places of `b` taken. -/
def matchAll (a b : Array Char) (range : Nat) : Array Bool × Array Bool :=
  (List.range a.size).foldl (fun (acc : Array Bool × Array Bool) i =>
    let lo := i - range
    let hi := min b.size (i + range + 1)
    match a[i]? with
    | none => acc
    | some c =>
      match matchPlace b acc.2 c lo hi with
      | some j => (acc.1.set! i true, acc.2.set! j true)
      | none => acc)
    (Array.replicate a.size false, Array.replicate b.size false)

/-- The characters of `cs` at the places `flags` marks, in order. -/
def marked (cs : Array Char) (flags : Array Bool) : List Char :=
  ((cs.toList.zip flags.toList).filter (·.2)).map (·.1)

/-- The Jaro similarity of two words. -/
def jaro (a b : String) : Float :=
  let a := a.toList.toArray
  let b := b.toList.toArray
  if a.size == 0 && b.size == 0 then 1.0
  else if a.size == 0 || b.size == 0 then 0.0
  else
    let (fa, fb) := matchAll a b (max a.size b.size / 2 - 1)
    let ma := marked a fa
    let mb := marked b fb
    let m := ma.length
    let t := ((ma.zip mb).filter fun p => p.1 != p.2).length / 2
    if m == 0 then 0.0
    else
      let mf := m.toFloat
      (mf / a.size.toFloat + mf / b.size.toFloat + (m - t).toFloat / mf) / 3.0

/-- Insert into a list sorted by its first components, after the entries of equal key. -/
def insertByKey {α : Type} (x : Float × α) : List (Float × α) → List (Float × α)
  | [] => [x]
  | y :: ys => if x.1 < y.1 then x :: y :: ys else y :: insertByKey x ys

/-- The names of `candidates` similar to `word`, from the least to the most similar. -/
def similarNames (word : String) (candidates : List String) : List String :=
  let scored := (candidates.map fun c => (jaro word c, c)).filter fun p => p.1 > 0.7
  (scored.foldl (fun acc p => insertByKey p acc) []).map (·.2)

/-- The name of `candidates` most similar to `word`, if any is similar enough. -/
def mostSimilar? (word : String) (candidates : List String) : Option String :=
  (similarNames word candidates).getLast?

end HostInterop.Text
