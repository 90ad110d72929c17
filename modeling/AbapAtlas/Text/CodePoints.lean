/-! Tables over code points: ascending ranges, and runs of letters that move together. -/
namespace AbapAtlas.Text

def rangeOf? : List (Nat × Nat) → Nat → Option (Nat × Nat)
  | [], _ => none
  | (first, last) :: rest, c =>
    if c < first then none else if c ≤ last then some (first, last) else rangeOf? rest c

def covers (ranges : List (Nat × Nat)) (c : Nat) : Bool := (rangeOf? ranges c).isSome

/-- Moves a code point by the run that holds it: every `step`-th code point from `first` to
`last` lies as far from `first` as its image lies from `image`. Others stay. -/
def shifted : List (Nat × Nat × Nat × Nat) → Nat → Nat
  | [], c => c
  | (first, last, step, image) :: rest, c =>
    if c < first then c
    else if c ≤ last then (if (c - first) % step = 0 then image + (c - first) else c)
    else shifted rest c

end AbapAtlas.Text
