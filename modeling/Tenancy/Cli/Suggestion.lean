import Tenancy.Text.Literal

/-!
# Suggestions

A name that is not known may be a known one misspelt. Two names are alike if the runs of code
points that they share, taken longest first and in order, make up at least three fifths of both.
-/
namespace Tenancy.Cli

def sharedStart : Text → Text → Nat
  | a :: s, b :: t => if a = b then sharedStart s t + 1 else 0
  | _, _ => 0

/-- The first of the longest runs that two texts share: where it starts in either and its length. -/
def longestRun (s t : Text) : Nat × Nat × Nat :=
  (List.range s.length).foldl
    (fun best i =>
      (List.range t.length).foldl
        (fun best j =>
          let length := sharedStart (s.drop i) (t.drop j)
          if best.2.2 < length then (i, j, length) else best)
        best)
    (0, 0, 0)

/-- How many code points two texts share in runs; `fuel` bounds the number of runs. -/
def sharedLength : (fuel : Nat) → Text → Text → Nat
  | 0, _, _ => 0
  | fuel + 1, s, t =>
    match longestRun s t with
    | (_, _, 0) => 0
    | (i, j, length) =>
      sharedLength fuel (s.take i) (t.take j) + length
        + sharedLength fuel (s.drop (i + length)) (t.drop (j + length))

/-- How alike a known name is to a given one: what they share, and their lengths together. -/
structure Likeness where
  name : Text
  shared : Nat
  total : Nat

/-- The likeness of a known name to a given one. -/
def Likeness.of (given name : Text) : Likeness :=
  ⟨name, sharedLength name.length name given, name.length + given.length⟩

/-- Whether the shared runs make up three fifths. -/
def Likeness.suffices (likeness : Likeness) : Bool := 3 * likeness.total ≤ 10 * likeness.shared

/-- Whether the first of two names is more alike, or else as alike and not before the other. -/
def Likeness.precedes (a b : Likeness) : Bool :=
  if a.shared * b.total = b.shared * a.total then Text.le b.name a.name
  else b.shared * a.total < a.shared * b.total

/-- At most three known names that are alike to a given one, in order. -/
def alike (known : List String) (given : Text) : List Text :=
  let candidates := (known.map fun name => Likeness.of given (Text.ofString name)).filter
    Likeness.suffices
  (((candidates.mergeSort Likeness.precedes).take 3).map (·.name)).mergeSort Text.le

/-- The question whether a known name is meant, if one is alike. -/
def suggestion (known : List String) (given : Text) : Text :=
  match alike known given with
  | [] => []
  | [name] => " Did you mean " ++ name.quoted ++ "?"
  | names => " (Did you mean one of: " ++ Text.join ", " (names.map Text.quoted) ++ "?)"

end Tenancy.Cli
