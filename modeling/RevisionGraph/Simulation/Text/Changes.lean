/-!
# Changes between lists

`marks` says of each item of two lists whether it is changed: the items that are not are the same in
both lists, in the same order.  As few items as possible are changed.

* **Midpoints.**  Two searches, one from each end, walk along the diagonals of the table of all
  pairs and meet in the middle of a shortest way; both halves are then searched in the same manner.
* **Runs.**  A run of changed items that could as well stand later is moved on as far as it goes, or
  back to where the other list has changes, too.  `changes` pairs the runs of both lists.
-/

set_option autoImplicit false

namespace RevisionGraph.Text.Changes

/-! ## Shortest ways -/

/-- Two lists of numbers that stand for items; equal numbers mean equal items. -/
structure Pair where
  left : Array Nat
  right : Array Nat

namespace Pair

/-- The items at two positions are the same. -/
def same (p : Pair) (x y : Int) : Bool :=
  p.left.getD x.toNat 0 == p.right.getD y.toNat 0

/-- A part of the table of pairs. -/
structure Window where
  x0 : Int
  x1 : Int
  y0 : Int
  y1 : Int

/-- Walks along a diagonal as long as items are the same, forwards or backwards. -/
def slide (p : Pair) (w : Window) (forward : Bool) : Nat → Int → Int → Int × Int
  | 0, x, y => (x, y)
  | n + 1, x, y =>
    if forward then
      if x < w.x1 && y < w.y1 && p.same x y then slide p w forward n (x + 1) (y + 1) else (x, y)
    else
      if w.x0 < x && w.y0 < y && p.same (x - 1) (y - 1) then slide p w forward n (x - 1) (y - 1)
      else (x, y)

/-- How far a search has come: the furthest place on each diagonal between two. -/
structure Front where
  places : Array Int
  least : Int
  greatest : Int

/-- The place on a diagonal; places are kept from two below the least diagonal on. -/
def Front.at (f : Front) (base d : Int) : Int := f.places.getD (d - base).toNat 0

/-- Sets how far a diagonal goes. -/
def Front.set (f : Front) (base d x : Int) : Front :=
  { f with places := f.places.setIfInBounds (d - base).toNat x }

/-- Widens the diagonals of a search by one on each side, or narrows them where the table ends. -/
def Front.widen (f : Front) (base least greatest empty : Int) : Front :=
  let f := if least < f.least then
    { f.set base (f.least - 2) empty with least := f.least - 1 }
    else { f with least := f.least + 1 }
  if f.greatest < greatest then
    { f.set base (f.greatest + 2) empty with greatest := f.greatest + 1 }
  else { f with greatest := f.greatest - 1 }

/-- Takes a step of a search on every second diagonal from the greatest down; the answer is where it
met the other search. -/
def advance (p : Pair) (w : Window) (base : Int) (forward meets : Bool) (other : Front) :
    Nat → Int → Front → Front × Option (Int × Int)
  | 0, _, f => (f, none)
  | n + 1, d, f =>
    if d < f.least then (f, none)
    else
      let low := f.at base (d - 1)
      let high := f.at base (d + 1)
      let start := if forward then (if low < high then high else low + 1)
        else (if low < high then low else high - 1)
      let (x, y) := p.slide w forward (p.left.size + p.right.size + 1) start (start - d)
      let f := f.set base d x
      let within := other.least ≤ d && d ≤ other.greatest
      let crossed := if forward then other.at base d ≤ x else x ≤ other.at base d
      if meets && within && crossed then (f, some (x, y))
      else advance p w base forward meets other n (d - 2) f

/-- The middle of a shortest way through a part of the table; the bound is on its length. -/
def midpointFor (p : Pair) (w : Window) (base : Int) (odd : Bool) :
    Nat → Front → Front → Int × Int
  | 0, _, _ => (w.x0, w.y0)
  | n + 1, forward, backward =>
    let least := w.x0 - w.y1
    let greatest := w.x1 - w.y0
    let diagonals := (greatest - least).toNat + 1
    let forward := forward.widen base least greatest (-1)
    match p.advance w base true odd backward diagonals forward.greatest forward with
    | (_, some meeting) => meeting
    | (forward, none) =>
      let backward := backward.widen base least greatest (w.x1 + w.y1 + 1)
      match p.advance w base false (!odd) forward diagonals backward.greatest backward with
      | (_, some meeting) => meeting
      | (backward, none) => midpointFor p w base odd n forward backward

/-- A point about the middle of a shortest way through a window. -/
def midpoint (p : Pair) (w : Window) : Int × Int :=
  let base := w.x0 - w.y1 - 2
  let size := (w.x1 - w.y0 - (w.x0 - w.y1)).toNat + 5
  let start (d x : Int) : Front :=
    Front.set ⟨Array.replicate size 0, d, d⟩ base d x
  let forward := start (w.x0 - w.y0) w.x0
  let backward := start (w.x1 - w.y1) w.x1
  let odd := Int.fmod ((w.x0 - w.y0) - (w.x1 - w.y1)) 2 = 1
  p.midpointFor w base odd size forward backward

/-- The items of both lists that are changed in a part of the table; the bound is on the parts of
parts. -/
def differing (p : Pair) : Nat → Window → List Int × List Int
  | 0, _ => ([], [])
  | n + 1, w =>
    let steps := p.left.size + p.right.size + 1
    let (x0, y0) := p.slide w true steps w.x0 w.y0
    let w := { w with x0, y0 }
    let (x1, y1) := p.slide w false steps w.x1 w.y1
    let w := { w with x1, y1 }
    let range (a b : Int) : List Int := (List.range (b - a).toNat).map fun (k : Nat) ↦ a + k
    if x0 = x1 then ([], range y0 y1)
    else if y0 = y1 then (range x0 x1, [])
    else
      let (x, y) := p.midpoint w
      let (a, b) := differing p n { w with x1 := x, y1 := y }
      let (c, d) := differing p n { w with x0 := x, y0 := y }
      (a ++ c, b ++ d)

end Pair

/-- Numbers for the items of two lists, equal ones for equal items. -/
def numbered (left right : List String) : Array Nat × Array Nat :=
  let step (known : List (String × Nat)) (s : String) : List (String × Nat) × Nat :=
    match known.find? (·.1 == s) with
    | some (_, n) => (known, n)
    | none => ((s, known.length) :: known, known.length)
  let number (known : List (String × Nat)) (xs : List String) : List (String × Nat) × Array Nat :=
    xs.foldl (fun (known, ns) s ↦
      let (known, n) := step known s
      (known, ns.push n)) (known, #[])
  let (known, a) := number [] left
  (a, (number known right).2)

/-- Marks for the items that are changed.  Items that the other list lacks are changed, and a
shortest way is looked for among the others. -/
def rawMarks (left right : Array Nat) : Array Bool × Array Bool :=
  let keep (xs others : Array Nat) : Array (Nat × Nat) :=
    xs.zipIdx.filter fun (x, _) ↦ others.contains x
  let a := keep left right
  let b := keep right left
  let p : Pair := ⟨a.map Prod.fst, b.map Prod.fst⟩
  let (c, d) := p.differing (a.size + b.size + 1) ⟨0, a.size, 0, b.size⟩
  let marked (xs : Array Nat) (kept : Array (Nat × Nat)) (changed : List Int) : Array Bool :=
    let start := kept.foldl (fun m (_, k) ↦ m.setIfInBounds k false) (Array.replicate xs.size true)
    changed.foldl (fun m i ↦
      match kept[i.toNat]? with
      | some (_, k) => m.setIfInBounds k true
      | none => m) start
  (marked left a c, marked right b d)

/-! ## Runs -/

/-- Where a run of changed items is, and the item of the other list that stands opposite its end. -/
structure Run where
  marks : Array Bool
  start : Nat
  finish : Nat
  opposite : Nat
  /-- where the run ended when it last had changes of the other list opposite -/
  matched : Option Nat := none

namespace Run

/-- The first place from some place on, in steps of one, that is not marked. -/
def skipFor (marks : Array Bool) : Nat → Nat → Nat
  | 0, i => i
  | n + 1, i => if marks.getD i false then skipFor marks n (i + 1) else i

/-- The next position that is not marked. -/
def skip (marks : Array Bool) (i : Nat) : Nat := skipFor marks (marks.size + 1) i

/-- The start of the marked items that end before a place. -/
def startFor (marks : Array Bool) : Nat → Nat → Nat
  | 0, i => i
  | n + 1, i => if 0 < i && marks.getD (i - 1) false then startFor marks n (i - 1) else i

/-- The last place before another that is not marked. -/
def backFor (marks : Array Bool) : Nat → Nat → Nat
  | 0, i => i
  | n + 1, i => if marks.getD (i - 1) false then backFor marks n (i - 1) else i - 1

/-- The last place before another that is not marked. -/
def back (others : Array Bool) (j : Nat) : Nat := backFor others (others.size + 1) j

/-- Moves a run back by one item. -/
def shiftBack (others : Array Bool) (r : Run) : Run :=
  let marks := (r.marks.setIfInBounds (r.start - 1) true).setIfInBounds (r.finish - 1) false
  { r with marks, start := r.start - 1, finish := r.finish - 1, opposite := back others r.opposite }

/-- Moves a run back as long as it stays the same, and joins it with runs before it. -/
def retreatFor (xs : Array Nat) (others : Array Bool) : Nat → Run → Run
  | 0, r => r
  | n + 1, r =>
    if 0 < r.start && xs.getD (r.start - 1) 0 == xs.getD (r.finish - 1) 0 then
      let r := r.shiftBack others
      retreatFor xs others n { r with start := startFor r.marks r.marks.size r.start }
    else r

/-- Moves a run on as long as it stays the same, and joins it with runs behind it. -/
def progressFor (xs : Array Nat) (others : Array Bool) : Nat → Run → Run
  | 0, r => r
  | n + 1, r =>
    if r.finish < xs.size && xs.getD r.start 0 == xs.getD r.finish 0 then
      let marks := (r.marks.setIfInBounds r.start false).setIfInBounds r.finish true
      let finish := skip marks (r.finish + 1)
      let opposite := skip others (r.opposite + 1)
      let matched := if opposite = r.opposite + 1 then r.matched else some finish
      progressFor xs others n { marks, start := r.start + 1, finish, opposite, matched }
    else r

/-- Moves a run back and on until it grows no more. -/
def settleFor (xs : Array Nat) (others : Array Bool) : Nat → Run → Run
  | 0, r => r
  | n + 1, r =>
    let length := r.finish - r.start
    let r := retreatFor xs others (xs.size + 1) r
    let r := { r with
      matched := if 0 < r.opposite && others.getD (r.opposite - 1) false then some r.finish else none }
    let r := progressFor xs others (xs.size + 1) r
    if r.finish - r.start = length then r else settleFor xs others n r

/-- Moves a run back to where it last had changes opposite. -/
def alignFor (others : Array Bool) : Nat → Run → Run
  | 0, r => r
  | n + 1, r =>
    if r.matched.any (· < r.finish) then alignFor others n (r.shiftBack others) else r

end Run

/-- Moves the runs from a place on; `j` is the place of the other list that stands opposite. -/
def moveRunsFor (xs : Array Nat) (others : Array Bool) : Nat → Array Bool → Nat → Nat → Array Bool
  | 0, marks, _, _ => marks
  | n + 1, marks, i, j =>
    if xs.size ≤ i then marks
    else if !marks.getD i false then moveRunsFor xs others n marks (i + 1) (Run.skip others j + 1)
    else
      let r := Run.settleFor xs others (xs.size + 1)
        { marks, start := i, finish := Run.skip marks i, opposite := Run.skip others j }
      let r := r.alignFor others (xs.size + 1)
      moveRunsFor xs others n r.marks r.finish r.opposite

/-- Marks for the items of two lists that are changed. -/
def marks (left right : Array Nat) : Array Bool × Array Bool :=
  let (a, b) := rawMarks left right
  let a := moveRunsFor left b (2 * left.size + 2) a 0 0
  let b := moveRunsFor right a (2 * right.size + 2) b 0 0
  (a, b)

/-- Some items, perhaps none, that stand for some others: where they start and how many they are. -/
structure Change where
  left : Nat
  removed : Nat
  right : Nat
  added : Nat
  deriving DecidableEq, Repr

/-- Pairs the runs of marked items from two places on. -/
def pairRuns (a b : Array Bool) : Nat → Nat → Nat → List Change
  | 0, _, _ => []
  | n + 1, i, j =>
    if a.size ≤ i && b.size ≤ j then []
    else
      let x := Run.skip a i
      let y := Run.skip b j
      if x = i && y = j then pairRuns a b n (i + 1) (j + 1)
      else ⟨i, x - i, j, y - j⟩ :: pairRuns a b n x y

/-- How many items are the same at the front of both lists. -/
def commonFront : List Nat → List Nat → Nat
  | x :: xs, y :: ys => if x = y then commonFront xs ys + 1 else 0
  | _, _ => 0

/-- The changes between two lists.  Of the items that both have at their fronts and ends so many are
taken into account. -/
def changes (context : Nat) (left right : List String) : List Change :=
  let (a, b) := numbered left right
  let front := commonFront a.toList b.toList
  let behind := commonFront (a.toList.drop front).reverse (b.toList.drop front).reverse
  let front := front - context
  let behind := behind - context
  let cut (xs : Array Nat) : Array Nat := xs.extract front (xs.size - behind)
  let (x, y) := marks (cut a) (cut b)
  (pairRuns x y (a.size + b.size + 1) 0 0).map fun c ↦
    { c with left := c.left + front, right := c.right + front }

end RevisionGraph.Text.Changes
