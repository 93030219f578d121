import StubGraft.Proofs.Braces
import Mathlib.Order.Bounds.Defs

/-!
# Closing lines by index

The search for the closing line of a declaration walks down a file.  Here its result is said in
terms of the file alone: which lines there are between two indices, and how many braces these have
together.

* `linesFrom` — the lines from one index to another.
* `EvenFrom` — the lines from one index to another have as many opening as closing braces, and some.
* `closing?_eq_some_iff` — a closing line is the nearest one up to which the braces are even.
* `closing?_least` — this, when there is none, and which lines have no part in it.
-/

namespace StubGraft.Braces

variable {lines other : List Text} {start last : Nat}

/-! ## The braces between two lines -/

/-- The lines from one index to another, both included. -/
def linesFrom (lines : List Text) (start last : Nat) : List Text :=
  (lines.drop start).take (last + 1 - start)

/-- There is a line at the second index, and from the first index to it there are as many opening
as closing braces, and at least one. -/
def EvenFrom (lines : List Text) (start last : Nat) : Prop :=
  start ≤ last ∧ last < lines.length ∧
    0 < (linesFrom lines start last).flatten.count '{' ∧
    (linesFrom lines start last).flatten.count '{' = (linesFrom lines start last).flatten.count '}'

theorem totalOpens_eq_count (lines : List Text) : totalOpens lines = lines.flatten.count '{' := by
  induction lines with
  | nil => rfl
  | cons line lines ih => rw [totalOpens_cons, ih, List.flatten_cons, List.count_append, opens]

theorem totalNet_eq_count (lines : List Text) :
    totalNet lines = (lines.flatten.count '{' : Int) - lines.flatten.count '}' := by
  induction lines with
  | nil => rfl
  | cons line lines ih =>
    rw [totalNet_cons, ih, net, opens, closes, List.flatten_cons, List.count_append,
      List.count_append]
    omega

/-- A run of lines is closed if its braces are even. -/
theorem closed_iff (lines : List Text) :
    Closed lines ↔ 0 < lines.flatten.count '{' ∧
      lines.flatten.count '{' = lines.flatten.count '}' := by
  rw [Closed, totalOpens_eq_count, totalNet_eq_count]
  omega

theorem evenFrom_add_iff {offset : Nat} :
    EvenFrom lines start (start + offset) ↔
      offset < (lines.drop start).length ∧ Closed ((lines.drop start).take (offset + 1)) := by
  have hcount : start + offset + 1 - start = offset + 1 := by omega
  rw [EvenFrom, linesFrom, hcount, closed_iff, List.length_drop]
  constructor
  · rintro ⟨-, hlt, heven⟩
    exact ⟨by omega, heven⟩
  · rintro ⟨hlt, heven⟩
    exact ⟨by omega, by omega, heven⟩

/-! ## The nearest line with even braces -/

/-- The closing line is the nearest one up to which the braces are even. -/
theorem closing?_eq_some_iff :
    closing? lines start = some last ↔ IsLeast {i | EvenFrom lines start i} last := by
  rw [closing?, Option.map_eq_some_iff]
  constructor
  · rintro ⟨offset, hoffset, rfl⟩
    obtain ⟨hlt, hclosed, hmin⟩ := closingOffset?_eq_some_iff.1 hoffset
    refine ⟨evenFrom_add_iff.2 ⟨hlt, hclosed⟩, fun i hi => ?_⟩
    obtain ⟨j, rfl⟩ := Nat.exists_eq_add_of_le hi.1
    have hj : ¬ j < offset := fun hj => hmin j hj (evenFrom_add_iff.1 hi).2
    omega
  · rintro ⟨heven, hmin⟩
    obtain ⟨offset, rfl⟩ := Nat.exists_eq_add_of_le heven.1
    obtain ⟨hlt, hclosed⟩ := evenFrom_add_iff.1 heven
    refine ⟨offset, closingOffset?_eq_some_iff.2 ⟨hlt, hclosed, fun j hj hc => ?_⟩, rfl⟩
    have hle : start + offset ≤ start + j := hmin (evenFrom_add_iff.2 ⟨by omega, hc⟩)
    omega

/-- There is no closing line exactly if the braces are even nowhere. -/
theorem closing?_eq_none_iff :
    closing? lines start = none ↔ ∀ i, ¬ EvenFrom lines start i := by
  rw [closing?, Option.map_eq_none_iff, closingOffset?_eq_none_iff]
  constructor
  · intro h i hi
    obtain ⟨offset, rfl⟩ := Nat.exists_eq_add_of_le hi.1
    obtain ⟨hlt, hclosed⟩ := evenFrom_add_iff.1 hi
    exact h offset hlt hclosed
  · intro h offset hlt hclosed
    exact h (start + offset) (evenFrom_add_iff.2 ⟨hlt, hclosed⟩)

/-! ## Lines without influence -/

theorem getElem?_linesFrom (i : Nat) :
    (linesFrom lines start last)[i]? =
      if start + i ≤ last then lines[start + i]? else none := by
  rw [linesFrom, List.getElem?_take, List.getElem?_drop]
  refine if_congr ?_ rfl rfl
  omega

/-- Whether the braces are even depends on the lines in between only. -/
theorem EvenFrom.congr (h : EvenFrom lines start last)
    (hsame : ∀ i, start ≤ i → i ≤ last → other[i]? = lines[i]?) : EvenFrom other start last := by
  obtain ⟨hle, hlt, heven⟩ := h
  have hlines : linesFrom other start last = linesFrom lines start last := by
    refine List.ext_getElem? fun i => ?_
    rw [getElem?_linesFrom, getElem?_linesFrom]
    split
    · exact hsame _ (by omega) (by assumption)
    · rfl
  have hline : other[last]? = some lines[last] := by
    rw [hsame last hle (Nat.le_refl last), List.getElem?_eq_getElem hlt]
  refine ⟨hle, (List.getElem?_eq_some_iff.1 hline).1, ?_⟩
  rw [hlines]
  exact heven

/-- The search neither looks back above its start nor below the line where it ends. -/
theorem closing?_congr (h : closing? lines start = some last)
    (hsame : ∀ i, start ≤ i → i ≤ last → other[i]? = lines[i]?) :
    closing? other start = some last := by
  obtain ⟨heven, hmin⟩ := closing?_eq_some_iff.1 h
  refine closing?_eq_some_iff.2 ⟨heven.congr hsame, fun i hi => ?_⟩
  by_contra hlt
  refine hlt (hmin (hi.congr fun j hstart hj => (hsame j hstart ?_).symm))
  omega

/-- The closing line of a declaration at an index is the nearest line from there on up to which the
lines have an opening brace and as many opening as closing ones; there is none exactly if there is
no such line.  The lines above the declaration and those below the closing line may be any others,
and below it also more or fewer. -/
theorem closing?_least (lines : List Text) (start : Nat) :
    (∀ last, closing? lines start = some last ↔ IsLeast {i | EvenFrom lines start i} last) ∧
    (closing? lines start = none ↔ ∀ i, ¬ EvenFrom lines start i) ∧
    ∀ last, closing? lines start = some last →
      ∀ other : List Text, (∀ i, start ≤ i → i ≤ last → other[i]? = lines[i]?) →
        closing? other start = some last :=
  ⟨fun _ => closing?_eq_some_iff, closing?_eq_none_iff, fun _ h _ hsame => closing?_congr h hsame⟩

/-- The depth goes below zero on the way, and the second file begins and ends otherwise. -/
theorem closing?_least_dip :
    let lines := [Text.lit "\x7d", Text.lit "f=\x7b", Text.lit "\x7d\x7d", Text.lit "\x7b",
      Text.lit "\x7d"]
    let other := [Text.lit "", Text.lit "f=\x7b", Text.lit "\x7d\x7d", Text.lit "\x7b"]
    (closing? lines 1 = some 3 ∧ ∀ i, 1 ≤ i → i ≤ 3 → other[i]? = lines[i]?) ∧
    EvenFrom lines 1 3 ∧ closing? lines 4 = none ∧ closing? other 1 = some 3 := by
  intro lines other
  have hclosing : closing? lines 1 = some 3 := by decide
  have hnone : closing? lines 4 = none := by decide
  have hsame : ∀ i, 1 ≤ i → i ≤ 3 → other[i]? = lines[i]? := by
    intro i hlow hhigh
    obtain rfl | rfl | rfl : i = 1 ∨ i = 2 ∨ i = 3 := by omega
    all_goals rfl
  obtain ⟨hleast, -, hother⟩ := closing?_least lines 1
  exact ⟨⟨hclosing, hsame⟩, ((hleast 3).1 hclosing).1, hnone, hother 3 hclosing other hsame⟩

end StubGraft.Braces
