import StubGraft.Text.Utf8

/-!
# Code points

What a writer is given to write is a list of code points.  Most of them are characters, but a
surrogate is a code point too, and no bytes of UTF-8 stand for it.  Encoding therefore may fail; it
tells where the first surrogates are.

Main notions:

* `Point`, `Points`: code points, and lists of them;
* `Text.points`, `Points.chars`: the code points of a text, and the characters among code points;
* `Points.encodeUtf8`: the bytes of code points, or their first surrogates;
* `Surrogates.message`: the wording of the failure.
-/

namespace StubGraft

/-- A code point: a character, or the surrogate with the given number. -/
inductive Point where
  /-- A character. -/
  | char (c : Char)
  /-- One of the surrogates, which are numbered from U+D800 on. -/
  | surrogate (index : Fin 2048)
  deriving DecidableEq, Repr

/-- A list of code points. -/
abbrev Points := List Point

/-- The code points of a text. -/
def Text.points (t : Text) : Points := t.map .char

/-- The first surrogates of a list of code points. -/
structure Surrogates where
  /-- The position of the first one. -/
  position : Nat
  /-- The first one. -/
  first : Fin 2048
  /-- How many stand side by side there. -/
  extent : Nat
  deriving DecidableEq, Repr

/-- The wording of the failure to encode surrogates: one is shown, of several only the positions. -/
def Surrogates.message (found : Surrogates) : String :=
  let place :=
    if found.extent ≤ 1 then
      "character '\\u" ++ Text.toStr (Text.hex 4 (0xD800 + found.first)) ++ "' in position " ++
        Text.toStr (Text.ofNat found.position)
    else
      "characters in position " ++ Text.toStr (Text.ofNat found.position) ++ "-" ++
        Text.toStr (Text.ofNat (found.position + found.extent - 1))
  "'utf-8' codec can't encode " ++ place ++ ": surrogates not allowed"

/-- The character of a code point that is one. -/
def Point.char? : Point → Option Char
  | .char c => some c
  | .surrogate _ => none

namespace Points

/-- The characters among code points. -/
def chars (points : Points) : Text := points.filterMap Point.char?

/-- The first surrogates from a position on. -/
def surrogatesFrom? (position : Nat) : Points → Option Surrogates
  | [] => none
  | .char _ :: rest => surrogatesFrom? (position + 1) rest
  | .surrogate index :: rest =>
    some ⟨position, index, (rest.takeWhile fun point => point.char?.isNone).length + 1⟩

/-- The bytes of code points, or the first surrogates among them. -/
def encodeUtf8 (points : Points) : Except Surrogates (List UInt8) :=
  match surrogatesFrom? 0 points with
  | some found => .error found
  | none => .ok points.chars.encodeUtf8

end Points

/-! ## Code points of texts -/

theorem Text.chars_points (t : Text) : t.points.chars = t := by
  rw [points, Points.chars, List.filterMap_map]
  exact List.filterMap_some

theorem Points.surrogatesFrom?_eq_none_iff {position : Nat} {points : Points} :
    points.surrogatesFrom? position = none ↔ points = points.chars.points := by
  induction points generalizing position with
  | nil => simp [surrogatesFrom?, chars, Text.points]
  | cons point points ih =>
    cases point with
    | char c =>
      rw [surrogatesFrom?, ih]
      simp [chars, Text.points, Point.char?]
    | surrogate index =>
      refine iff_of_false (by simp [surrogatesFrom?]) fun h => ?_
      have hmem : Point.surrogate index ∈ Text.points (chars (.surrogate index :: points)) :=
        h ▸ List.mem_cons_self
      simp [Text.points] at hmem

/-- The code points that have bytes are those of texts. -/
theorem Points.encodeUtf8_eq_ok_iff {points : Points} {bytes : List UInt8} :
    points.encodeUtf8 = .ok bytes ↔ ∃ t : Text, points = t.points ∧ bytes = t.encodeUtf8 := by
  unfold encodeUtf8
  cases hfound : surrogatesFrom? 0 points with
  | some found =>
    refine iff_of_false (by simp) ?_
    rintro ⟨t, rfl, -⟩
    have hnone := (@surrogatesFrom?_eq_none_iff 0 t.points).2 (by rw [t.chars_points])
    exact absurd (hfound.symm.trans hnone) (by simp)
  | none =>
    have hchars := surrogatesFrom?_eq_none_iff.1 hfound
    constructor
    · intro h
      exact ⟨points.chars, hchars, (Except.ok.inj h).symm⟩
    · rintro ⟨t, rfl, rfl⟩
      rw [t.chars_points]

theorem Text.encodeUtf8_points (t : Text) : t.points.encodeUtf8 = .ok t.encodeUtf8 :=
  Points.encodeUtf8_eq_ok_iff.2 ⟨t, rfl, rfl⟩

end StubGraft
