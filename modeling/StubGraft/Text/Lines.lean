import StubGraft.Text.Basic

/-!
# Lines

A text is cut into lines at line feeds only, and joining the lines with line feeds
gives the text back.  Texts read from files have their line ends made uniform first:
a carriage return, alone or before a line feed, becomes a line feed.

Main statements: `joinLines_splitLines` and `splitLines_joinLines`.
-/

namespace StubGraft.Text

/-- The lines of a text; a text without line feed has one line. -/
def splitLines : Text → List Text
  | [] => [[]]
  | c :: r =>
    if c = '\n' then [] :: splitLines r
    else
      match splitLines r with
      | [] => [[c]]
      | line :: lines => (c :: line) :: lines

/-- The text with the given lines. -/
def joinLines : List Text → Text
  | [] => []
  | [line] => line
  | line :: next :: lines => line ++ '\n' :: joinLines (next :: lines)

theorem splitLines_ne_nil (t : Text) : splitLines t ≠ [] := by
  induction t with
  | nil => simp [splitLines]
  | cons c r ih =>
    by_cases h : c = '\n'
    · simp [splitLines, h]
    · cases hr : splitLines r with
      | nil => exact absurd hr ih
      | cons line lines => simp [splitLines, h, hr]

/-- Joining the lines of a text gives the text back. -/
theorem joinLines_splitLines (t : Text) : joinLines (splitLines t) = t := by
  induction t with
  | nil => rfl
  | cons c r ih =>
    cases hr : splitLines r with
    | nil => exact absurd hr (splitLines_ne_nil r)
    | cons line lines =>
      rw [hr] at ih
      by_cases h : c = '\n'
      · simp [splitLines, h, hr, joinLines, ih]
      · cases lines with
        | nil => simp_all [splitLines, joinLines]
        | cons next lines => simp_all [splitLines, joinLines]

theorem not_mem_splitLines {t line : Text} (h : line ∈ splitLines t) : '\n' ∉ line := by
  induction t generalizing line with
  | nil =>
    simp only [splitLines, List.mem_singleton] at h
    simp [h]
  | cons c r ih =>
    by_cases hc : c = '\n'
    · simp only [splitLines, hc, if_true, List.mem_cons] at h
      rcases h with rfl | h
      · simp
      · exact ih h
    · cases hr : splitLines r with
      | nil => exact absurd hr (splitLines_ne_nil r)
      | cons first rest =>
        simp only [splitLines, hc, if_false, hr, List.mem_cons] at h
        have hfirst : '\n' ∉ first := ih (by simp [hr])
        rcases h with rfl | h
        · simp only [List.mem_cons, not_or]
          exact ⟨fun e => hc e.symm, hfirst⟩
        · exact ih (by simp [hr, h])

theorem splitLines_of_not_mem {line : Text} (h : '\n' ∉ line) : splitLines line = [line] := by
  induction line with
  | nil => rfl
  | cons c r ih =>
    simp only [List.mem_cons, not_or] at h
    have hc : c ≠ '\n' := fun e => h.1 e.symm
    simp [splitLines, hc, ih h.2]

/-- A line feed after a line ends that line. -/
theorem splitLines_append_newline {line : Text} (h : '\n' ∉ line) (t : Text) :
    splitLines (line ++ '\n' :: t) = line :: splitLines t := by
  induction line with
  | nil => simp [splitLines]
  | cons c r ih =>
    simp only [List.mem_cons, not_or] at h
    have hc : c ≠ '\n' := fun e => h.1 e.symm
    simp [splitLines, hc, ih h.2]

/-- Splitting what was joined gives the lines back, if none of them holds a line feed. -/
theorem splitLines_joinLines {lines : List Text} (hne : lines ≠ [])
    (h : ∀ line ∈ lines, '\n' ∉ line) : splitLines (joinLines lines) = lines := by
  induction lines with
  | nil => exact absurd rfl hne
  | cons line rest ih =>
    have hline : '\n' ∉ line := h line (by simp)
    cases rest with
    | nil => exact splitLines_of_not_mem hline
    | cons next lines =>
      rw [joinLines, splitLines_append_newline hline, ih (by simp)]
      intro l hl
      exact h l (List.mem_cons_of_mem _ hl)

/-- The text with every line end written as a line feed. -/
def uniformLineEnds : Text → Text
  | [] => []
  | '\r' :: '\n' :: r => '\n' :: uniformLineEnds r
  | c :: r => (if c = '\r' then '\n' else c) :: uniformLineEnds r

/-- The line and the column of a position in a text, both counted from one. -/
def lineColumn (t : Text) (position : Nat) : Nat × Nat :=
  let before := t.take position
  (before.count '\n' + 1, (before.reverse.takeWhile (· ≠ '\n')).length + 1)

end StubGraft.Text
