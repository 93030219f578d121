import StubGraft.Visitor.Braces
import Mathlib.Data.Nat.Find

/-!
# Balanced runs of lines

The search for a closing line keeps a depth, which may go below zero, and remembers whether a
brace has been opened.  This file replaces both by a statement on whole runs of lines.

* `Closed` — a run of lines opens a brace and closes as many as it opens.
* `closingOffset?_eq_some_iff`, `closingOffset?_eq_none_iff` — the closing line is the end of the
  shortest closed run, and there is none exactly if no run is closed.
* `Delimited` — a declaring line, a body and a closing line, none of whose shorter runs is closed.
* `Delimited.splice` — a body keeps its boundaries between any other declaring and closing line
  with the same net braces.
-/

namespace StubGraft.Braces

/-! ## Counting over lines -/

/-- How many opening braces some lines have together. -/
def totalOpens : List Text → Nat
  | [] => 0
  | line :: lines => opens line + totalOpens lines

/-- The opening braces of some lines less the closing ones. -/
def totalNet : List Text → Int
  | [] => 0
  | line :: lines => net line + totalNet lines

@[simp] theorem totalOpens_nil : totalOpens [] = 0 := rfl

@[simp] theorem totalOpens_cons (line : Text) (lines : List Text) :
    totalOpens (line :: lines) = opens line + totalOpens lines := rfl

@[simp] theorem totalOpens_append (a b : List Text) :
    totalOpens (a ++ b) = totalOpens a + totalOpens b := by
  induction a with
  | nil => simp
  | cons line lines ih => rw [List.cons_append, totalOpens_cons, totalOpens_cons, ih, Nat.add_assoc]

@[simp] theorem totalNet_nil : totalNet [] = 0 := rfl

@[simp] theorem totalNet_cons (line : Text) (lines : List Text) :
    totalNet (line :: lines) = net line + totalNet lines := rfl

@[simp] theorem totalNet_append (a b : List Text) :
    totalNet (a ++ b) = totalNet a + totalNet b := by
  induction a with
  | nil => simp
  | cons line lines ih => rw [List.cons_append, totalNet_cons, totalNet_cons, ih, Int.add_assoc]

theorem net_le_opens (t : Text) : net t ≤ opens t := by
  unfold net
  omega

theorem totalNet_le_totalOpens (lines : List Text) : totalNet lines ≤ totalOpens lines := by
  induction lines with
  | nil => simp
  | cons line lines ih =>
    have h := net_le_opens line
    simp only [totalNet_cons, totalOpens_cons]
    omega

/-! ## The closing line ends the shortest closed run -/

/-- A run of lines opens a brace and closes as many as it opens. -/
def Closed (lines : List Text) : Prop := 0 < totalOpens lines ∧ totalNet lines = 0

instance (lines : List Text) : Decidable (Closed lines) := by
  unfold Closed
  infer_instance

/-- A run of lines is closed when it is entered at a depth, after a brace or none. -/
def ClosedFrom (depth : Int) (opened : Bool) (lines : List Text) : Prop :=
  (opened = true ∨ 0 < totalOpens lines) ∧ depth + totalNet lines = 0

theorem closedFrom_zero_false (lines : List Text) :
    ClosedFrom 0 false lines ↔ Closed lines := by
  simp [ClosedFrom, Closed]

theorem closedFrom_cons (depth : Int) (opened : Bool) (line : Text) (lines : List Text) :
    ClosedFrom depth opened (line :: lines) ↔
      ClosedFrom (depth + net line) (opened || decide (0 < opens line)) lines := by
  have hadd : depth + totalNet (line :: lines) = depth + net line + totalNet lines := by
    rw [totalNet_cons, Int.add_assoc]
  have hopen : 0 < totalOpens (line :: lines) ↔ 0 < opens line ∨ 0 < totalOpens lines := by
    rw [totalOpens_cons]
    omega
  simp only [ClosedFrom, hadd, hopen, Bool.or_eq_true, decide_eq_true_eq, or_assoc]

theorem closingFrom_eq_some_iff {depth : Int} {opened : Bool} {lines : List Text} {k : Nat} :
    closingFrom depth opened lines = some k ↔
      k < lines.length ∧ ClosedFrom depth opened (lines.take (k + 1)) ∧
        ∀ j < k, ¬ ClosedFrom depth opened (lines.take (j + 1)) := by
  induction lines generalizing depth opened k with
  | nil => simp [closingFrom]
  | cons line lines ih =>
    -- `here` says that the search stops at the first line
    have here : (opened || decide (0 < opens line)) && depth + net line == 0 ↔
        ClosedFrom depth opened [line] := by
      simp [ClosedFrom]
    rw [closingFrom]
    by_cases h : ClosedFrom depth opened [line]
    · rw [if_pos (here.2 h)]
      constructor
      · intro hk
        cases hk
        exact ⟨by simp, by simpa using h, by simp⟩
      · rintro ⟨-, -, hmin⟩
        cases k with
        | zero => rfl
        | succ k => exact absurd (by simpa using h) (hmin 0 (by omega))
    · rw [if_neg (fun hc => h (here.1 hc)), Option.map_eq_some_iff]
      constructor
      · rintro ⟨j, hj, rfl⟩
        obtain ⟨hlt, hclosed, hmin⟩ := ih.1 hj
        refine ⟨by simpa using hlt, ?_, ?_⟩
        · rw [List.take_succ_cons, closedFrom_cons]
          exact hclosed
        · intro i hi
          cases i with
          | zero => simpa using h
          | succ i =>
            rw [List.take_succ_cons, closedFrom_cons]
            exact hmin i (by omega)
      · rintro ⟨hlt, hclosed, hmin⟩
        cases k with
        | zero => exact absurd (by simpa using hclosed) h
        | succ k =>
          refine ⟨k, ih.2 ⟨by simpa using hlt, ?_, ?_⟩, rfl⟩
          · rw [List.take_succ_cons, closedFrom_cons] at hclosed
            exact hclosed
          · intro i hi hc
            refine hmin (i + 1) (by omega) ?_
            rw [List.take_succ_cons, closedFrom_cons]
            exact hc

/-- The closing line ends the shortest closed run. -/
theorem closingOffset?_eq_some_iff {lines : List Text} {k : Nat} :
    closingOffset? lines = some k ↔
      k < lines.length ∧ Closed (lines.take (k + 1)) ∧ ∀ j < k, ¬ Closed (lines.take (j + 1)) := by
  rw [closingOffset?, closingFrom_eq_some_iff]
  simp only [closedFrom_zero_false]

/-- There is no closing line exactly if no run is closed. -/
theorem closingOffset?_eq_none_iff {lines : List Text} :
    closingOffset? lines = none ↔ ∀ k < lines.length, ¬ Closed (lines.take (k + 1)) := by
  constructor
  · intro h k hk hc
    -- of all closed runs take the shortest
    have hex : ∃ j, j < lines.length ∧ Closed (lines.take (j + 1)) := ⟨k, hk, hc⟩
    have hmin := closingOffset?_eq_some_iff.2 ⟨(Nat.find_spec hex).1, (Nat.find_spec hex).2,
      fun j hj hcj => Nat.find_min hex hj ⟨Nat.lt_trans hj (Nat.find_spec hex).1, hcj⟩⟩
    rw [h] at hmin
    exact absurd hmin (by simp)
  · intro h
    cases hk : closingOffset? lines with
    | none => rfl
    | some k =>
      obtain ⟨hlt, hc, -⟩ := closingOffset?_eq_some_iff.1 hk
      exact absurd hc (h k hlt)

/-- What follows the closing line does not matter. -/
theorem closingOffset?_append {lines : List Text} {k : Nat} (h : k < lines.length)
    (rest : List Text) :
    closingOffset? (lines ++ rest) = some k ↔ closingOffset? lines = some k := by
  have htake : ∀ j ≤ k, (lines ++ rest).take (j + 1) = lines.take (j + 1) := fun j hj =>
    List.take_append_of_le_length (by omega)
  rw [closingOffset?_eq_some_iff, closingOffset?_eq_some_iff, htake k (Nat.le_refl k)]
  constructor
  · rintro ⟨-, hc, hmin⟩
    exact ⟨h, hc, fun j hj => htake j (Nat.le_of_lt hj) ▸ hmin j hj⟩
  · rintro ⟨-, hc, hmin⟩
    refine ⟨by simp; omega, hc, fun j hj => ?_⟩
    rw [htake j (Nat.le_of_lt hj)]
    exact hmin j hj

/-! ## Declaring line, body and closing line -/

/-- A body stands between its declaring and its closing line: all lines together are closed, and no
shorter run from the declaring line on is. -/
structure Delimited (header : Text) (body : List Text) (closer : Text) : Prop where
  /-- The lines together are closed. -/
  closed : Closed (header :: body ++ [closer])
  /-- No shorter run is. -/
  open_before : ∀ j ≤ body.length, ¬ Closed (header :: body.take j)

theorem delimited_iff {header closer : Text} {body : List Text} :
    Delimited header body closer ↔
      closingOffset? (header :: body ++ [closer]) = some (body.length + 1) := by
  have htake : ∀ j ≤ body.length, (header :: body ++ [closer]).take (j + 1) =
      header :: body.take j := fun j hj => by
    rw [List.cons_append, List.take_succ_cons, List.take_append_of_le_length hj]
  rw [closingOffset?_eq_some_iff, List.take_of_length_le (by simp)]
  constructor
  · intro h
    refine ⟨by simp, h.closed, fun j hj => ?_⟩
    rw [htake j (by omega)]
    exact h.open_before j (by omega)
  · rintro ⟨-, hc, hmin⟩
    refine ⟨hc, fun j hj => ?_⟩
    rw [← htake j hj]
    exact hmin j (by omega)

/-- The search that starts at the declaring line stops at the closing line, whatever follows. -/
theorem Delimited.closingOffset? {header closer : Text} {body : List Text}
    (h : Delimited header body closer) (rest : List Text) :
    closingOffset? (header :: body ++ closer :: rest) = some (body.length + 1) := by
  have hsplit : header :: body ++ closer :: rest = (header :: body ++ [closer]) ++ rest := by simp
  rw [hsplit, closingOffset?_append (by simp)]
  exact delimited_iff.1 h

/-- A declaring line without net braces opens none: it would be closed by itself. -/
theorem Delimited.opens_header {header closer : Text} {body : List Text}
    (h : Delimited header body closer) (hnet : net header = 0) : opens header = 0 := by
  by_contra hne
  refine h.open_before 0 (by omega) ⟨?_, ?_⟩
  · simpa using Nat.pos_of_ne_zero hne
  · simpa using hnet

/-- A closing line without net braces opens one: the lines before it would be closed already. -/
theorem Delimited.opens_closer {header closer : Text} {body : List Text}
    (h : Delimited header body closer) (hnet : net closer = 0) : 0 < opens closer := by
  by_contra hne
  obtain ⟨hopens, htotal⟩ := h.closed
  refine h.open_before body.length (Nat.le_refl _) ?_
  rw [List.take_length]
  simp only [totalOpens_append, totalNet_append, totalOpens_cons, totalNet_cons, totalOpens_nil,
    totalNet_nil] at hopens htotal
  exact ⟨by rw [totalOpens_cons]; omega, by rw [totalNet_cons]; omega⟩

/-- A body keeps its boundaries between the declaring and the closing line of another stub that
have the same net braces. -/
theorem Delimited.splice {header closer header' closer' : Text} {body body' : List Text}
    (h : Delimited header body closer) (h' : Delimited header' body' closer')
    (hheader : net header = net header') (hcloser : net closer = net closer') :
    Delimited header' body closer' := by
  obtain ⟨hopens, htotal⟩ := h.closed
  simp only [totalOpens_append, totalNet_append, totalOpens_cons, totalNet_cons, totalOpens_nil,
    totalNet_nil] at hopens htotal
  refine ⟨⟨?_, ?_⟩, ?_⟩
  · -- without any opening brace all net counts would be zero, and then the closing line has one
    by_contra hne
    simp only [totalOpens_append, totalOpens_cons, totalOpens_nil] at hne
    have hle := totalNet_le_totalOpens body
    have hle₁ := net_le_opens header'
    have hle₂ := net_le_opens closer'
    have := h'.opens_closer (by omega)
    omega
  · simp only [totalNet_append, totalNet_cons, totalNet_nil]
    omega
  · rintro j hj ⟨ho, hn⟩
    have hopen := h.open_before j hj
    simp only [Closed, totalOpens_cons, totalNet_cons] at ho hn hopen
    -- the same run after the other declaring line has depth zero too, so it has no opening brace
    have hzero : opens header + totalOpens (body.take j) = 0 := by
      by_contra hne
      exact hopen ⟨by omega, by omega⟩
    have hle := totalNet_le_totalOpens (body.take j)
    have hle₁ := net_le_opens header
    have := h'.opens_header (by omega)
    omega

end StubGraft.Braces
