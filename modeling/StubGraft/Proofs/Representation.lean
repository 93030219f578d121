import StubGraft.Proofs.Balance
import StubGraft.Proofs.Remerging

/-!
# What a model says of its text

A model is kept apart from its text: the table gives bodies to names, the spans give lines to them,
and the lines are listed once more.  Everything that reads a model relies on these to agree, however
malformed the text was.

* `Model.Delimits` — a span points at the lines of the stub that is recorded under its name.
* `Model.Represents` — all that a model promises about its text.
* `scan_represents` — every text has a model that keeps these promises.
-/

namespace StubGraft

/-! ## Promises of a model -/

/-- A span points at the lines of the stub that is recorded under its name. -/
structure Model.Delimits (convention : Convention) (model : Model) (span : Span) : Prop where
  /-- The closing line stands below the declaring line, and in the file. -/
  within : span.first < span.last ∧ span.last < model.lines.length
  /-- The first line declares the stub. -/
  declares : ∃ header, model.lines[span.first]? = some header ∧
    convention.declares header = true ∧ stubName header = span.name
  /-- What stands between the first and the last line is the recorded body. -/
  body : model.stubs.body? span.name = some (model.lines.extract (span.first + 1) span.last)
  /-- At the end of the last line all braces are closed. -/
  closed : Braces.Closed (model.lines.extract span.first (span.last + 1))
  /-- At the end of no line before the last one are they. -/
  shortest : ∀ j < span.last, ¬ Braces.Closed (model.lines.extract span.first (j + 1))

/-- What a model promises about its text. -/
structure Model.Represents (convention : Convention) (text : Text) (model : Model) : Prop where
  /-- The lines are those of the text. -/
  joined : Text.joinLines model.lines = text
  /-- No line goes over the end of a line. -/
  feedless : ∀ line ∈ model.lines, '\n' ∉ line
  /-- The spans come one after the other and share no line. -/
  ascending : model.spans.Pairwise fun a b => a.last < b.first
  /-- They have the names of the recorded stubs, in order. -/
  names : model.spans.map Span.name = model.stubs.names
  /-- No two of them have the same name. -/
  distinct : (model.spans.map Span.name).Nodup
  /-- Each of them points at its stub. -/
  delimits : ∀ span ∈ model.spans, model.Delimits convention span
  /-- No import is listed twice. -/
  imports_nodup : model.imports.Nodup
  /-- Every import is a line of the text with the marker in it. -/
  imports : ∀ line ∈ model.imports, line ∈ text.splitLines ∧ convention.marker <:+: line

/-! ## Spans -/

/-- The spans of some parts come one after the other. -/
theorem pairwise_spansFrom (position : Nat) (parts : List Part) :
    (spansFrom position parts).Pairwise fun a b => a.last < b.first := by
  induction parts generalizing position with
  | nil => exact List.Pairwise.nil
  | cons part parts ih =>
    cases part with
    | copied line => exact ih (position + 1)
    | stub header body closer =>
      refine List.pairwise_cons.2 ⟨fun span hspan => ?_, ih _⟩
      have := (spansFrom_bounds hspan).1
      show position + body.length + 1 < span.first
      omega

/-- A stretch of lines behind some others is counted from the end of those. -/
theorem extract_append_add (before rest : List Text) (i j : Nat) :
    (before ++ rest).extract (before.length + i) (before.length + j) = rest.extract i j := by
  rw [List.extract_eq_take_drop, List.extract_eq_take_drop, Nat.add_sub_add_left,
    List.drop_append, List.drop_eq_nil_of_le (Nat.le_add_right _ _), List.nil_append,
    Nat.add_sub_cancel_left]

/-- A stretch of lines that starts behind some others. -/
theorem extract_append_length (before rest : List Text) (j : Nat) :
    (before ++ rest).extract before.length (before.length + j) = rest.take j := by
  have h := extract_append_add before rest 0 j
  rw [Nat.add_zero] at h
  rw [h, List.extract_eq_take_drop, List.drop_zero, Nat.sub_zero]

section Parts

variable {convention : Convention} {lines : List Text} {before after : List Part}
  {header closer : Text} {body : List Text}

/-- A stub of a scanned file stands where its span says. -/
theorem delimits_of_layoutOf
    (h : layoutOf convention lines = before ++ .stub header body closer :: after) :
    (scanLines convention lines).1.Delimits convention
      ⟨stubName header, (partLines before).length,
        (partLines before).length + body.length + 1⟩ := by
  have hparts := scanLines_hasParts convention lines
  have hstub : .stub header body closer ∈ layoutOf convention lines := by simp [h]
  have hblock := (cut_segments convention lines).1.sound (block_mem_of_stub_mem hstub) (by simp)
  obtain ⟨hdeclares, hdelimited⟩ := hblock
  -- the file from the declaring line on
  have hlines : (scanLines convention lines).1.lines =
      partLines before ++ (header :: body ++ closer :: partLines after) := by
    rw [hparts.lines, h]
    simp [Part.lines]
  have hrun : ∀ j ≤ body.length,
      (header :: body ++ closer :: partLines after).take (j + 1) = header :: body.take j := by
    intro j hj
    rw [List.cons_append, List.take_succ_cons, List.take_append_of_le_length hj]
  have hall : (header :: body ++ closer :: partLines after).take (body.length + 2) =
      header :: body ++ [closer] := by
    rw [List.cons_append, List.take_succ_cons, List.take_append, List.take_of_length_le (by omega)]
    simp
  refine ⟨⟨?_, ?_⟩, ⟨header, ?_, hdeclares, rfl⟩, ?_, ?_, fun j hj => ?_⟩
  · show (partLines before).length < (partLines before).length + body.length + 1
    omega
  · rw [hlines]
    simp only [List.length_append, List.length_cons]
    omega
  · rw [hlines]
    simp
  · rw [hparts.body? hstub, hlines, Nat.add_assoc, extract_append_add]
    simp [List.extract_eq_take_drop]
  · rw [hlines]
    show Braces.Closed (List.extract _ (partLines before).length
      ((partLines before).length + (body.length + 2)))
    rw [extract_append_length, hall]
    exact hdelimited.closed
  · rw [hlines]
    show ¬ Braces.Closed (List.extract _ (partLines before).length (j + 1))
    by_cases hbefore : j < (partLines before).length
    · -- there is no line in such a stretch
      have hempty : j + 1 - (partLines before).length = 0 := by omega
      rw [List.extract_eq_take_drop, hempty]
      simp [Braces.Closed]
    · obtain ⟨k, rfl⟩ := Nat.exists_eq_add_of_le (Nat.le_of_not_lt hbefore)
      have hk : k ≤ body.length := by
        have : (partLines before).length + k < (partLines before).length + body.length + 1 := hj
        omega
      rw [Nat.add_assoc, extract_append_length, hrun k hk]
      exact hdelimited.open_before k hk

end Parts

/-! ## Main result -/

/-- Every text has a model that represents it, under any conventions. -/
theorem scan_represents (convention : Convention) (text : Text) :
    (scan convention text).1.Represents convention text := by
  have hparts := scanLines_hasParts convention text.splitLines
  have hnames : (scan convention text).1.spans.map Span.name =
      (scan convention text).1.stubs.names := by
    rw [scan, hparts.spans, map_name_spansFrom, ← hparts.entries]
    rfl
  refine ⟨Text.joinLines_splitLines text, ?_, ?_, hnames, ?_, ?_, nodup_imports convention text, ?_⟩
  · intro line hline
    exact Text.not_mem_splitLines hline
  · rw [scan, hparts.spans]
    exact pairwise_spansFrom 0 _
  · rw [hnames]
    exact (scan convention text).1.stubs.nodup
  · intro span hspan
    rw [scan, hparts.spans] at hspan
    obtain ⟨before, header, body, closer, after, hlayout, rfl⟩ :=
      exists_stub_of_mem_spansFrom hspan
    rw [Nat.zero_add]
    exact delimits_of_layoutOf hlayout
  · intro line hline
    have himport := (mem_scanLines_imports.1 hline).2
    exact ⟨mem_lines_of_mem_imports hline, Text.occursIn_iff.1 himport⟩

end StubGraft
