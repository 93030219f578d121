import StubGraft.Proofs.Balance
import Mathlib.Data.Finset.Card
import Mathlib.Data.Finset.Range
import Mathlib.Logic.Function.Iterate

/-!
# How a rendering ends

A rendering passes along the lines of the new file in rounds, and behind a stub it goes on after
the closing line of its span, wherever that is.  Nothing in a round looks at whether that line
stands further down, so whether there is a last round is a matter of the model.

* `Pass.Leads` — some rounds on end, however many, with what they write.
* `Model.target`, `Model.Passable` — where a pass goes on behind a line, and whether it gets there.
  Neither depends on the merge or on the header.
* `renderLines_eq_endless_iff` — the renderer gives up on exactly the models on which the rounds go
  on forever: in more rounds than there are lines a pass comes to a line twice.
* `Model.Renderable` — every span lies within the lines, does not end above its start and names a
  recorded stub.
* `rendering_total` — every scanned model is renderable, and a renderable model is rendered, with
  any merge, in as many rounds as it has lines.
-/

namespace StubGraft

variable {new : Model} {merged : Merged} {headerLines : Nat}

/-! ## One round -/

/-- The index at which a pass goes on behind the line at an index. -/
def Model.target (model : Model) (index : Nat) : Nat :=
  match spanAt? model.spans index with
  | none => index + 1
  | some span => span.last + 1

/-- A pass gets over the line at an index. -/
structure Model.Passable (model : Model) (index : Nat) : Prop where
  /-- There is such a line. -/
  line : index < model.lines.length
  /-- The stub that starts there is recorded and has a closing line. -/
  stub : ∀ span, spanAt? model.spans index = some span →
    span.name ∈ model.stubs.names ∧ span.last < model.lines.length

/-- A stub is rendered if it is recorded and has a closing line, and else it lacks one of them. -/
theorem renderStub_cases (new : Model) (merged : Merged) (span : Span) :
    ((span.name ∈ new.stubs.names ∧ span.last < new.lines.length) ∧
      ∃ rendered, renderStub new merged span = .ok rendered) ∨
    (¬ (span.name ∈ new.stubs.names ∧ span.last < new.lines.length) ∧
      ∃ e, e ≠ .endless ∧ renderStub new merged span = .error e) := by
  unfold renderStub
  rw [StubTable.mem_names_iff]
  cases new.stubs.body? span.name with
  | none => simp
  | some generated =>
    by_cases hlast : span.last < new.lines.length
    · simp [hlast]
    · simp [hlast]

namespace Pass

variable {pass next last : Pass} {written : List Text}

/-- Behind the last line there is no round; a line that the pass gets over has a round that goes on
at its target; and at every other line the round fails. -/
theorem round_cases (new : Model) (merged : Merged) (headerLines : Nat) (pass : Pass) :
    (new.lines.length ≤ pass.index ∧ pass.round new merged headerLines = .ok none) ∨
    (new.Passable pass.index ∧ ∃ written next,
      pass.round new merged headerLines = .ok (some (written, next)) ∧
        next.index = new.target pass.index) ∨
    (pass.index < new.lines.length ∧ ¬ new.Passable pass.index ∧
      ∃ e, e ≠ .endless ∧ pass.round new merged headerLines = .error e) := by
  by_cases hline : new.lines.length ≤ pass.index
  · exact .inl ⟨hline, by simp [round, List.getElem?_eq_none hline]⟩
  have hindex := Nat.lt_of_not_le hline
  refine .inr ?_
  unfold round Model.target
  rw [List.getElem?_eq_getElem hindex]
  cases hspan : spanAt? new.spans pass.index with
  | none =>
    have hpassable : new.Passable pass.index := ⟨hindex, by simp [hspan]⟩
    exact .inl ⟨hpassable, _, _, rfl, rfl⟩
  | some span =>
    rcases renderStub_cases new merged span with ⟨hstub, rendered, hok⟩ | ⟨hstub, e, he, herror⟩
    · have hpassable : new.Passable pass.index := ⟨hindex, by simpa [hspan] using hstub⟩
      simp only [hok]
      exact .inl ⟨hpassable, _, _, rfl, rfl⟩
    · have hpassable : ¬ new.Passable pass.index := fun h => hstub (h.stub span hspan)
      simp only [herror]
      exact .inr ⟨hindex, hpassable, e, he, rfl⟩

/-- There is no further round exactly behind the last line. -/
theorem round_eq_none_iff :
    pass.round new merged headerLines = .ok none ↔ new.lines.length ≤ pass.index := by
  rcases round_cases new merged headerLines pass with
    ⟨hend, hround⟩ | ⟨hpassable, _, _, hround, -⟩ | ⟨hindex, -, e, -, hround⟩
  · simp [hend, hround]
  · simp [hpassable.line, hround]
  · simp [hindex, hround]

/-- There is a further round exactly if the pass gets over its line. -/
theorem exists_round_iff :
    (∃ written next, pass.round new merged headerLines = .ok (some (written, next))) ↔
      new.Passable pass.index := by
  rcases round_cases new merged headerLines pass with
    ⟨hend, hround⟩ | ⟨hpassable, _, _, hround, -⟩ | ⟨-, hpassable, e, -, hround⟩
  · have hpassable : ¬ new.Passable pass.index := fun h => Nat.not_lt_of_le hend h.line
    simp [hpassable, hround]
  · simp [hpassable, hround]
  · simp [hpassable, hround]

/-- A round goes on at the target of its line. -/
theorem index_of_round (h : pass.round new merged headerLines = .ok (some (written, next))) :
    next.index = new.target pass.index := by
  rcases round_cases new merged headerLines pass with
    ⟨-, hround⟩ | ⟨-, written', next', hround, hindex⟩ | ⟨-, -, e, -, hround⟩
  · simp [hround] at h
  · rw [hround] at h
    cases h
    exact hindex
  · simp [hround] at h

theorem round_ne_endless : pass.round new merged headerLines ≠ .error .endless := by
  rcases round_cases new merged headerLines pass with
    ⟨-, hround⟩ | ⟨-, _, _, hround, -⟩ | ⟨-, -, e, he, hround⟩
  · simp [hround]
  · simp [hround]
  · simpa [hround] using he

/-! ## Rounds on end -/

/-- A number of rounds lead from one pass to another and write some lines. -/
inductive Leads (new : Model) (merged : Merged) (headerLines : Nat) :
    Nat → Pass → List Text → Pass → Prop
  /-- No round changes nothing. -/
  | none (pass : Pass) : Leads new merged headerLines 0 pass [] pass
  /-- A round comes before the others. -/
  | more {count : Nat} {pass next last : Pass} {written rest : List Text}
      (first : pass.round new merged headerLines = .ok (some (written, next)))
      (others : Leads new merged headerLines count next rest last) :
      Leads new merged headerLines (count + 1) pass (written ++ rest) last

/-- Where some rounds lead to is a matter of their number and of the line they start at. -/
theorem Leads.index {count : Nat} (h : Leads new merged headerLines count pass written last) :
    last.index = new.target^[count] pass.index := by
  induction h with
  | none pass => rfl
  | more first others ih => rw [ih, index_of_round first, Function.iterate_succ_apply]

/-- There are that many rounds exactly if the pass gets over the line of each of them. -/
theorem exists_leads_iff {count : Nat} :
    (∃ written last, Leads new merged headerLines count pass written last) ↔
      ∀ k < count, new.Passable (new.target^[k] pass.index) := by
  induction count generalizing pass with
  | zero =>
    refine ⟨fun _ k hk => absurd hk (Nat.not_lt_zero k), fun _ => ⟨[], pass, .none pass⟩⟩
  | succ count ih =>
    constructor
    · rintro ⟨_, last, h⟩ k hk
      obtain _ | @⟨_, _, next, _, written, rest, first, others⟩ := h
      cases k with
      | zero => exact exists_round_iff.1 ⟨written, next, first⟩
      | succ k =>
        rw [Function.iterate_succ_apply, ← index_of_round first]
        exact ih.1 ⟨rest, last, others⟩ k (Nat.lt_of_succ_lt_succ hk)
    · intro h
      obtain ⟨written, next, first⟩ := exists_round_iff.2 (h 0 (Nat.zero_lt_succ count))
      have hnext : ∀ k < count, new.Passable (new.target^[k] next.index) := by
        intro k hk
        rw [index_of_round first, ← Function.iterate_succ_apply]
        exact h (k + 1) (Nat.succ_lt_succ hk)
      obtain ⟨rest, last, others⟩ := ih.2 hnext
      exact ⟨written ++ rest, last, .more first others⟩

end Pass

/-! ## What the renderer does -/

section Renderer

variable {pass : Pass} {rounds : Nat}

/-- What is rendered was written by rounds up to the last one. -/
theorem leads_of_renderFrom_eq_ok {lines : List Text}
    (h : renderFrom new merged headerLines rounds pass = .ok lines) :
    ∃ count written last, Pass.Leads new merged headerLines count pass written last ∧
      last.round new merged headerLines = .ok none ∧ lines = written ++ last.pending := by
  fun_induction renderFrom new merged headerLines rounds pass generalizing lines with
  | case1 => simp at h
  | case2 rounds pass hround =>
    cases h
    exact ⟨0, [], pass, .none pass, hround, rfl⟩
  | case3 => simp at h
  | case4 pass written next hround rounds ih =>
    cases hrest : renderFrom new merged headerLines rounds next with
    | error e => simp [hrest, Except.map] at h
    | ok rest =>
      obtain ⟨count, others, last, hothers, hlast, rfl⟩ := ih hrest
      rw [hrest] at h
      cases h
      exact ⟨count + 1, written ++ others, last, .more hround hothers, hlast,
        (List.append_assoc ..).symm⟩

/-- The renderer fails in a round that fails, or else it gives up because there is one round more
than it was given. -/
theorem leads_of_renderFrom_eq_error {e : RenderError}
    (h : renderFrom new merged headerLines rounds pass = .error e) :
    (∃ count written last, Pass.Leads new merged headerLines count pass written last ∧
      last.round new merged headerLines = .error e) ∨
    (e = .endless ∧
      ∃ written last, Pass.Leads new merged headerLines (rounds + 1) pass written last) := by
  fun_induction renderFrom new merged headerLines rounds pass with
  | case1 rounds pass e' hround =>
    cases h
    exact .inl ⟨0, [], pass, .none pass, hround⟩
  | case2 => simp at h
  | case3 pass written next hround =>
    cases h
    exact .inr ⟨rfl, written ++ [], next, .more hround (.none next)⟩
  | case4 pass written next hround rounds ih =>
    cases hrest : renderFrom new merged headerLines rounds next with
    | ok rest => simp [hrest, Except.map] at h
    | error e' =>
      rw [hrest] at h
      cases h
      rcases ih hrest with ⟨count, others, last, hothers, hlast⟩ | ⟨he, others, last, hothers⟩
      · exact .inl ⟨count + 1, written ++ others, last, .more hround hothers, hlast⟩
      · exact .inr ⟨he, written ++ others, last, .more hround hothers⟩

end Renderer

/-! ## Rounds without an end -/

section Endless

variable {index : Nat}

/-- A pass that gets over one line more than there are has come to a line twice. -/
theorem Model.exists_revisit
    (h : ∀ k ≤ new.lines.length, new.Passable (new.target^[k] index)) :
    ∃ i j, i < j ∧ j ≤ new.lines.length ∧ new.target^[i] index = new.target^[j] index := by
  have hmaps : Set.MapsTo (fun k => new.target^[k] index)
      (Finset.range (new.lines.length + 1)) (Finset.range new.lines.length) := by
    intro k hk
    rw [Finset.mem_coe, Finset.mem_range] at hk ⊢
    exact (h k (Nat.le_of_lt_succ hk)).line
  obtain ⟨i, hi, j, hj, hne, heq⟩ :=
    Finset.exists_ne_map_eq_of_card_lt_of_maps_to (by simp) hmaps
  rw [Finset.mem_range] at hi hj
  rcases Nat.lt_or_gt_of_ne hne with hlt | hlt
  · exact ⟨i, j, hlt, Nat.le_of_lt_succ hj, heq⟩
  · exact ⟨j, i, hlt, Nat.le_of_lt_succ hi, heq.symm⟩

/-- From there on it goes round in circles. -/
theorem Model.passable_forever
    (h : ∀ k ≤ new.lines.length, new.Passable (new.target^[k] index)) (k : Nat) :
    new.Passable (new.target^[k] index) := by
  obtain ⟨i, j, hij, hj, heq⟩ := Model.exists_revisit h
  induction k using Nat.strong_induction_on with
  | h k ih =>
    by_cases hk : k ≤ new.lines.length
    · exact h k hk
    · -- the line of this round is that of an earlier one, by the length of the circle
      have hcircle : new.target^[k] index = new.target^[k - j + i] index := by
        calc new.target^[k] index
            = new.target^[k - j + j] index := by rw [Nat.sub_add_cancel (by omega)]
          _ = new.target^[k - j] (new.target^[i] index) := by
              rw [Function.iterate_add_apply, heq]
          _ = new.target^[k - j + i] index := by rw [Function.iterate_add_apply]
      rw [hcircle]
      exact ih _ (by omega)

end Endless

/-- The renderer gives up on exactly the models on which the rounds go on forever. -/
theorem renderLines_eq_endless_iff :
    renderLines new merged headerLines = .error .endless ↔
      ∀ count, ∃ written last,
        Pass.Leads new merged headerLines count (Pass.start new merged) written last := by
  constructor
  · intro h count
    rcases leads_of_renderFrom_eq_error h with ⟨_, _, _, _, hlast⟩ | ⟨_, hmore⟩
    · exact absurd hlast Pass.round_ne_endless
    · have hpassable := Pass.exists_leads_iff.1 hmore
      refine Pass.exists_leads_iff.2 fun k _ => Model.passable_forever (fun i hi => ?_) k
      exact hpassable i (Nat.lt_succ_of_le hi)
  · intro h
    -- no pass is the last one
    have hgoes : ∀ {count written last},
        Pass.Leads new merged headerLines count (Pass.start new merged) written last →
        ∃ written next, last.round new merged headerLines = .ok (some (written, next)) := by
      intro count written last hleads
      have hpassable := Pass.exists_leads_iff.1 (h (count + 1)) count (Nat.lt_succ_self count)
      rw [← hleads.index] at hpassable
      exact Pass.exists_round_iff.2 hpassable
    cases hrender : renderLines new merged headerLines with
    | ok lines =>
      obtain ⟨count, written, last, hleads, hlast, -⟩ := leads_of_renderFrom_eq_ok hrender
      obtain ⟨_, _, hround⟩ := hgoes hleads
      rw [hlast] at hround
      simp at hround
    | error e =>
      rcases leads_of_renderFrom_eq_error hrender with ⟨_, _, _, hleads, hlast⟩ | ⟨rfl, -⟩
      · obtain ⟨_, _, hround⟩ := hgoes hleads
        rw [hlast] at hround
        simp at hround
      · rfl

-- the rounds come back to the span that ends above its start
example :
    renderLines ⟨[['a'], ['b']], .ofList [(['p'], [])], [], [⟨['p'], 1, 0⟩]⟩
      ⟨[], .empty, []⟩ 0 = .error .endless := rfl

-- here they do not: from line 3 they go back to line 1, and from there behind line 3
example :
    renderLines ⟨[['a'], ['b'], ['c'], ['d']], .ofList [(['p'], [])], [],
      [⟨['p'], 0, 2⟩, ⟨['p'], 3, 0⟩, ⟨['p'], 1, 3⟩]⟩ ⟨[], .empty, []⟩ 0 =
      .ok [['a'], ['c'], ['d'], ['a'], ['b'], ['d']] := rfl

/-! ## Renderable models -/

/-- The spans of a model can all be rendered.  They may overlap and start at one line. -/
structure Model.Renderable (model : Model) : Prop where
  /-- No span ends above its start or behind the last line. -/
  within : ∀ span ∈ model.spans, span.first ≤ span.last ∧ span.last < model.lines.length
  /-- Every span names a recorded stub. -/
  recorded : ∀ span ∈ model.spans, span.name ∈ model.stubs.names

/-- Every text has a renderable model. -/
theorem renderable_scan (convention : Convention) (text : Text) :
    (scan convention text).1.Renderable := by
  have hparts := scanLines_hasParts convention text.splitLines
  refine ⟨fun span hspan => ?_, fun span hspan => ?_⟩
  · rw [scan, hparts.spans] at hspan
    obtain ⟨-, hlt, hlast⟩ := spansFrom_bounds hspan
    rw [Nat.zero_add, ← hparts.lines] at hlast
    exact ⟨Nat.le_of_lt hlt, hlast⟩
  · rw [scan, ← hparts.map_name]
    exact List.mem_map_of_mem hspan

theorem mem_of_spanAt?_eq_some {spans : List Span} {span : Span} {index : Nat}
    (h : spanAt? spans index = some span) : span ∈ spans ∧ span.first = index := by
  have hmem := List.mem_of_getLast? h
  simpa using hmem

namespace Model.Renderable

variable {index : Nat} {pass last : Pass} {written : List Text}

/-- A pass gets over every line. -/
theorem passable (h : new.Renderable) (hindex : index < new.lines.length) :
    new.Passable index := by
  refine ⟨hindex, fun span hspan => ?_⟩
  have hmem := (mem_of_spanAt?_eq_some hspan).1
  exact ⟨h.recorded span hmem, (h.within span hmem).2⟩

/-- It goes on below the line, and not behind the end of the lines. -/
theorem target_bounds (h : new.Renderable) (hindex : index < new.lines.length) :
    index < new.target index ∧ new.target index ≤ new.lines.length := by
  unfold Model.target
  cases hspan : spanAt? new.spans index with
  | none => exact ⟨Nat.lt_succ_self index, hindex⟩
  | some span =>
    obtain ⟨hmem, rfl⟩ := mem_of_spanAt?_eq_some hspan
    obtain ⟨hle, hlast⟩ := h.within span hmem
    exact ⟨Nat.lt_succ_of_le hle, hlast⟩

/-- Each round gets a line further at least, and none gets behind the end of the lines. -/
theorem leads_bounds {count : Nat} (h : new.Renderable)
    (hleads : Pass.Leads new merged headerLines count pass written last)
    (hpass : pass.index ≤ new.lines.length) :
    pass.index + count ≤ last.index ∧ last.index ≤ new.lines.length := by
  induction hleads with
  | none pass => exact ⟨Nat.le_refl _, hpass⟩
  | @more count pass next last written rest first others ih =>
    have hline := (Pass.exists_round_iff.1 ⟨written, next, first⟩).line
    have hnext := h.target_bounds hline
    rw [← Pass.index_of_round first] at hnext
    have := ih hnext.2
    omega

/-- No round fails. -/
theorem round_ne_error (h : new.Renderable) (e : RenderError) :
    pass.round new merged headerLines ≠ .error e := by
  intro hround
  by_cases hindex : pass.index < new.lines.length
  · obtain ⟨_, _, hsome⟩ := Pass.exists_round_iff.2 (h.passable hindex)
    rw [hround] at hsome
    simp at hsome
  · rw [Pass.round_eq_none_iff.2 (Nat.le_of_not_lt hindex)] at hround
    simp at hround

/-- The lines are rendered. -/
theorem exists_renderLines_eq_ok (h : new.Renderable) (merged : Merged) (headerLines : Nat) :
    ∃ lines, renderLines new merged headerLines = .ok lines := by
  cases hrender : renderLines new merged headerLines with
  | ok lines => exact ⟨lines, rfl⟩
  | error e =>
    rcases leads_of_renderFrom_eq_error hrender with ⟨_, _, _, _, hlast⟩ | ⟨_, _, _, hleads⟩
    · exact absurd hlast (h.round_ne_error e)
    · have := h.leads_bounds hleads (Nat.zero_le _)
      omega

end Model.Renderable

/-! ## Main result -/

/-- Every scanned model is renderable.  On a renderable model, with any merge and any header, no
round fails and there are no more rounds than lines; the last of them ends behind the last line, and
what the rounds have written is the merged file. -/
theorem rendering_total :
    (∀ (convention : Convention) (text : Text), (scan convention text).1.Renderable) ∧
    ∀ new : Model, new.Renderable → ∀ (merged : Merged) (headerLines : Nat),
      (∀ count written pass,
        Pass.Leads new merged headerLines count (Pass.start new merged) written pass →
          count ≤ new.lines.length ∧ ∀ e, pass.round new merged headerLines ≠ .error e) ∧
      ∃ count written last,
        Pass.Leads new merged headerLines count (Pass.start new merged) written last ∧
          last.index = new.lines.length ∧
          render new merged headerLines = .ok (Text.joinLines (written ++ last.pending)) := by
  refine ⟨renderable_scan, fun new h merged headerLines => ⟨?_, ?_⟩⟩
  · intro count written pass hleads
    have := h.leads_bounds hleads (Nat.zero_le _)
    exact ⟨by omega, h.round_ne_error⟩
  · obtain ⟨lines, hrender⟩ := h.exists_renderLines_eq_ok merged headerLines
    obtain ⟨count, written, last, hleads, hlast, rfl⟩ := leads_of_renderFrom_eq_ok hrender
    have hend := Pass.round_eq_none_iff.1 hlast
    have hbound := (h.leads_bounds hleads (Nat.zero_le _)).2
    refine ⟨count, written, last, hleads, Nat.le_antisymm hbound hend, ?_⟩
    rw [render, hrender]
    rfl

/-- Two spans start at one line and others cross them; the merge knows one of the three stubs, and
one that the model does not have. -/
theorem rendering_total_crossed :
    let new : Model :=
      ⟨[['a'], ['b'], ['c'], ['d'], ['e'], ['f']],
        .ofList [(['p'], [['P']]), (['q'], [['Q']]), (['r'], [['R']])], [],
        [⟨['p'], 1, 4⟩, ⟨['q'], 1, 2⟩, ⟨['r'], 3, 3⟩, ⟨['p'], 4, 5⟩]⟩
    let merged : Merged := ⟨[], .ofList [(['z'], [['Z']]), (['q'], [['k']])], [['i']]⟩
    new.Renderable ∧
    (∀ count written pass,
      Pass.Leads new merged 2 count (Pass.start new merged) written pass →
        count ≤ 6 ∧ ∀ e, pass.round new merged 2 ≠ .error e) ∧
    (∃ count written last, Pass.Leads new merged 2 count (Pass.start new merged) written last ∧
      last.index = 6 ∧ render new merged 2 = .ok (Text.joinLines (written ++ last.pending))) ∧
    render new merged 2 = .ok (Text.lit "a\nb\nk\nc\ni\nd\nR\nd\ne\nP\nf") := by
  intro new merged
  have hrenderable : new.Renderable := ⟨by decide, by decide⟩
  obtain ⟨hrounds, hend⟩ := rendering_total.2 new hrenderable merged 2
  exact ⟨hrenderable, hrounds, hend, by decide⟩

end StubGraft
