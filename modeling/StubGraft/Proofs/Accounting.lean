import StubGraft.Proofs.Balance

/-!
# The brace account of a merge

Where the braces of a merged file come from, stub by stub.  A body goes from one pair of lines to
another, and in both files the lines of a stub add up to zero; so a stub that both files have adds
what its declaring and closing lines in the new file have more than those in the edited one, and
every other stub adds nothing.

* `Model.edgeNet` — the net braces of the lines around a recorded body.
* `sum_edgeShifts` — the shifts of two models, added up by name.
* `net_render_merge` — the account, and what the balance check makes of it.
-/

namespace StubGraft

/-- The net braces of the declaring and of the closing line of a stub together. -/
def Model.edgeNet (model : Model) (name : Text) : Int :=
  match model.spans.find? fun span => span.name = name with
  | none => 0
  | some span => (model.edgeNets span).1 + (model.edgeNets span).2

/-- The names of the stubs that both models record, in the order of the second one. -/
def sharedNames (old new : Model) : List Text :=
  new.stubs.names.filter fun name => name ∈ old.stubs.names

theorem Braces.totalNet_eq_sum (lines : List Text) :
    Braces.totalNet lines = (lines.map Braces.net).sum := by
  induction lines with
  | nil => rfl
  | cons line lines ih => rw [Braces.totalNet_cons, ih, List.map_cons, List.sum_cons]

/-! ## Shifts by name -/

section Shifts

variable {old new : Model} {parts parts' : List Part}

/-- What the lines of one stub add, if both models record it. -/
theorem sum_shiftsOf {span : Span} (hold : old.HasParts parts) (hnew : new.HasParts parts')
    (hspan : span ∈ new.spans) :
    (old.shiftsOf span.name (new.edgeNets span)).sum =
      if span.name ∈ old.stubs.names then new.edgeNet span.name - old.edgeNet span.name else 0 := by
  rw [Model.shiftsOf, Model.edgeNet, Model.edgeNet, hnew.find?_name hspan]
  by_cases hname : span.name ∈ old.stubs.names
  · cases hfind : old.spans.find? fun s => s.name = span.name with
    | none => exact absurd hname (hold.find?_eq_none_iff.1 hfind)
    | some kept =>
      rw [if_pos hname]
      simp only [List.sum_cons, List.sum_nil]
      omega
  · rw [hold.find?_eq_none_iff.2 hname, if_neg hname]
    rfl

theorem sum_flatMap_shiftsOf {spans : List Span} (hold : old.HasParts parts)
    (hnew : new.HasParts parts') (hspans : ∀ span ∈ spans, span ∈ new.spans) :
    (spans.flatMap fun span => old.shiftsOf span.name (new.edgeNets span)).sum =
      (((spans.map Span.name).filter fun name => name ∈ old.stubs.names).map fun name =>
        new.edgeNet name - old.edgeNet name).sum := by
  induction spans with
  | nil => rfl
  | cons span spans ih =>
    have hrest := ih fun s hs => hspans s (List.mem_cons_of_mem _ hs)
    rw [List.flatMap_cons, List.sum_append, hrest,
      sum_shiftsOf hold hnew (hspans span List.mem_cons_self), List.map_cons, List.filter_cons]
    by_cases hname : span.name ∈ old.stubs.names
    · simp [hname]
    · simp [hname]

/-- The shifts of two models add up to what their shared stubs add. -/
theorem sum_edgeShifts (hold : old.HasParts parts) (hnew : new.HasParts parts') :
    (edgeShifts old new).sum =
      ((sharedNames old new).map fun name => new.edgeNet name - old.edgeNet name).sum := by
  rw [edgeShifts, sum_flatMap_shiftsOf hold hnew fun _ h => h, hnew.map_name]
  rfl

/-- Models that agree on the lines around their stubs have the same net braces there. -/
theorem edgeNet_eq_of_agreeOnEdges {name : Text} (hold : old.HasParts parts)
    (hnew : new.HasParts parts') (hagree : AgreeOnEdges old new)
    (hname : name ∈ sharedNames old new) : new.edgeNet name = old.edgeNet name := by
  obtain ⟨hgenerated, hedited⟩ := List.mem_filter.1 hname
  rw [← hnew.map_name] at hgenerated
  rw [decide_eq_true_eq, ← hold.map_name] at hedited
  obtain ⟨t, ht, rfl⟩ := List.mem_map.1 hgenerated
  obtain ⟨s, hs, hst⟩ := List.mem_map.1 hedited
  have hfind := hold.find?_name hs
  rw [hst] at hfind
  rw [Model.edgeNet, Model.edgeNet, hnew.find?_name ht, hfind]
  simp only [hagree s hs t ht hst]

end Shifts

/-! ## Main result -/

/-- The check says by how much the braces of a text are out of balance. -/
theorem checkBalanced_eq (content : Text) :
    checkBalanced content =
      if Braces.net content = 0 then .ok ()
      else .error (.unbalanced (Braces.opens content) (Braces.closes content)) := by
  simp only [checkBalanced, Braces.balanced_iff]

/-- The account of a merge.  The net braces of the merged file are those of the new one, and for
every stub of both files those of its declaring and closing line in the new file less those in the
edited one, and those of the pending imports.  The balance check refuses the merged file exactly if
this is not zero; so it passes whenever the new file and the pending imports are balanced and the
shared stubs have the same net braces on their declaring lines, and on their closing lines, in both
files. -/
theorem net_render_merge (convention : Convention) (old new : Text) :
    let edited := (scan convention old).1
    let generated := (scan convention new).1
    let pending := pendingImports generated (merge edited generated).1
    let account := Braces.net new +
      ((sharedNames edited generated).map fun name =>
        generated.edgeNet name - edited.edgeNet name).sum +
      (pending.map Braces.net).sum
    ∃ out, render generated (merge edited generated).1 convention.headerLines = .ok out ∧
      Braces.net out = account ∧
      checkBalanced out = (if account = 0 then .ok ()
        else .error (.unbalanced (Braces.opens out) (Braces.closes out))) ∧
      (Braces.balanced new = true → (∀ line ∈ pending, Braces.balanced line = true) →
        AgreeOnEdges edited generated → checkBalanced out = .ok ()) := by
  intro edited generated pending account
  have hedited : edited.HasParts _ := scanLines_hasParts convention old.splitLines
  have hgenerated : generated.HasParts _ := scanLines_hasParts convention new.splitLines
  obtain ⟨out, hout, hlines⟩ := mergeTexts_eq convention old new
  have hnet : Braces.net out = account := by
    rw [← Braces.totalNet_splitLines, hlines, net_mergedLines, imbalances, List.sum_cons,
      sum_edgeShifts hedited hgenerated, Braces.totalNet_eq_sum]
    exact Int.add_right_comm ..
  refine ⟨out, hout, hnet, hnet ▸ checkBalanced_eq out, fun hbalanced hpending hagree => ?_⟩
  have hshared : ((sharedNames edited generated).map fun name =>
      generated.edgeNet name - edited.edgeNet name).sum = 0 := by
    refine List.sum_eq_zero fun shift hshift => ?_
    obtain ⟨name, hname, rfl⟩ := List.mem_map.1 hshift
    rw [edgeNet_eq_of_agreeOnEdges hedited hgenerated hagree hname, Int.sub_self]
  have himports : (pending.map Braces.net).sum = 0 := by
    refine List.sum_eq_zero fun net hnet => ?_
    obtain ⟨line, hline, rfl⟩ := List.mem_map.1 hnet
    exact Braces.balanced_iff.1 (hpending line hline)
  rw [checkBalanced_eq, if_pos]
  rw [hnet]
  show Braces.net new + _ + _ = 0
  rw [Braces.balanced_iff.1 hbalanced, hshared, himports]
  rfl

/-- A body goes to lines with other closing characters and an import with braces is carried; a
carried import that opens a brace is counted. -/
theorem net_render_merge_letters :
    let old := Text.lit "r\x7b\x7d\nf=\x7b\nkept\n\x7d"
    let opening := Text.lit "r\x7b\nf=\x7b\nkept\n\x7d"
    let new := Text.lit "top\nf=\x7b\n\x7d;\ng=\x7b\n\x7d"
    (Braces.balanced new = true ∧
      (∀ line ∈ pendingImports (scan letters new).1
        (merge (scan letters old).1 (scan letters new).1).1, Braces.balanced line = true) ∧
      AgreeOnEdges (scan letters old).1 (scan letters new).1) ∧
    (∃ out, mergeTexts letters old new = .ok out ∧ checkBalanced out = .ok ()) ∧
    ∃ out, mergeTexts letters opening new = .ok out ∧ Braces.net out = 1 := by
  intro old opening new
  have hbalanced : Braces.balanced new = true := by decide
  have hpending : ∀ line ∈ pendingImports (scan letters new).1
      (merge (scan letters old).1 (scan letters new).1).1, Braces.balanced line = true := by decide
  have hagree : AgreeOnEdges (scan letters old).1 (scan letters new).1 := by decide
  obtain ⟨out, hout, -, -, hpassed⟩ := net_render_merge letters old new
  obtain ⟨out', hout', hnet, -⟩ := net_render_merge letters opening new
  refine ⟨⟨hbalanced, hpending, hagree⟩, ⟨out, hout, hpassed hbalanced hpending hagree⟩,
    out', hout', hnet.trans ?_⟩
  decide

end StubGraft
