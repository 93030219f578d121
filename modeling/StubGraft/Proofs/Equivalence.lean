import StubGraft.Proofs.Regenerations
import StubGraft.Proofs.Remerging

/-!
# Equivalent files

Two files are equivalent if their stubs have the same bodies, in any order.  A regeneration does
not merge them: the new file stays as it is.  What a merge would have made of it differs from it
only by imports, so both ways agree exactly if no import is pending.

* `hasBodiesOf_of_equivalent` — a merge of equivalent files changes no body.
* `render_merge_of_equivalent` — it gives the new file exactly if nothing is pending, and a file
  merged with itself is that file.
-/

namespace StubGraft

/-- A merge of equivalent files changes no body, whatever the order of their stubs. -/
theorem hasBodiesOf_of_equivalent {old new : Model} (h : equivalent old new = true) :
    HasBodiesOf old new := by
  refine hasBodiesOf_iff.2 ?_
  rintro ⟨name, body, body', hold, hnew, hne⟩
  have hsame := body?_of_equivalent h hold
  exact hne (Option.some.inj (hsame.symm.trans hnew))

/-- Every import of a file is a line of it, so a file has nothing pending for itself. -/
theorem pendingImports_self (convention : Convention) (text : Text) :
    pendingImports (scan convention text).1
      (merge (scan convention text).1 (scan convention text).1).1 = [] := by
  refine pendingImports_eq_nil_iff.2 fun line hline => ?_
  exact mem_lines_of_mem_imports hline

/-- The merge of equivalent files exists, and it is the new file exactly if no import is pending. -/
theorem mergeTexts_of_equivalent {convention : Convention} {old new : Text}
    (h : equivalent (scan convention old).1 (scan convention new).1 = true) :
    ∃ out, mergeTexts convention old new = .ok out ∧
      (out = new ↔ pendingImports (scan convention new).1
        (merge (scan convention old).1 (scan convention new).1).1 = []) := by
  obtain ⟨out, hout, -⟩ := mergeTexts_eq convention old new
  have hbodies := hasBodiesOf_of_equivalent h
  exact ⟨out, hout, eq_new_iff hout (hasBodiesOf_iff.1 hbodies)⟩

/-- Skipping the merge of equivalent files agrees with merging them exactly if nothing is pending:
the merge exists, and it is the new file if and only if no import is.  So a file that is merged with
itself stays as it is, whatever is odd about its declarations. -/
theorem render_merge_of_equivalent (convention : Convention) (old new : Text)
    (h : equivalent (scan convention old).1 (scan convention new).1 = true) :
    (∃ out,
      render (scan convention new).1 (merge (scan convention old).1 (scan convention new).1).1
        convention.headerLines = .ok out ∧
      (out = new ↔ pendingImports (scan convention new).1
        (merge (scan convention old).1 (scan convention new).1).1 = [])) ∧
    ∀ text,
      render (scan convention text).1
        (merge (scan convention text).1 (scan convention text).1).1
        convention.headerLines = .ok text := by
  refine ⟨mergeTexts_of_equivalent h, fun text => ?_⟩
  obtain ⟨out, hout, hself⟩ := mergeTexts_of_equivalent (equivalent_self (scan convention text).1)
  obtain rfl := hself.2 (pendingImports_self convention text)
  exact hout

/-- The stubs stand in another order, one of them is declared twice, one on one line and one is
never closed; an import is carried over to the new file, which is left alone if it has the line. -/
theorem render_merge_of_equivalent_letters :
    let old := Text.lit "r1\ng\x7b\n1\n\x7d\nf\x7b\nr2\n\x7d"
    let lacking := Text.lit "top\nf\x7b\nr2\n\x7d\nf\x7b\n2\n\x7d\ng\x7b\x7d\ng\x7b\n1\n\x7d\ng\x7b"
    let having := Text.lit "top\nf\x7b\nr2\n\x7d\nr1\ng\x7b\x7d\ng\x7b\n1\n\x7d\nf\x7b"
    (∀ new ∈ [lacking, having],
      equivalent (scan letters old).1 (scan letters new).1 = true) ∧
    (∃ out, mergeTexts letters old lacking = .ok out ∧ out ≠ lacking) ∧
    mergeTexts letters old having = .ok having ∧
    mergeTexts letters lacking lacking = .ok lacking := by
  intro old lacking having
  have hall : ∀ new ∈ [lacking, having],
      equivalent (scan letters old).1 (scan letters new).1 = true := by decide
  obtain ⟨⟨out, hout, hlacking⟩, hself⟩ :=
    render_merge_of_equivalent letters old lacking (hall lacking (by simp))
  obtain ⟨⟨out', hout', hhaving⟩, -⟩ :=
    render_merge_of_equivalent letters old having (hall having (by simp))
  obtain rfl : out' = having := hhaving.2 (by decide)
  refine ⟨hall, ⟨out, hout, ?_⟩, hout', hself lacking⟩
  exact fun he => absurd (hlacking.1 he) (by decide)

end StubGraft
