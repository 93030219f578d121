import StubGraft.Proofs.Rescan
import Mathlib.Data.List.Nodup
import Mathlib.Data.List.Perm.Subperm

/-!
# Equivalence of models

Two models are compared by the sizes of their tables and by looking up the stubs of one in the
other.  Since no name stands twice in a table, this is enough: the tables then have the same
entries, in some order.

* `StubTable.perm_iff` — tables have the same entries exactly if they give the same bodies.
* `equivalent_iff_perm` — equivalent models are those whose tables have the same entries.
* `merge_congr` — a merge reads no more of the edited file than bodies and imports.
* `equivalent_extensional` — what equivalence is, and what it is good for.
-/

namespace StubGraft

/-! ## Tables with the same entries -/

theorem StubTable.nodup_entries (table : StubTable) : table.entries.Nodup :=
  List.Nodup.of_map Prod.fst table.nodup

/-- Two tables have the same entries exactly if they give the same body to every name. -/
theorem StubTable.perm_iff {a b : StubTable} :
    a.entries.Perm b.entries ↔ ∀ name, a.body? name = b.body? name := by
  rw [List.perm_ext_iff_of_nodup a.nodup_entries b.nodup_entries]
  constructor
  · intro h name
    refine Option.ext fun body => ?_
    rw [StubTable.body?_eq_some_iff, StubTable.body?_eq_some_iff]
    exact h (name, body)
  · rintro h ⟨name, body⟩
    rw [← StubTable.body?_eq_some_iff, ← StubTable.body?_eq_some_iff, h name]

/-- The comparison looks at one side only, but the sizes leave no room for more on the other. -/
theorem equivalent_iff_perm {a b : Model} :
    equivalent a b = true ↔ a.stubs.entries.Perm b.stubs.entries := by
  rw [equivalent, Bool.and_eq_true, List.all_eq_true, beq_iff_eq]
  constructor
  · rintro ⟨hsize, hall⟩
    have hsubset : a.stubs.entries ⊆ b.stubs.entries := by
      intro entry hentry
      exact StubTable.body?_eq_some_iff.1 (by simpa using hall entry hentry)
    have hsub : a.stubs.entries.Subperm b.stubs.entries := a.stubs.nodup_entries.subperm hsubset
    exact hsub.perm_of_length_le (Nat.le_of_eq hsize.symm)
  · intro hperm
    refine ⟨hperm.length_eq, fun entry hentry => ?_⟩
    rw [beq_iff_eq, StubTable.body?_eq_some_iff]
    exact hperm.mem_iff.1 hentry

/-- Equivalent models are those that give the same body to every name. -/
theorem equivalent_iff {a b : Model} :
    equivalent a b = true ↔ ∀ name, a.stubs.body? name = b.stubs.body? name :=
  equivalent_iff_perm.trans StubTable.perm_iff

/-! ## Merges of equivalent files -/

/-- A merge reads the bodies and the imports of the edited file and nothing else of it. -/
theorem merge_congr {old old' : Model}
    (hbodies : ∀ name, old.stubs.body? name = old'.stubs.body? name)
    (himports : old.imports = old'.imports) (new : Model) :
    (merge old new).1 = (merge old' new).1 := by
  simp only [merge, mergeStubs, mergeImports, hbodies, himports]

/-- Two models are equivalent exactly if every name has the same body in both, or none in both.  So
this is an equivalence, and neither the order of the stubs nor lines, spans and imports matter to
it.  An edited file can be replaced by an equivalent one with the same imports: the merge with any
new file is the same, and so is its rendering with any header. -/
theorem equivalent_extensional :
    (∀ a b : Model,
      equivalent a b = true ↔ ∀ name, a.stubs.body? name = b.stubs.body? name) ∧
    (Equivalence fun a b : Model => equivalent a b = true) ∧
    (∀ a a' b b' : Model, a.stubs.entries.Perm a'.stubs.entries →
      b.stubs.entries.Perm b'.stubs.entries → equivalent a b = equivalent a' b') ∧
    ∀ old old' new : Model, equivalent old old' = true → old.imports = old'.imports →
      (merge old new).1 = (merge old' new).1 ∧
      ∀ headerLines, render new (merge old new).1 headerLines =
        render new (merge old' new).1 headerLines := by
  refine ⟨fun a b => equivalent_iff, ⟨?_, ?_, ?_⟩, ?_, ?_⟩
  · intro a
    exact equivalent_iff_perm.2 (List.Perm.refl _)
  · intro a b hab
    exact equivalent_iff_perm.2 (equivalent_iff_perm.1 hab).symm
  · intro a b c hab hbc
    exact equivalent_iff_perm.2 ((equivalent_iff_perm.1 hab).trans (equivalent_iff_perm.1 hbc))
  · intro a a' b b' ha hb
    rw [Bool.eq_iff_iff, equivalent_iff_perm, equivalent_iff_perm]
    exact ⟨fun h => (ha.symm.trans h).trans hb, fun h => (ha.trans h).trans hb.symm⟩
  · intro old old' new h himports
    have hmerge := merge_congr (equivalent_iff.1 h) himports new
    exact ⟨hmerge, fun headerLines => by rw [hmerge]⟩

/-- The two edited files have their stubs in another order and other lines around them. -/
theorem equivalent_extensional_letters :
    let old := (scan letters (Text.lit "r1\nf=\x7b\n1\n\x7d\ng=\x7b\n2\n\x7d")).1
    let old' := (scan letters (Text.lit "g =\x7b\n2\n\x7d;\nr1\nx\nf=\x7b\n1\n\x7d")).1
    let new := (scan letters (Text.lit "top\ng=\x7b\n\x7d\nf=\x7b\n\x7d\ng=\x7b\n3\n\x7d")).1
    (equivalent old old' = true ∧ old.imports = old'.imports ∧
      old.stubs.entries.Perm old'.stubs.entries) ∧
    equivalent old new = equivalent old' new ∧
    (merge old new).1 = (merge old' new).1 ∧
    render new (merge old new).1 1 = render new (merge old' new).1 1 := by
  intro old old' new
  have hequivalent : equivalent old old' = true := by decide
  have himports : old.imports = old'.imports := by decide
  have hperm : old.stubs.entries.Perm old'.stubs.entries := equivalent_iff_perm.1 hequivalent
  obtain ⟨-, -, horder, hreplace⟩ := equivalent_extensional
  obtain ⟨hmerge, hrender⟩ := hreplace old old' new hequivalent himports
  exact ⟨⟨hequivalent, himports, hperm⟩, horder old old' new new hperm (List.Perm.refl _),
    hmerge, hrender 1⟩

end StubGraft
