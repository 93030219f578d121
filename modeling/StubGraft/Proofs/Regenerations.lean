import StubGraft.Proofs.Extensionality

/-!
# One regeneration after another

A visitor is regenerated again and again, and each time either the generated text is taken as it
is or the bodies are merged into it.  The conditions under which merging is safe speak of the
texts that go in; here they are shown to hold again of what comes out, whose bodies may stem from
one generation, their declaring lines from another and its imports from a third.

* `regenerateText` — one regeneration.
* `Compatible` — a visitor and the texts that are generated for it.
* `Compatible.step` — a regeneration keeps the edited bodies and leaves compatible texts.
* `foldlM_regenerateText_body?` — so does any number of them.
-/

namespace StubGraft

/-! ## One regeneration -/

/-- The visitor after a regeneration: the generated text if it has the same stubs, else the merge of
the visitor and the generated text. -/
def regenerateText (convention : Convention) (visitor generated : Text) :
    Except RenderError Text :=
  if equivalent (scan convention visitor).1 (scan convention generated).1 then .ok generated
  else mergeTexts convention visitor generated

/-- A model is equivalent to itself. -/
theorem equivalent_self (a : Model) : equivalent a a = true :=
  equivalent_iff.2 fun _ => rfl

theorem regenerateText_self (convention : Convention) (visitor : Text) :
    regenerateText convention visitor visitor = .ok visitor := by
  rw [regenerateText, if_pos (equivalent_self _)]

/-- A body of one of two equivalent models is that of the other. -/
theorem body?_of_equivalent {a b : Model} {name : Text} {body : List Text}
    (h : equivalent a b = true) (hbody : a.stubs.body? name = some body) :
    b.stubs.body? name = some body :=
  (equivalent_iff.1 h name).symm.trans hbody

/-- A visitor and the texts that are generated for it: no declaration is unbalanced, no header of a
generated text ends inside of a declaration that is ignored, and the texts agree on the net braces
around their stubs.  Nothing is asked of a visitor for which no text is generated. -/
structure Compatible (convention : Convention) (visitor : Text) (generated : List Text) :
    Prop where
  /-- No declaration is unbalanced. -/
  balanced : ∀ t ∈ generated,
    NoUnbalanced (scan convention visitor).2 ∧ NoUnbalanced (scan convention t).2
  /-- No header of a generated text ends inside of an ignored declaration. -/
  header : ∀ t ∈ generated, HeaderOutsideIgnored convention t
  /-- The texts agree on the net braces around their stubs. -/
  agree : ∀ t ∈ visitor :: generated, ∀ u ∈ generated,
    AgreeOnEdges (scan convention t).1 (scan convention u).1

variable {convention : Convention} {visitor text : Text} {generated : List Text}

/-- A visitor may be replaced by another that is balanced and has its stubs between the lines of a
generated text. -/
theorem Compatible.replace {out : Text} (h : Compatible convention visitor generated)
    (htext : text ∈ generated) (hout : NoUnbalanced (scan convention out).2)
    (hedges : ∀ header body closer,
      .stub header body closer ∈ layoutOf convention out.splitLines →
        ∃ body', .stub header body' closer ∈ layoutOf convention text.splitLines) :
    Compatible convention out generated := by
  refine ⟨?_, h.header, ?_⟩
  · intro t ht
    exact ⟨hout, (h.balanced t ht).2⟩
  · intro t ht u hu
    rcases List.mem_cons.1 ht with rfl | ht
    · have hagree := h.agree text (by simp [htext]) u hu
      refine (agreeOnEdges_iff (scanLines_hasParts convention _)
        (scanLines_hasParts convention _)).2 ?_
      intro header body closer header' body' closer' hstub hstub' hname
      obtain ⟨kept, hkept⟩ := hedges header body closer hstub
      exact (agreeOnEdges_iff (scanLines_hasParts convention _)
        (scanLines_hasParts convention _)).1 hagree _ _ _ _ _ _ hkept hstub' hname
    · exact h.agree t (by simp [ht]) u hu

/-- A generated text is a visitor too. -/
theorem Compatible.of_mem (h : Compatible convention visitor generated)
    (htext : text ∈ generated) : Compatible convention text generated :=
  h.replace htext (h.balanced text htext).2 fun _ body _ hstub => ⟨body, hstub⟩

/-- A regeneration succeeds, keeps the bodies of the stubs that are generated again, and leaves a
visitor that is compatible with the generated texts. -/
theorem Compatible.step (h : Compatible convention visitor generated) (htext : text ∈ generated) :
    ∃ out, regenerateText convention visitor text = .ok out ∧
      Compatible convention out generated ∧
      ∀ name body, (scan convention visitor).1.stubs.body? name = some body →
        (scan convention text).1.stubs.contains name = true →
          (scan convention out).1.stubs.body? name = some body := by
  by_cases he : equivalent (scan convention visitor).1 (scan convention text).1 = true
  · refine ⟨text, by rw [regenerateText, if_pos he], h.of_mem htext, ?_⟩
    intro name body hbody _
    exact body?_of_equivalent he hbody
  · obtain ⟨hold, hnew⟩ := h.balanced text htext
    have hheader := h.header text htext
    have hagree := h.agree visitor (by simp) text htext
    obtain ⟨out, hout, hlines⟩ := mergeTexts_eq convention visitor text
    have hscan : scan convention out =
        scanLines convention (mergedLines convention visitor text) := by
      rw [scan, hlines]
    refine ⟨out, by rw [regenerateText, if_neg he, hout], h.replace htext ?_ ?_, ?_⟩
    · rw [hscan]
      exact noUnbalanced_mergedLines hold hnew hheader hagree
    · intro header body closer hstub
      rw [hlines] at hstub
      exact exists_stub_of_mem_mergedLines hold hnew hheader hagree hstub
    · intro name body hbody hname
      obtain ⟨generatedBody, hgenerated⟩ := Option.isSome_iff_exists.1 hname
      rw [hscan, stubs_mergedLines hold hnew hheader hagree, body?_mergeStubs, hgenerated, hbody]
      rfl

/-! ## Any number of regenerations -/

/-- So does any number of regenerations with some of the generated texts. -/
theorem Compatible.foldlM {texts : List Text} (h : Compatible convention visitor generated)
    (htexts : ∀ t ∈ texts, t ∈ generated) :
    ∃ out, texts.foldlM (regenerateText convention) visitor = .ok out ∧
      ∀ name body, (scan convention visitor).1.stubs.body? name = some body →
        (∀ t ∈ texts, (scan convention t).1.stubs.contains name = true) →
          (scan convention out).1.stubs.body? name = some body := by
  -- on the texts still to come, for any visitor that is compatible with all of them
  induction texts generalizing visitor with
  | nil => exact ⟨visitor, rfl, fun name body hbody _ => hbody⟩
  | cons text texts ih =>
    obtain ⟨next, hnext, hcompatible, hkeeps⟩ := h.step (htexts text (by simp))
    obtain ⟨out, hout, hbodies⟩ := ih hcompatible fun t ht => htexts t (by simp [ht])
    refine ⟨out, ?_, ?_⟩
    · rw [List.foldlM_cons, hnext]
      exact hout
    · intro name body hbody hnames
      exact hbodies name body (hkeeps name body hbody (hnames text (by simp)))
        fun t ht => hnames t (by simp [ht])

/-- Edited bodies survive any number of regenerations: a stub that the first visitor records and
that is generated every time is recorded in the end with the body that it had at first. -/
theorem foldlM_regenerateText_body? (convention : Convention) (visitor : Text)
    (generated : List Text)
    (hbalanced : ∀ t ∈ visitor :: generated, NoUnbalanced (scan convention t).2)
    (hdistinct : ∀ t ∈ generated, NoDuplicate (scan convention t).2)
    (hagree : ∀ t ∈ visitor :: generated, ∀ u ∈ visitor :: generated,
      AgreeOnEdges (scan convention t).1 (scan convention u).1) :
    ∃ out, generated.foldlM (regenerateText convention) visitor = .ok out ∧
      ∀ name body, (scan convention visitor).1.stubs.body? name = some body →
        (∀ t ∈ generated, (scan convention t).1.stubs.contains name = true) →
          (scan convention out).1.stubs.body? name = some body := by
  have h : Compatible convention visitor generated := by
    refine ⟨?_, ?_, ?_⟩
    · intro t ht
      exact ⟨hbalanced visitor (by simp), hbalanced t (by simp [ht])⟩
    · intro t ht
      exact headerOutsideIgnored_of_noDuplicate (hdistinct t ht)
    · intro t ht u hu
      exact hagree t ht u (by simp [hu])
  exact h.foldlM fun _ ht => ht

/-- A merge and then a skipped one: the body of `f` is edited once, the second text adds a stub, and
the third has the stubs of the second with the edited body. -/
theorem foldlM_regenerateText_body?_letters :
    let visitor := Text.lit "f=\x7b\nkept\n\x7d"
    let generated := [Text.lit "f=\x7b\n\x7d\ng=\n\x7b\n\x7d",
      Text.lit "g=\n\x7b\n\x7d\nf=\x7b\nkept\n\x7d"]
    ((∀ t ∈ visitor :: generated, NoUnbalanced (scan letters t).2) ∧
      (∀ t ∈ generated, NoDuplicate (scan letters t).2) ∧
      (∀ t ∈ visitor :: generated, ∀ u ∈ visitor :: generated,
        AgreeOnEdges (scan letters t).1 (scan letters u).1)) ∧
    ∃ out, generated.foldlM (regenerateText letters) visitor = .ok out ∧
      (scan letters out).1.stubs.body? (Text.lit "f") = some [Text.lit "kept"] := by
  intro visitor generated
  have hbalanced : ∀ t ∈ visitor :: generated, NoUnbalanced (scan letters t).2 := by decide
  have hdistinct : ∀ t ∈ generated, NoDuplicate (scan letters t).2 := by decide
  have hagree : ∀ t ∈ visitor :: generated, ∀ u ∈ visitor :: generated,
      AgreeOnEdges (scan letters t).1 (scan letters u).1 := by decide
  obtain ⟨out, hout, hbodies⟩ :=
    foldlM_regenerateText_body? letters visitor generated hbalanced hdistinct hagree
  exact ⟨⟨hbalanced, hdistinct, hagree⟩, out, hout, hbodies _ _ (by decide) (by decide)⟩

end StubGraft
