import StubGraft.Pattern.Compile
import StubGraft.Pattern.Matcher

/-!
# The texts that a pattern stands for

An expression is matched by trying its ways in order and giving up those that fail later.  Where it
has neither captures nor conditions on its surroundings, the order is of no importance: this file
says which texts such an expression stands for, without any search, and that the search from a
place on succeeds exactly if one of these texts follows and what comes after it matches.

* `Node.Spells` — the texts of an expression.
* `Finds` — a search finds the texts of a language.
* `finds_repeatGreedy` — a repetition finds the texts in rounds, and its fuel does not run out.
* `Node.finds_run` — the search for a plain expression finds its texts.
* `Node.accepts_iff` — a plain expression is matched by the texts that start with one of its own.
* `Node.spells_ofList_append`, `Node.spells_many`, `Node.spells_word` — the texts of expressions in
  a row, of a repeated set, and of a word.
-/

namespace StubGraft.Pattern

variable {c : Cursor} {s t : Text}

/-! ## Places further on -/

/-- The place after a text that follows. -/
def Cursor.skip (c : Cursor) (t : Text) : Cursor :=
  { c with before := t.reverse ++ c.before, after := c.after.drop t.length }

theorem Cursor.skip_append (c : Cursor) (s t : Text) : c.skip (s ++ t) = (c.skip s).skip t := by
  simp [skip, List.drop_drop]

theorem Cursor.next_eq_skip {x : Char} {r : Text} (h : c.after = x :: r) : c.next = c.skip [x] := by
  rw [next, h]
  simp [skip, h]

/-- One text follows and then another. -/
theorem Cursor.append_prefix_iff :
    s ++ t <+: c.after ↔ s <+: c.after ∧ t <+: (c.skip s).after := by
  constructor
  · rintro ⟨u, hu⟩
    refine ⟨⟨t ++ u, by rw [← hu, List.append_assoc]⟩, ⟨u, ?_⟩⟩
    simp [skip, ← hu, List.append_assoc]
  · rintro ⟨⟨u, hu⟩, ⟨v, hv⟩⟩
    refine ⟨v, ?_⟩
    have hafter : (c.skip s).after = u := by simp [skip, ← hu]
    rw [← hu, ← hafter, ← hv, List.append_assoc]

theorem Cursor.length_skip (h : s <+: c.after) :
    s.length + (c.skip s).after.length = c.after.length := by
  have hle := h.length_le
  rw [skip, List.length_drop]
  omega

/-! ## Languages -/

/-- A search from a place on succeeds exactly if a text of the language follows and what is wanted
next succeeds after it. -/
def Finds (step : Step) (language : Text → Prop) : Prop :=
  ∀ (c : Cursor) (rest : Rest), (step c rest).isSome = true ↔
    ∃ t, t <+: c.after ∧ language t ∧ (rest (c.skip t)).isSome = true

/-- Texts of a language one after the other: `least` have to be there and up to `room` more may.
Of the latter none is empty, since without the empty ones the text is the same. -/
inductive Rounds (language : Text → Prop) : Nat → Option Nat → Text → Prop where
  /-- All that have to be there are there. -/
  | done {room : Option Nat} : Rounds language 0 room []
  /-- One that has to be there, before the others. -/
  | due {least : Nat} {room : Option Nat} {s t : Text} :
    language s → Rounds language least room t → Rounds language (least + 1) room (s ++ t)
  /-- One that may be there, before the others. -/
  | more {room : Option Nat} {s t : Text} :
    room ≠ some 0 → s ≠ [] → language s → Rounds language 0 (lessOne room) t →
      Rounds language 0 room (s ++ t)

/-- The texts that an expression without captures and conditions stands for. -/
def Node.Spells : Node → Text → Prop
  | .empty, t => t = []
  | .one set, t => ∃ x, t = [x] ∧ set.covers x = true
  | .seq first second, t => ∃ a b, t = a ++ b ∧ first.Spells a ∧ second.Spells b
  | .alt first second, t => first.Spells t ∨ second.Spells t
  | .repeated least most _ body, t => Rounds body.Spells least (most.map (· - least)) t
  | _, _ => False

/-- Whether an expression is made of sets of characters by sequence, choice and greedy repetition.
-/
def Node.isPlain : Node → Bool
  | .empty | .one _ => true
  | .seq first second | .alt first second => first.isPlain && second.isPlain
  | .repeated _ _ mode body => mode == .greedy && body.isPlain
  | _ => false

/-! ## Repetition -/

/-- A second way is tried if the first one fails. -/
theorem isSome_orElse_iff {first second : Option Cursor} :
    (match first with
      | some result => some result
      | none => second).isSome = true ↔ first.isSome = true ∨ second.isSome = true := by
  cases first <;> simp

section Repetition

variable {step : Step} {language : Text → Prop} {fuel least : Nat} {room last : Option Nat}
  {rest : Rest}

/-- Where no round has to follow, one more is tried, and then what comes after the repetition. -/
theorem isSome_repeatGreedy_iff :
    (repeatGreedy step (fuel + 1) 0 room last c rest).isSome = true ↔
      (room ≠ some 0 ∧ last ≠ some c.after.length ∧ (step c fun d =>
        repeatGreedy step fuel 0 (lessOne room) (some c.after.length) d rest).isSome = true) ∨
      (rest c).isSome = true := by
  rw [repeatGreedy.eq_def]
  dsimp only
  split
  · rename_i hstop
    constructor
    · exact Or.inr
    · rintro (⟨hroom, hlast, -⟩ | h)
      · exact absurd hstop (not_or.2 ⟨hroom, hlast⟩)
      · exact h
  · rename_i hgo
    refine isSome_orElse_iff.trans ?_
    rw [← and_assoc, and_iff_right (not_or.1 hgo)]

theorem Rounds.mono {more : Option Nat} (h : Rounds language least room t)
    (hmore : ∀ n ∈ more, ∃ m ∈ room, m ≤ n) : Rounds language least more t := by
  induction h generalizing more with
  | done => exact .done
  | due hlanguage _ ih => exact .due hlanguage (ih hmore)
  | @more room s t hroom hempty hlanguage _ ih =>
    refine .more ?_ hempty hlanguage (ih ?_)
    · rintro rfl
      obtain ⟨m, hm, hle⟩ := hmore 0 rfl
      exact hroom (hm.trans (congrArg some (Nat.le_zero.1 hle)))
    · intro n hless
      obtain ⟨n, hn, rfl⟩ := Option.map_eq_some_iff.1 hless
      obtain ⟨m, hm, hle⟩ := hmore n hn
      exact ⟨m - 1, Option.map_eq_some_iff.2 ⟨m, hm, rfl⟩, by omega⟩

/-- Fewer rounds than there may be are allowed too. -/
theorem Rounds.of_lessOne (h : Rounds language 0 (lessOne room) t) : Rounds language 0 room t :=
  h.mono fun n hn => ⟨n - 1, Option.map_eq_some_iff.2 ⟨n, hn, rfl⟩, by omega⟩

/-- What a repetition finds is a text in rounds. -/
theorem exists_rounds_of_repeatGreedy (hstep : Finds step language)
    (h : (repeatGreedy step fuel least room last c rest).isSome = true) :
    ∃ t, t <+: c.after ∧ Rounds language least room t ∧ (rest (c.skip t)).isSome = true := by
  induction fuel generalizing least room last c with
  | zero => simp [repeatGreedy] at h
  | succ fuel ih =>
    cases least with
    | succ least =>
      obtain ⟨s, hs, hlanguage, hrest⟩ := (hstep _ _).1 h
      obtain ⟨t, ht, hrounds, hrest⟩ := ih hrest
      refine ⟨s ++ t, Cursor.append_prefix_iff.2 ⟨hs, ht⟩, .due hlanguage hrounds, ?_⟩
      rwa [Cursor.skip_append]
    | zero =>
      rcases isSome_repeatGreedy_iff.1 h with ⟨hroom, -, hround⟩ | hrest
      · obtain ⟨s, hs, hlanguage, hrest⟩ := (hstep _ _).1 hround
        obtain ⟨t, ht, hrounds, hrest⟩ := ih hrest
        refine ⟨s ++ t, Cursor.append_prefix_iff.2 ⟨hs, ht⟩, ?_, by rwa [Cursor.skip_append]⟩
        by_cases hempty : s = []
        · rw [hempty]
          exact hrounds.of_lessOne
        · exact .more hroom hempty hlanguage hrounds
      · exact ⟨[], List.nil_prefix, .done, hrest⟩

/-- A text in rounds is found.  The rounds that may follow are not empty, so each starts further on
than the one before, and there are at most as many as characters. -/
theorem repeatGreedy_of_rounds (hstep : Finds step language) (h : Rounds language least room t)
    (hfuel : least + t.length < fuel) (hlast : ∀ n ∈ last, c.after.length < n)
    (ht : t <+: c.after) (hrest : (rest (c.skip t)).isSome = true) :
    (repeatGreedy step fuel least room last c rest).isSome = true := by
  obtain ⟨fuel, rfl⟩ := Nat.exists_eq_add_one_of_ne_zero (Nat.ne_zero_of_lt hfuel)
  induction h generalizing fuel last c with
  | done => exact isSome_repeatGreedy_iff.2 (Or.inr hrest)
  | due hlanguage _ ih =>
    obtain ⟨hs, ht⟩ := Cursor.append_prefix_iff.1 ht
    rw [Cursor.skip_append] at hrest
    rw [List.length_append] at hfuel
    have hlength := Cursor.length_skip hs
    obtain ⟨fuel, rfl⟩ : ∃ n, fuel = n + 1 := ⟨fuel - 1, by omega⟩
    refine (hstep _ _).2 ⟨_, hs, hlanguage, ih ?_ ht hrest fuel (by omega)⟩
    intro n hn
    have := hlast n hn
    omega
  | more hroom hempty hlanguage _ ih =>
    obtain ⟨hs, ht⟩ := Cursor.append_prefix_iff.1 ht
    rw [Cursor.skip_append] at hrest
    rw [List.length_append] at hfuel
    have hlength := Cursor.length_skip hs
    have hpos := List.length_pos_iff.2 hempty
    obtain ⟨fuel, rfl⟩ : ∃ n, fuel = n + 1 := ⟨fuel - 1, by omega⟩
    refine isSome_repeatGreedy_iff.2 (Or.inl ⟨hroom, ?_, (hstep _ _).2
      ⟨_, hs, hlanguage, ih ?_ ht hrest fuel (by omega)⟩⟩)
    · intro h
      exact Nat.lt_irrefl _ (hlast _ h)
    · intro n hn
      obtain rfl := Option.some.inj hn
      omega

theorem finds_repeatGreedy (hstep : Finds step language) (least : Nat) (room : Option Nat) :
    Finds (fun c rest => repeatGreedy step (least + c.after.length + 2) least room none c rest)
      (Rounds language least room) := by
  intro c rest
  refine ⟨exists_rounds_of_repeatGreedy hstep, ?_⟩
  rintro ⟨t, ht, hrounds, hrest⟩
  have hlength := ht.length_le
  exact repeatGreedy_of_rounds hstep hrounds (by omega) (by simp) ht hrest

end Repetition

/-! ## Plain expressions -/

/-- The search for a plain expression finds the texts that it stands for. -/
theorem Node.finds_run {node : Node} (h : node.isPlain = true) : Finds node.run node.Spells := by
  induction node with
  | empty =>
    intro c rest
    constructor
    · intro hrest
      exact ⟨[], List.nil_prefix, rfl, hrest⟩
    · rintro ⟨t, -, rfl, hrest⟩
      exact hrest
  | one set =>
    intro c rest
    rw [Node.run]
    constructor
    · intro hrun
      split at hrun
      · cases hrun
      · rename_i x r hafter
        split at hrun
        · rename_i hcovers
          rw [Cursor.next_eq_skip hafter] at hrun
          exact ⟨[x], ⟨r, hafter.symm⟩, ⟨x, rfl, hcovers⟩, hrun⟩
        · cases hrun
    · rintro ⟨_, ⟨r, hafter⟩, ⟨x, rfl, hcovers⟩, hrest⟩
      rw [← hafter]
      dsimp only [List.singleton_append]
      rw [if_pos hcovers, Cursor.next_eq_skip hafter.symm]
      exact hrest
  | seq first second ihFirst ihSecond =>
    simp only [isPlain, Bool.and_eq_true] at h
    intro c rest
    rw [Node.run, ihFirst h.1]
    constructor
    · rintro ⟨s, hs, hfirst, hrun⟩
      obtain ⟨t, ht, hsecond, hrest⟩ := (ihSecond h.2 _ _).1 hrun
      refine ⟨s ++ t, Cursor.append_prefix_iff.2 ⟨hs, ht⟩, ⟨s, t, rfl, hfirst, hsecond⟩, ?_⟩
      rwa [Cursor.skip_append]
    · rintro ⟨_, hprefix, ⟨s, t, rfl, hfirst, hsecond⟩, hrest⟩
      obtain ⟨hs, ht⟩ := Cursor.append_prefix_iff.1 hprefix
      rw [Cursor.skip_append] at hrest
      exact ⟨s, hs, hfirst, (ihSecond h.2 _ _).2 ⟨t, ht, hsecond, hrest⟩⟩
  | alt first second ihFirst ihSecond =>
    simp only [isPlain, Bool.and_eq_true] at h
    intro c rest
    refine isSome_orElse_iff.trans ?_
    rw [ihFirst h.1, ihSecond h.2]
    constructor
    · rintro (⟨t, ht, hspells, hrest⟩ | ⟨t, ht, hspells, hrest⟩)
      · exact ⟨t, ht, Or.inl hspells, hrest⟩
      · exact ⟨t, ht, Or.inr hspells, hrest⟩
    · rintro ⟨t, ht, hspells | hspells, hrest⟩
      · exact Or.inl ⟨t, ht, hspells, hrest⟩
      · exact Or.inr ⟨t, ht, hspells, hrest⟩
  | repeated least most mode body ih =>
    simp only [isPlain, Bool.and_eq_true, beq_iff_eq] at h
    obtain ⟨rfl, hbody⟩ := h
    exact finds_repeatGreedy (ih hbody) least (most.map (· - least))
  | _ => cases h

/-- A text is accepted by a plain expression if it starts with a text of the expression. -/
theorem Node.accepts_iff {node : Node} (h : node.isPlain = true) :
    node.accepts t = true ↔ ∃ s, s <+: t ∧ node.Spells s := by
  rw [accepts, finds_run h]
  simp [Cursor.start]

/-- A text is matched from its start on anyway. -/
theorem Node.accepts_start (node : Node) (t : Text) :
    (Node.seq (.place .start) node).accepts t = node.accepts t := rfl

/-! ## Words and runs of characters -/

/-- Any number of characters of a set. -/
def Node.many (set : CharSet) : Node := .repeated 0 none .greedy (.one set)

/-- The characters of a text, one after the other. -/
def Node.word (t : Text) : List Node := t.map fun x => Reader.literal .none x.toNat

theorem Node.spells_ofList_cons {node : Node} {nodes : List Node} :
    (ofList (node :: nodes)).Spells t ↔
      ∃ a b, t = a ++ b ∧ node.Spells a ∧ (ofList nodes).Spells b := by
  cases nodes with
  | nil => simp [ofList, Spells]
  | cons next nodes => rfl

/-- The expressions of two lists one after the other. -/
theorem Node.spells_ofList_append {first second : List Node} :
    (ofList (first ++ second)).Spells t ↔
      ∃ a b, t = a ++ b ∧ (ofList first).Spells a ∧ (ofList second).Spells b := by
  induction first generalizing t with
  | nil =>
    constructor
    · intro h
      exact ⟨[], t, rfl, rfl, h⟩
    · rintro ⟨_, b, rfl, rfl, h⟩
      exact h
  | cons node nodes ih =>
    rw [List.cons_append, spells_ofList_cons]
    constructor
    · rintro ⟨a, _, rfl, hnode, hmore⟩
      obtain ⟨b, d, rfl, hnodes, hsecond⟩ := ih.1 hmore
      exact ⟨a ++ b, d, (List.append_assoc ..).symm,
        spells_ofList_cons.2 ⟨a, b, rfl, hnode, hnodes⟩, hsecond⟩
    · rintro ⟨_, d, rfl, hfirst, hsecond⟩
      obtain ⟨a, b, rfl, hnode, hnodes⟩ := spells_ofList_cons.1 hfirst
      exact ⟨a, b ++ d, List.append_assoc .., hnode, ih.2 ⟨b, d, rfl, hnodes, hsecond⟩⟩

theorem Rounds.forall_mem {language : Text → Prop} {least : Nat} {room : Option Nat}
    {p : Char → Prop} (h : Rounds language least room t)
    (hlanguage : ∀ s, language s → ∀ x ∈ s, p x) : ∀ x ∈ t, p x := by
  induction h with
  | done => simp
  | due hs _ ih => exact List.forall_mem_append.2 ⟨hlanguage _ hs, ih⟩
  | more _ _ hs _ ih => exact List.forall_mem_append.2 ⟨hlanguage _ hs, ih⟩

theorem Node.spells_many {set : CharSet} :
    (many set).Spells t ↔ ∀ x ∈ t, set.covers x = true := by
  constructor
  · intro h
    refine Rounds.forall_mem h ?_
    rintro _ ⟨x, rfl, hx⟩ y hy
    rwa [List.mem_singleton.1 hy]
  · intro h
    show Rounds (Node.one set).Spells 0 none t
    induction t with
    | nil => exact .done
    | cons x t ih =>
      rw [List.forall_mem_cons] at h
      have hone : (Node.one set).Spells [x] := ⟨x, rfl, h.1⟩
      exact .more (Option.some_ne_none 0).symm (List.cons_ne_nil x []) hone (ih h.2)

theorem CharSet.covers_iff {items : List CharItem} {rule : CaseRule} {x : Char} :
    (CharSet.mk items false rule).covers x = true ↔ ∃ item ∈ items, item.covers rule x = true := by
  simp [covers]

theorem CharItem.covers_code_iff {x y : Char} :
    (CharItem.code x.toNat).covers .exact y = true ↔ y = x := by
  simp [covers, CaseRule.variants, Char.toNat_inj, eq_comm]

theorem CharItem.covers_range_iff {low high : Nat} {x : Char} :
    (CharItem.range low high).covers .exact x = true ↔ low ≤ x.toNat ∧ x.toNat ≤ high := by
  simp [covers, CaseRule.variants]

theorem CharItem.covers_category_iff {kind : CharClass} {rule : CaseRule} {x : Char} :
    (CharItem.category kind false false).covers rule x = true ↔ kind.covers false x = true := by
  simp [covers]

theorem Node.spells_word {w : Text} : (ofList (word w)).Spells t ↔ t = w := by
  induction w generalizing t with
  | nil => rfl
  | cons x w ih =>
    have hone : ∀ a, (Reader.literal .none x.toNat).Spells a ↔ a = [x] := by
      intro a
      constructor
      · rintro ⟨y, rfl, hy⟩
        obtain ⟨_, hitem, hcovers⟩ := CharSet.covers_iff.1 hy
        obtain rfl := List.mem_singleton.1 hitem
        rw [CharItem.covers_code_iff.1 hcovers]
      · rintro rfl
        exact ⟨x, rfl, CharSet.covers_iff.2 ⟨_, List.mem_cons_self, CharItem.covers_code_iff.2 rfl⟩⟩
    have hword : word (x :: w) = Reader.literal .none x.toNat :: word w := rfl
    rw [hword, spells_ofList_cons]
    simp only [hone, ih]
    simp

end StubGraft.Pattern
