import StubGraft.Text.Utf8
import Mathlib.Data.List.Induction
import Mathlib.Data.List.Nodup

/-!
# Texts and lists of texts

Facts about the functions on texts that say nothing of visitors yet: the pieces between separators,
where a text occurs in another, and the distinct ones among several texts.

* `Text.pieces_append_cons` — the pieces of two texts with a separator between them.
* `Text.occursIn_iff` — to occur is to be an infix.
* `Text.mem_distinct`, `Text.nodup_distinct`, `Text.distinct_append` — the distinct texts of a list.
-/

namespace StubGraft.Text

/-! ## Pieces -/

theorem pieces_ne_nil (sep : Char) (t : Text) : pieces sep t ≠ [] := by
  cases t with
  | nil => simp [pieces]
  | cons c t =>
    rw [pieces]
    split
    · simp
    · split <;> simp

/-- A separator between two texts separates their pieces. -/
theorem pieces_append_cons (sep : Char) (a b : Text) :
    pieces sep (a ++ sep :: b) = pieces sep a ++ pieces sep b := by
  induction a with
  | nil => simp [pieces]
  | cons c a ih =>
    rw [List.cons_append, pieces, pieces, ih]
    split
    · rfl
    · cases hpieces : pieces sep a with
      | nil => exact absurd hpieces (pieces_ne_nil sep a)
      | cons piece more => rfl

/-- Every character but the separator is in a piece. -/
theorem exists_piece {sep c : Char} {t : Text} (hc : c ∈ t) (hne : c ≠ sep) :
    ∃ piece ∈ pieces sep t, c ∈ piece := by
  induction t with
  | nil => simp at hc
  | cons d t ih =>
    rw [pieces]
    by_cases hd : d = sep
    · rw [if_pos hd]
      have hc : c ∈ t := (List.mem_cons.1 hc).resolve_left fun he => hne (he.trans hd)
      obtain ⟨piece, hpiece, hmem⟩ := ih hc
      exact ⟨piece, List.mem_cons_of_mem _ hpiece, hmem⟩
    · rw [if_neg hd]
      cases hpieces : pieces sep t with
      | nil => exact absurd hpieces (pieces_ne_nil sep t)
      | cons first more =>
        rw [hpieces] at ih
        rcases List.mem_cons.1 hc with rfl | hc
        · exact ⟨_, List.mem_cons_self, List.mem_cons_self⟩
        · obtain ⟨piece, hpiece, hmem⟩ := ih hc
          rcases List.mem_cons.1 hpiece with rfl | hpiece
          · exact ⟨_, List.mem_cons_self, List.mem_cons_of_mem _ hmem⟩
          · exact ⟨piece, List.mem_cons_of_mem _ hpiece, hmem⟩

theorem pieces_of_not_mem {sep : Char} {t : Text} (h : sep ∉ t) : pieces sep t = [t] := by
  induction t with
  | nil => rfl
  | cons c t ih =>
    rw [List.mem_cons, not_or] at h
    rw [pieces, if_neg (Ne.symm h.1), ih h.2]

theorem not_mem_of_mem_pieces {sep : Char} {t piece : Text} (h : piece ∈ pieces sep t) :
    sep ∉ piece := by
  induction t generalizing piece with
  | nil => simp_all [pieces]
  | cons c t ih =>
    rw [pieces] at h
    split at h
    · rcases List.mem_cons.1 h with rfl | h
      · exact List.not_mem_nil
      · exact ih h
    · rename_i hc
      split at h
      · rename_i hnil
        exact absurd hnil (pieces_ne_nil sep t)
      · rename_i first more hpieces
        rw [hpieces] at ih
        rcases List.mem_cons.1 h with rfl | h
        · rw [List.mem_cons, not_or]
          exact ⟨Ne.symm hc, ih List.mem_cons_self⟩
        · exact ih (List.mem_cons_of_mem _ h)

theorem join_append_singleton (sep : Text) {parts : List Text} (h : parts ≠ []) (last : Text) :
    join sep (parts ++ [last]) = join sep parts ++ sep ++ last := by
  induction parts with
  | nil => exact absurd rfl h
  | cons part parts ih =>
    cases parts with
    | nil => rfl
    | cons next parts =>
      have hjoin : ∀ rest, join sep (part :: next :: rest) =
          part ++ sep ++ join sep (next :: rest) := fun _ => rfl
      rw [List.cons_append, List.cons_append, hjoin, hjoin, ← List.cons_append, ih (by simp)]
      simp only [List.append_assoc]

/-! ## Occurrences -/

/-- A text occurs in another one exactly if it stands somewhere in it. -/
theorem occursIn_iff {needle t : Text} : occursIn needle t = true ↔ needle <:+: t := by
  induction t with
  | nil => simp [occursIn]
  | cons c r ih =>
    rw [occursIn, Bool.or_eq_true, ih, List.isPrefixOf_iff_prefix, List.infix_cons_iff]

theorem splitLast?_eq_some {c : Char} {t before after : Text}
    (h : splitLast? c t = some (before, after)) : t = before ++ c :: after := by
  induction t generalizing before with
  | nil => cases h
  | cons d t ih =>
    rw [splitLast?] at h
    split at h
    · rename_i before' after' hrest
      cases h
      rw [List.cons_append, ← ih hrest]
    · split at h
      · rename_i hd
        cases h
        rw [hd, List.nil_append]
      · cases h

/-! ## Lengths -/

theorem foldl_utf8Size (t : Text) (n : Nat) :
    t.foldl (fun n c => n + c.utf8Size) n = n + byteLength t := by
  rw [byteLength]
  induction t generalizing n with
  | nil => rfl
  | cons c t ih =>
    rw [List.foldl_cons, List.foldl_cons, ih, ih (0 + c.utf8Size)]
    omega

theorem byteLength_append (a b : Text) : byteLength (a ++ b) = byteLength a + byteLength b := by
  rw [byteLength, List.foldl_append, foldl_utf8Size, ← byteLength]

/-! ## Distinct texts -/

variable {ts acc : List Text}

theorem mem_addNew {t u : Text} :
    u ∈ addNew ts t ↔ u ∈ ts ∨ u = t := by
  rw [addNew]
  split
  · rename_i ht
    exact ⟨Or.inl, fun h => h.elim id fun he => he ▸ ht⟩
  · simp

theorem mem_foldl_addNew {u : Text} :
    u ∈ ts.foldl addNew acc ↔ u ∈ acc ∨ u ∈ ts := by
  induction ts generalizing acc with
  | nil => simp
  | cons t ts ih => rw [List.foldl_cons, ih, mem_addNew, List.mem_cons, or_assoc]

theorem mem_distinct {u : Text} : u ∈ distinct ts ↔ u ∈ ts := by
  rw [distinct, mem_foldl_addNew]
  simp

theorem filter_addNew (p : Text → Bool) (ts : List Text) (t : Text) :
    (addNew ts t).filter p = ([t].filter p).foldl addNew (ts.filter p) := by
  by_cases hp : p t = true
  · by_cases ht : t ∈ ts
    · simp [addNew, ht, hp]
    · simp [addNew, ht, hp]
  · by_cases ht : t ∈ ts
    · simp [addNew, ht, hp]
    · simp [addNew, ht, hp]

theorem filter_foldl_addNew (p : Text → Bool) (ts acc : List Text) :
    (ts.foldl addNew acc).filter p = (ts.filter p).foldl addNew (acc.filter p) := by
  induction ts generalizing acc with
  | nil => rfl
  | cons t ts ih =>
    have hcons : (t :: ts).filter p = [t].filter p ++ ts.filter p := by
      rw [← List.filter_append, List.singleton_append]
    rw [List.foldl_cons, ih, filter_addNew, hcons, List.foldl_append]

/-- Texts may be left out before or after equal ones are. -/
theorem filter_distinct (p : Text → Bool) (ts : List Text) :
    (distinct ts).filter p = distinct (ts.filter p) :=
  filter_foldl_addNew p ts []

theorem nodup_foldl_addNew (h : acc.Nodup) : (ts.foldl addNew acc).Nodup := by
  induction ts generalizing acc with
  | nil => exact h
  | cons t ts ih =>
    rw [List.foldl_cons]
    apply ih
    by_cases ht : t ∈ acc
    · simpa [addNew, ht] using h
    · simp only [addNew, ht, if_false]
      rw [List.nodup_append]
      refine ⟨h, by simp, ?_⟩
      rintro a ha b hb rfl
      exact ht (List.mem_singleton.1 hb ▸ ha)

theorem nodup_distinct (ts : List Text) : (distinct ts).Nodup :=
  nodup_foldl_addNew List.nodup_nil

theorem foldl_addNew_of_nodup (h : (acc ++ ts).Nodup) : ts.foldl addNew acc = acc ++ ts := by
  induction ts generalizing acc with
  | nil => simp
  | cons t ts ih =>
    have hsplit : acc ++ t :: ts = (acc ++ [t]) ++ ts := by simp
    have ht : t ∉ acc := by
      intro hmem
      have hdisjoint := (List.nodup_append.1 h).2.2
      exact hdisjoint t hmem t List.mem_cons_self rfl
    rw [hsplit] at h ⊢
    rw [List.foldl_cons, addNew, if_neg ht, ih h]

/-- Distinct texts are left as they are. -/
theorem distinct_of_nodup (h : ts.Nodup) : distinct ts = ts :=
  @foldl_addNew_of_nodup ts [] h

/-- The distinct texts of a list are its first occurrences. -/
theorem distinct_eq_eraseDups (ts : List Text) : distinct ts = ts.eraseDups := by
  induction ts using List.reverseRecOn with
  | nil => rfl
  | append_singleton ts t ih =>
    have hstep : distinct (ts ++ [t]) = addNew (distinct ts) t := by
      simp [distinct]
    rw [hstep, List.eraseDups_append, ← ih, addNew]
    by_cases ht : t ∈ ts
    · rw [if_pos (mem_distinct.2 ht)]
      simp [List.removeAll, ht]
    · rw [if_neg fun hm => ht (mem_distinct.1 hm)]
      simp [List.removeAll, ht, List.eraseDups_cons]

/-- The distinct texts of two lists are those of the first and then the new ones of the second. -/
theorem distinct_append (a b : List Text) :
    distinct (a ++ b) = distinct a ++ (distinct b).filter (· ∉ a) := by
  have hremove : b.removeAll a = b.filter (· ∉ a) := by
    simp [List.removeAll]
  rw [distinct_eq_eraseDups, List.eraseDups_append, ← distinct_eq_eraseDups,
    ← distinct_eq_eraseDups, hremove, filter_distinct]

end StubGraft.Text
