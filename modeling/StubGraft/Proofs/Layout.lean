import StubGraft.Proofs.Segments
import StubGraft.Proofs.Texts

/-!
# What a scan finds

The scanner passes one segment after the other.  This file says what it has found at the end,
in terms of the cut alone.

* `layout` — the file as it is rendered later: the first block of each name is a stub, every
  other line is copied.
* `entriesOf`, `spansFrom`, `singles`, `warnings` — the table, the spans, the lines outside of
  blocks and the warnings of a file.
* `Scan.adds_foldl` — the scan finds just these.
* `no_unbalanced_iff`, `no_duplicate_iff` — a scan without such a warning is one of a cut
  without unbalanced declarations, or with all names distinct.
-/

namespace StubGraft

/-! ## Stub tables and their entries -/

namespace StubTable

theorem ext_entries {a b : StubTable} (h : a.entries = b.entries) : a = b := by
  cases a
  cases b
  cases h
  rfl

theorem contains_iff {table : StubTable} {name : Text} :
    table.contains name = true ↔ name ∈ table.names :=
  (table.mem_names_iff name).symm

theorem set_of_not_mem {name : Text} {body : List Text} {entries : List (Text × List Text)}
    (h : name ∉ entries.map Prod.fst) : set name body entries = entries ++ [(name, body)] := by
  induction entries with
  | nil => rfl
  | cons entry rest ih =>
    simp only [List.map_cons, List.mem_cons, not_or] at h
    rw [set, if_neg fun he => h.1 he.symm, ih h.2]
    rfl

theorem entries_insert {table : StubTable} {name : Text} {body : List Text}
    (h : name ∉ table.names) :
    (table.insert name body).entries = table.entries ++ [(name, body)] :=
  set_of_not_mem h

theorem names_insert {table : StubTable} {name : Text} {body : List Text}
    (h : name ∉ table.names) : (table.insert name body).names = table.names ++ [name] := by
  rw [names, entries_insert h, List.map_append]
  rfl

theorem lookup_eq_some_iff {name : Text} {body : List Text} {entries : List (Text × List Text)}
    (hnodup : (entries.map Prod.fst).Nodup) :
    lookup name entries = some body ↔ (name, body) ∈ entries := by
  induction entries with
  | nil => simp [lookup]
  | cons entry rest ih =>
    obtain ⟨key, old⟩ := entry
    simp only [List.map_cons, List.nodup_cons] at hnodup
    by_cases hk : key = name
    · subst hk
      have hrest : (key, body) ∉ rest := fun hm => hnodup.1 (List.mem_map_of_mem hm)
      simp [lookup, hrest, eq_comm]
    · have hne : ¬ name = key := fun he => hk he.symm
      simp [lookup, hk, hne, ih hnodup.2]

/-- A name has a body exactly if the table lists them together. -/
theorem body?_eq_some_iff {table : StubTable} {name : Text} {body : List Text} :
    table.body? name = some body ↔ (name, body) ∈ table.entries :=
  lookup_eq_some_iff table.nodup

end StubTable

/-! ## The parts of a file -/

/-- A piece of a file, as it is rendered. -/
inductive Part where
  /-- A line that is copied. -/
  | copied (line : Text)
  /-- A stub: its declaring line, its body and its closing line. -/
  | stub (header : Text) (body : List Text) (closer : Text)
  deriving DecidableEq, Repr

/-- The lines of a part. -/
def Part.lines : Part → List Text
  | .copied line => [line]
  | .stub header body closer => header :: body ++ [closer]

/-- The name and the body of a stub. -/
def Part.entry? : Part → Option (Text × List Text)
  | .copied _ => none
  | .stub header body _ => some (stubName header, body)

/-- The lines of some parts. -/
def partLines (parts : List Part) : List Text := parts.flatMap Part.lines

@[simp] theorem partLines_nil : partLines [] = [] := rfl

@[simp] theorem partLines_cons (part : Part) (parts : List Part) :
    partLines (part :: parts) = part.lines ++ partLines parts := rfl

@[simp] theorem partLines_append (a b : List Part) :
    partLines (a ++ b) = partLines a ++ partLines b := by
  simp [partLines]

@[simp] theorem partLines_copied (lines : List Text) :
    partLines (lines.map .copied) = lines := by
  induction lines with
  | nil => rfl
  | cons line lines ih => simp [Part.lines, ih]

/-- The parts of some segments that follow stubs of the given names: a block of another name is a
stub, and all other lines are copied. -/
def layout (seen : List Text) : List Segment → List Part
  | [] => []
  | .plain line :: segs => .copied line :: layout seen segs
  | .unbalanced line :: segs => .copied line :: layout seen segs
  | .oneLine line :: segs => .copied line :: layout seen segs
  | .block header body closer :: segs =>
    if stubName header ∈ seen then
      (header :: body ++ [closer]).map .copied ++ layout seen segs
    else .stub header body closer :: layout (seen ++ [stubName header]) segs

/-- The parts of a file. -/
def layoutOf (convention : Convention) (lines : List Text) : List Part :=
  layout [] (segments convention lines)

theorem partLines_layout (seen : List Text) (segs : List Segment) :
    partLines (layout seen segs) = linesOf segs := by
  induction segs generalizing seen with
  | nil => rfl
  | cons seg segs ih =>
    cases seg with
    | plain line => simp [layout, Part.lines, Segment.lines, ih]
    | unbalanced line => simp [layout, Part.lines, Segment.lines, ih]
    | oneLine line => simp [layout, Part.lines, Segment.lines, ih]
    | block header body closer =>
      rw [layout]
      split
      · rw [partLines_append, partLines_copied, ih]
        rfl
      · rw [partLines_cons, ih]
        rfl

/-- The parts of a file hold all of its lines. -/
theorem partLines_layoutOf (convention : Convention) (lines : List Text) :
    partLines (layoutOf convention lines) = lines := by
  rw [layoutOf, partLines_layout, linesOf_segments]

/-- A stub of the layout is a block of the cut. -/
theorem block_mem_of_stub_mem {seen : List Text} {segs : List Segment} {header closer : Text}
    {body : List Text} (h : Part.stub header body closer ∈ layout seen segs) :
    Segment.block header body closer ∈ segs := by
  induction segs generalizing seen with
  | nil => simp [layout] at h
  | cons seg segs ih =>
    cases seg with
    | plain line => exact List.mem_cons_of_mem _ (ih (by simpa [layout] using h))
    | unbalanced line => exact List.mem_cons_of_mem _ (ih (by simpa [layout] using h))
    | oneLine line => exact List.mem_cons_of_mem _ (ih (by simpa [layout] using h))
    | block header' body' closer' =>
      rw [layout] at h
      split at h
      · exact List.mem_cons_of_mem _ (ih (by simpa using h))
      · rcases List.mem_cons.1 h with he | hm
        · cases he
          exact List.mem_cons_self
        · exact List.mem_cons_of_mem _ (ih hm)

/-! ## Tables, spans, single lines and warnings -/

/-- The names and bodies of the stubs. -/
def entriesOf (parts : List Part) : List (Text × List Text) := parts.filterMap Part.entry?

@[simp] theorem entriesOf_append (a b : List Part) :
    entriesOf (a ++ b) = entriesOf a ++ entriesOf b := by
  simp [entriesOf]

@[simp] theorem entriesOf_copied (lines : List Text) : entriesOf (lines.map .copied) = [] := by
  induction lines with
  | nil => rfl
  | cons line lines ih => exact ih

theorem mem_entriesOf {parts : List Part} {name : Text} {body : List Text} :
    (name, body) ∈ entriesOf parts ↔
      ∃ header closer, Part.stub header body closer ∈ parts ∧ stubName header = name := by
  simp only [entriesOf, List.mem_filterMap]
  constructor
  · rintro ⟨part, hpart, he⟩
    cases part with
    | copied line => simp [Part.entry?] at he
    | stub header body' closer =>
      simp only [Part.entry?, Option.some.injEq, Prod.mk.injEq] at he
      obtain ⟨rfl, rfl⟩ := he
      exact ⟨header, closer, hpart, rfl⟩
  · rintro ⟨header, closer, hpart, rfl⟩
    exact ⟨_, hpart, rfl⟩

/-- Where the stubs of some parts stand, when the first part starts at a position. -/
def spansFrom (position : Nat) : List Part → List Span
  | [] => []
  | .copied _ :: parts => spansFrom (position + 1) parts
  | .stub header body _ :: parts =>
    ⟨stubName header, position, position + body.length + 1⟩ ::
      spansFrom (position + body.length + 2) parts

theorem spansFrom_append (position : Nat) (a b : List Part) :
    spansFrom position (a ++ b) =
      spansFrom position a ++ spansFrom (position + (partLines a).length) b := by
  induction a generalizing position with
  | nil => simp [spansFrom]
  | cons part parts ih =>
    cases part with
    | copied line =>
      have hlen : position + 1 + (partLines parts).length =
          position + (partLines (.copied line :: parts)).length := by
        simp [Part.lines]
        omega
      simp only [List.cons_append, spansFrom, ih, hlen]
    | stub header body closer =>
      have hlen : position + body.length + 2 + (partLines parts).length =
          position + (partLines (.stub header body closer :: parts)).length := by
        simp [Part.lines]
        omega
      simp only [List.cons_append, spansFrom, ih, hlen]

@[simp] theorem spansFrom_copied (position : Nat) (lines : List Text) :
    spansFrom position (lines.map .copied) = [] := by
  induction lines generalizing position with
  | nil => rfl
  | cons line lines ih => exact ih (position + 1)

/-- A span lies within its parts, and its closing line comes after its declaring line. -/
theorem spansFrom_bounds {position : Nat} {parts : List Part} {span : Span}
    (h : span ∈ spansFrom position parts) :
    position ≤ span.first ∧ span.first < span.last ∧
      span.last < position + (partLines parts).length := by
  induction parts generalizing position with
  | nil => simp [spansFrom] at h
  | cons part parts ih =>
    cases part with
    | copied line =>
      have := ih h
      simp only [partLines_cons, Part.lines, List.length_append, List.length_singleton]
      omega
    | stub header body closer =>
      simp only [partLines_cons, Part.lines, List.length_append, List.length_cons]
      rcases List.mem_cons.1 h with rfl | hmem
      · simp only
        omega
      · have := ih hmem
        omega

/-- The line of a segment that is no block. -/
def Segment.single? : Segment → Option Text
  | .plain line => some line
  | .unbalanced line => some line
  | .oneLine line => some line
  | .block .. => none

/-- The lines outside of blocks. -/
def singles (segs : List Segment) : List Text := segs.filterMap Segment.single?

@[simp] theorem singles_append (a b : List Segment) :
    singles (a ++ b) = singles a ++ singles b := by
  simp [singles]

/-- The warnings about some segments that follow stubs of the given names, when the first segment
starts at a position. -/
def warnings (seen : List Text) (position : Nat) : List Segment → List Event
  | [] => []
  | .plain _ :: segs => warnings seen (position + 1) segs
  | .unbalanced _ :: segs =>
    .unbalancedStub (position + 1) :: warnings seen (position + 1) segs
  | .oneLine line :: segs =>
    .oneLineStub (stubName line) (position + 1) :: warnings seen (position + 1) segs
  | .block header body _ :: segs =>
    if stubName header ∈ seen then
      .duplicateStub (stubName header) (position + 1) ::
        warnings seen (position + body.length + 2) segs
    else warnings (seen ++ [stubName header]) (position + body.length + 2) segs

/-! ## The scan finds them -/

/-- What passing some segments adds to a scan. -/
structure Scan.Adds (convention : Convention) (before : Scan) (segs : List Segment)
    (after : Scan) : Prop where
  /-- All lines are passed. -/
  position : after.position = before.position + (linesOf segs).length
  /-- The new stubs are recorded. -/
  entries : after.stubs.entries =
    before.stubs.entries ++ entriesOf (layout before.stubs.names segs)
  /-- So are their spans. -/
  spans : after.spans =
    before.spans ++ spansFrom before.position (layout before.stubs.names segs)
  /-- The single lines with the marker are imports. -/
  imports : after.imports =
    ((singles segs).filter convention.isImport).foldl Text.addNew before.imports
  /-- The warnings are reported. -/
  events : after.events = before.events ++ warnings before.stubs.names before.position segs

theorem Scan.add_line (convention : Convention) (before : Scan) (line : Text) :
    (before.addLine convention line).imports =
      ([line].filter convention.isImport).foldl Text.addNew before.imports := by
  by_cases hi : convention.isImport line = true <;> simp [Scan.addLine, hi]

/-- A block of a known name leaves a warning and nothing else. -/
theorem Scan.add_known_block (convention : Convention) {before : Scan} {header : Text}
    (h : stubName header ∈ before.stubs.names) (body : List Text) (closer : Text) :
    before.add convention (.block header body closer) =
      ⟨before.position + body.length + 2, before.stubs, before.spans, before.imports,
        before.events ++ [.duplicateStub (stubName header) (before.position + 1)]⟩ := by
  simp only [Scan.add, Scan.addBlock]
  rw [if_pos (StubTable.contains_iff.2 h)]
  rfl

/-- A block of a new name is recorded with its span. -/
theorem Scan.add_new_block (convention : Convention) {before : Scan} {header : Text}
    (h : stubName header ∉ before.stubs.names) (body : List Text) (closer : Text) :
    before.add convention (.block header body closer) =
      ⟨before.position + body.length + 2, before.stubs.insert (stubName header) body,
        before.spans ++
          [⟨stubName header, before.position, before.position + body.length + 1⟩],
        before.imports, before.events⟩ := by
  simp only [Scan.add, Scan.addBlock]
  rw [if_neg fun hc => h (StubTable.contains_iff.1 hc)]

/-- Passing one segment after another. -/
theorem Scan.adds_foldl (convention : Convention) (segs : List Segment) (before : Scan) :
    before.Adds convention segs (segs.foldl (Scan.add convention) before) := by
  induction segs generalizing before with
  | nil => exact ⟨by simp, by simp [layout, entriesOf], by simp [layout, spansFrom], rfl,
      by simp [warnings]⟩
  | cons seg segs ih =>
    have next := ih (before.add convention seg)
    rw [List.foldl_cons]
    cases seg with
    | plain line =>
      refine ⟨?_, next.entries, next.spans, ?_, next.events⟩
      · rw [next.position, linesOf_cons, List.length_append]
        exact Nat.add_assoc ..
      · rw [next.imports, Scan.add, Scan.add_line, ← List.foldl_append, ← List.filter_append]
        rfl
    | unbalanced line =>
      refine ⟨?_, next.entries, next.spans, ?_, ?_⟩
      · rw [next.position, linesOf_cons, List.length_append]
        exact Nat.add_assoc ..
      · rw [next.imports, Scan.add, Scan.add_line, ← List.foldl_append, ← List.filter_append]
        rfl
      · rw [next.events, warnings]
        exact List.append_assoc ..
    | oneLine line =>
      refine ⟨?_, next.entries, next.spans, ?_, ?_⟩
      · rw [next.position, linesOf_cons, List.length_append]
        exact Nat.add_assoc ..
      · rw [next.imports, Scan.add, Scan.add_line, ← List.foldl_append, ← List.filter_append]
        rfl
      · rw [next.events, warnings]
        exact List.append_assoc ..
    | block header body closer =>
      have hlen : before.position + (linesOf (.block header body closer :: segs)).length =
          before.position + body.length + 2 + (linesOf segs).length := by
        simp only [linesOf_cons, Segment.lines, List.length_append, List.length_cons,
          List.length_nil]
        omega
      have hcopied : before.position + (header :: body ++ [closer]).length =
          before.position + body.length + 2 := by
        simp only [List.length_append, List.length_cons, List.length_nil]
        omega
      by_cases hc : stubName header ∈ before.stubs.names
      · rw [Scan.add_known_block convention hc] at next ⊢
        refine ⟨next.position.trans hlen.symm, ?_, ?_, next.imports, ?_⟩
        · rw [next.entries, layout, if_pos hc, entriesOf_append, entriesOf_copied]
          rfl
        · rw [next.spans, layout, if_pos hc, spansFrom_append, spansFrom_copied,
            partLines_copied, hcopied]
          rfl
        · rw [next.events, warnings, if_pos hc]
          exact List.append_assoc ..
      · rw [Scan.add_new_block convention hc] at next ⊢
        refine ⟨next.position.trans hlen.symm, ?_, ?_, next.imports, ?_⟩
        · rw [next.entries, layout, if_neg hc, StubTable.entries_insert hc,
            StubTable.names_insert hc, List.append_assoc]
          rfl
        · rw [next.spans, layout, if_neg hc, StubTable.names_insert hc, List.append_assoc]
          rfl
        · rw [next.events, warnings, if_neg hc, StubTable.names_insert hc]

variable {convention : Convention} {lines : List Text}

theorem scanLines_entries : (scanLines convention lines).1.stubs.entries =
    entriesOf (layoutOf convention lines) :=
  (Scan.adds_foldl convention (segments convention lines) Scan.start).entries

theorem scanLines_spans : (scanLines convention lines).1.spans =
    spansFrom 0 (layoutOf convention lines) :=
  (Scan.adds_foldl convention (segments convention lines) Scan.start).spans

theorem scanLines_imports : (scanLines convention lines).1.imports =
    Text.distinct ((singles (segments convention lines)).filter convention.isImport) :=
  (Scan.adds_foldl convention (segments convention lines) Scan.start).imports

theorem scanLines_events : (scanLines convention lines).2 =
    warnings [] 0 (segments convention lines) ++
      [.scanned (scanLines convention lines).1.stubs.size
        (scanLines convention lines).1.imports.length lines.length] :=
  congrArg (· ++ [_])
    (Scan.adds_foldl convention (segments convention lines) Scan.start).events

/-! ## Import lines -/

/-- The imports are the lines outside of blocks with the marker. -/
theorem mem_scanLines_imports {line : Text} :
    line ∈ (scanLines convention lines).1.imports ↔
      line ∈ singles (segments convention lines) ∧ convention.isImport line = true := by
  rw [scanLines_imports, Text.mem_distinct, List.mem_filter]

theorem mem_linesOf_of_mem_singles {segs : List Segment} {line : Text} (h : line ∈ singles segs) :
    line ∈ linesOf segs := by
  obtain ⟨seg, hseg, hline⟩ := List.mem_filterMap.1 h
  refine mem_linesOf.2 ⟨seg, hseg, ?_⟩
  cases seg <;> simp_all [Segment.single?, Segment.lines]

theorem mem_lines_of_mem_imports {line : Text}
    (h : line ∈ (scanLines convention lines).1.imports) : line ∈ lines := by
  have := mem_linesOf_of_mem_singles (mem_scanLines_imports.1 h).1
  rwa [linesOf_segments] at this

/-! ## Scans without warnings -/

/-- The name of a block. -/
def Segment.name? : Segment → Option Text
  | .block header _ _ => some (stubName header)
  | _ => none

/-- The names of the blocks. -/
def blockNames (segs : List Segment) : List Text := segs.filterMap Segment.name?

@[simp] theorem blockNames_append (a b : List Segment) :
    blockNames (a ++ b) = blockNames a ++ blockNames b := by
  simp [blockNames]

theorem warnings_no_unbalanced_iff {seen : List Text} {position : Nat} {segs : List Segment} :
    (∀ line, .unbalancedStub line ∉ warnings seen position segs) ↔
      ∀ line, .unbalanced line ∉ segs := by
  induction segs generalizing seen position with
  | nil => simp [warnings]
  | cons seg segs ih =>
    cases seg with
    | plain line => simpa [warnings] using ih
    | unbalanced line =>
      constructor
      · intro h
        exact absurd (by simp [warnings]) (h (position + 1))
      · intro h
        exact absurd (by simp) (h line)
    | oneLine line => simpa [warnings] using ih
    | block header body closer =>
      rw [warnings]
      split
      · simpa using ih
      · simpa using ih

theorem warnings_no_duplicate_iff {seen : List Text} {position : Nat} {segs : List Segment} :
    (∀ name line, .duplicateStub name line ∉ warnings seen position segs) ↔
      (∀ name ∈ blockNames segs, name ∉ seen) ∧ (blockNames segs).Nodup := by
  induction segs generalizing seen position with
  | nil => simp [warnings, blockNames]
  | cons seg segs ih =>
    cases seg with
    | plain line => exact ih
    | unbalanced line =>
      show _ ↔ (∀ name ∈ blockNames segs, name ∉ seen) ∧ (blockNames segs).Nodup
      simpa [warnings] using ih
    | oneLine line =>
      show _ ↔ (∀ name ∈ blockNames segs, name ∉ seen) ∧ (blockNames segs).Nodup
      simpa [warnings] using ih
    | block header body closer =>
      have hnames : blockNames (.block header body closer :: segs) =
          stubName header :: blockNames segs := rfl
      rw [warnings, hnames]
      split
      · rename_i hc
        constructor
        · intro h
          exact absurd (by simp) (h (stubName header) (position + 1))
        · rintro ⟨h, -⟩
          exact absurd hc (h (stubName header) (by simp))
      · rename_i hc
        rw [ih, List.nodup_cons]
        constructor
        · rintro ⟨h, hnodup⟩
          refine ⟨?_, fun hm => h _ hm (by simp), hnodup⟩
          intro name hname
          rcases List.mem_cons.1 hname with rfl | hm
          · exact hc
          · exact fun hs => h name hm (by simp [hs])
        · rintro ⟨h, hne, hnodup⟩
          refine ⟨?_, hnodup⟩
          intro name hm hs
          rcases List.mem_append.1 hs with hs | hs
          · exact h name (by simp [hm]) hs
          · rw [List.mem_singleton.1 hs] at hm
            exact hne hm

/-- A scan without a warning of unbalanced braces is one without unbalanced declarations. -/
theorem no_unbalanced_iff :
    (∀ line, .unbalancedStub line ∉ (scanLines convention lines).2) ↔
      ∀ line, .unbalanced line ∉ segments convention lines := by
  have h := @warnings_no_unbalanced_iff [] 0 (segments convention lines)
  rw [scanLines_events]
  simpa using h

/-- A scan without a warning of duplicates is one of blocks with distinct names. -/
theorem no_duplicate_iff :
    (∀ name line, .duplicateStub name line ∉ (scanLines convention lines).2) ↔
      (blockNames (segments convention lines)).Nodup := by
  have h := @warnings_no_duplicate_iff [] 0 (segments convention lines)
  rw [scanLines_events]
  simpa using h

end StubGraft
