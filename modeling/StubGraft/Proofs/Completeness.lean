import StubGraft.Proofs.Outside
import Mathlib.Data.List.Infix

/-!
# All that a scan finds

A file is cut by line numbers here, without the scanner: a declaration that is closed at a line
below its own starts a block, every other line stands alone, and the cut goes on behind each of
them.  There is exactly one such cut, and a scan finds what it holds and nothing else.

* `CutFrom` — the cut of a file from an index on.
* `CutFrom.unique`, `cutFrom_piecesFrom` — it exists and is the only one.
* `Finds` — a model and its events, read off the cut.
* `scan_finds_cut` — every scan finds what the one cut of its text holds.
-/

namespace StubGraft

/-! ## The cut of a file -/

/-- The declaration at an index is closed at a line below it. -/
def BlockAt (convention : Convention) (lines : List Text) (first last : Nat) : Prop :=
  (∃ header, lines[first]? = some header ∧ convention.declares header = true) ∧
    Braces.closing? lines first = some last ∧ first < last

/-- A piece of a file, by the indices of its lines. -/
inductive Piece where
  /-- A line that stands alone. -/
  | single (index : Nat)
  /-- The lines from a declaration to its closing line. -/
  | block (first last : Nat)
  deriving DecidableEq, Repr

/-- The pieces into which a file is cut from an index on. -/
inductive CutFrom (convention : Convention) (lines : List Text) : Nat → List Piece → Prop
  /-- Behind the last line nothing is left. -/
  | done : CutFrom convention lines lines.length []
  /-- A line where no block starts stands alone. -/
  | single {index : Nat} {pieces : List Piece} (inside : index < lines.length)
      (alone : ∀ last, ¬ BlockAt convention lines index last)
      (rest : CutFrom convention lines (index + 1) pieces) :
      CutFrom convention lines index (.single index :: pieces)
  /-- A block is cut off whole. -/
  | block {first last : Nat} {pieces : List Piece} (found : BlockAt convention lines first last)
      (rest : CutFrom convention lines (last + 1) pieces) :
      CutFrom convention lines first (.block first last :: pieces)

theorem BlockAt.lt_length {convention : Convention} {lines : List Text} {first last : Nat}
    (h : BlockAt convention lines first last) : first < lines.length := by
  obtain ⟨⟨header, hline, -⟩, -⟩ := h
  exact (List.getElem?_eq_some_iff.1 hline).1

theorem BlockAt.last_unique {convention : Convention} {lines : List Text} {first last last' : Nat}
    (h : BlockAt convention lines first last) (h' : BlockAt convention lines first last') :
    last = last' :=
  Option.some.inj (h.2.1.symm.trans h'.2.1)

/-- There is no second way to cut a file. -/
theorem CutFrom.unique {convention : Convention} {lines : List Text} {index : Nat}
    {pieces others : List Piece} (h : CutFrom convention lines index pieces)
    (h' : CutFrom convention lines index others) : pieces = others := by
  induction h generalizing others with
  | done =>
    cases h' with
    | done => rfl
    | single inside => exact absurd inside (Nat.lt_irrefl _)
    | block found => exact absurd found.lt_length (Nat.lt_irrefl _)
  | single inside alone _ ih =>
    cases h' with
    | done => exact absurd inside (Nat.lt_irrefl _)
    | single _ _ rest => rw [ih rest]
    | block found => exact absurd found (alone _)
  | block found _ ih =>
    cases h' with
    | done => exact absurd found.lt_length (Nat.lt_irrefl _)
    | single _ alone => exact absurd found (alone _)
    | block found' rest =>
      obtain rfl := found.last_unique found'
      rw [ih rest]

/-! ## What a cut holds -/

/-- The span of a block. -/
def Piece.span? (lines : List Text) : Piece → Option Span
  | .single _ => none
  | .block first last => some ⟨stubName (lines.getD first []), first, last⟩

/-- The line that stands alone. -/
def Piece.line? (lines : List Text) : Piece → Option Text
  | .single index => lines[index]?
  | .block .. => none

/-- The blocks of a cut. -/
def blocksOf (lines : List Text) (pieces : List Piece) : List Span :=
  pieces.filterMap (Piece.span? lines)

/-- No block of the same name stands above a block. -/
def Span.IsFirst (blocks : List Span) (span : Span) : Prop :=
  ∀ other ∈ blocks, other.name = span.name → span.first ≤ other.first

instance (blocks : List Span) (span : Span) : Decidable (span.IsFirst blocks) := by
  unfold Span.IsFirst
  infer_instance

/-- What is odd about a piece: a declaration that stands alone because it is never closed, or
closed on its own line, and a block that is not the first one of its name. -/
def Piece.warning? (convention : Convention) (lines : List Text) (blocks : List Span) :
    Piece → Option Event
  | .single index =>
    if convention.declares (lines.getD index []) then
      match Braces.closing? lines index with
      | none => some (.unbalancedStub (index + 1))
      | some _ => some (.oneLineStub (stubName (lines.getD index [])) (index + 1))
    else none
  | .block first last =>
    let span : Span := ⟨stubName (lines.getD first []), first, last⟩
    if span.IsFirst blocks then none else some (.duplicateStub span.name (first + 1))

/-- The warnings about a cut, in the order of the lines. -/
def cutWarnings (convention : Convention) (lines : List Text) (pieces : List Piece) : List Event :=
  pieces.filterMap (Piece.warning? convention lines (blocksOf lines pieces))

theorem level_of_mem_cutWarnings {convention : Convention} {lines : List Text}
    {pieces : List Piece} {event : Event} (h : event ∈ cutWarnings convention lines pieces) :
    event.level = .warning := by
  obtain ⟨piece, -, hevent⟩ := List.mem_filterMap.1 h
  cases piece with
  | single index =>
    rw [Piece.warning?] at hevent
    split at hevent
    · split at hevent <;> cases hevent <;> rfl
    · cases hevent
  | block first last =>
    simp only [Piece.warning?] at hevent
    split at hevent
    · cases hevent
    · cases hevent
      rfl

/-- A model and its events are what a cut of the lines holds. -/
structure Finds (convention : Convention) (lines : List Text) (pieces : List Piece) (model : Model)
    (events : List Event) : Prop where
  /-- The stubs stand where the first block of each name does. -/
  spans : model.spans = (blocksOf lines pieces).filter (·.IsFirst (blocksOf lines pieces))
  /-- Each of them has the lines inside of its block. -/
  entries : model.stubs.entries =
    model.spans.map fun span => (span.name, lines.extract (span.first + 1) span.last)
  /-- The imports are the lines that stand alone and have the marker, each where it is first. -/
  imports : model.imports =
    ((pieces.filterMap (Piece.line? lines)).filter (convention.marker <:+: ·)).eraseDups
  /-- The warnings are those about the cut. -/
  warnings : events.filter (·.level = .warning) = cutWarnings convention lines pieces
  /-- Nothing else happens but that the scan ends. -/
  events : events = cutWarnings convention lines pieces ++
    [.scanned model.stubs.size model.imports.length lines.length]

/-! ## The pieces of the segments -/

/-- The piece that a segment is when it starts at an index. -/
def Segment.pieceAt (index : Nat) : Segment → Piece
  | .plain _ => .single index
  | .unbalanced _ => .single index
  | .oneLine _ => .single index
  | .block _ body _ => .block index (index + body.length + 1)

/-- The pieces that some segments are when the first starts at an index. -/
def piecesFrom (index : Nat) : List Segment → List Piece
  | [] => []
  | seg :: segs => seg.pieceAt index :: piecesFrom (index + seg.lines.length) segs

section Cut

variable {convention : Convention} {lines : List Text} {before after : List Segment}

/-- What the lines say at the start of a segment. -/
theorem Segment.StartsAt.reads {seg : Segment} {index : Nat}
    (h : seg.StartsAt (segments convention lines) index) :
    match seg with
    | .plain line => lines[index]? = some line ∧ convention.declares line = false
    | .unbalanced line => lines[index]? = some line ∧ convention.declares line = true ∧
      Braces.closing? lines index = none
    | .oneLine line => lines[index]? = some line ∧ convention.declares line = true ∧
      Braces.closing? lines index = some index
    | .block header body _ => lines[index]? = some header ∧ convention.declares header = true ∧
      Braces.closing? lines index = some (index + body.length + 1) := by
  obtain ⟨rest, -, hfits⟩ := h.drop
  have hline := h.head?.symm
  cases seg with
  | plain line => exact ⟨hline, hfits⟩
  | unbalanced line => exact ⟨hline, hfits.1, (h.closing? hline hfits.1).2⟩
  | oneLine line => exact ⟨hline, hfits.1, (h.closing? hline hfits.1).2⟩
  | block header body closer => exact ⟨hline, hfits.1, (h.closing? hline hfits.1).2⟩

/-- A segment that is no block stands where no block starts. -/
theorem Segment.StartsAt.not_blockAt {seg : Segment} {index last : Nat}
    (h : seg.StartsAt (segments convention lines) index) (hblock : ∀ header body closer,
      seg ≠ .block header body closer) : ¬ BlockAt convention lines index last := by
  rintro ⟨⟨header, hline, hdeclares⟩, hclosing, hlt⟩
  have hseg := h.closing? hline hdeclares
  cases seg with
  | plain line => exact hseg
  | unbalanced line => exact absurd (hseg.2.symm.trans hclosing) (by simp)
  | oneLine line =>
    have := Option.some.inj (hseg.2.symm.trans hclosing)
    omega
  | block header body closer => exact hblock header body closer rfl

/-- The segments are a cut, from any of them on. -/
theorem cutFrom_piecesFrom (h : segments convention lines = before ++ after) :
    CutFrom convention lines (linesOf before).length
      (piecesFrom (linesOf before).length after) := by
  induction after generalizing before with
  | nil =>
    have hend : (linesOf before).length = lines.length := by
      rw [← linesOf_segments convention lines, h, List.append_nil]
    rw [hend]
    exact .done
  | cons seg after ih =>
    have hrest := @ih (before ++ [seg]) (by simpa using h)
    have hstart : seg.StartsAt (segments convention lines) (linesOf before).length :=
      ⟨before, after, h, rfl⟩
    have hreads := hstart.reads
    simp only [linesOf_append, linesOf_cons, linesOf_nil, List.append_nil, List.length_append]
      at hrest
    cases seg with
    | plain line =>
      exact .single (List.getElem?_eq_some_iff.1 hreads.1).1
        (fun _ => hstart.not_blockAt (by simp)) hrest
    | unbalanced line =>
      exact .single (List.getElem?_eq_some_iff.1 hreads.1).1
        (fun _ => hstart.not_blockAt (by simp)) hrest
    | oneLine line =>
      exact .single (List.getElem?_eq_some_iff.1 hreads.1).1
        (fun _ => hstart.not_blockAt (by simp)) hrest
    | block header body closer =>
      obtain ⟨hline, hdeclares, hclosing⟩ := hreads
      refine .block ⟨⟨header, hline, hdeclares⟩, hclosing, by omega⟩ ?_
      simpa [Segment.lines, Nat.add_assoc] using hrest

end Cut

/-! ## First blocks -/

/-- A segment as a part, with every block a stub. -/
def Segment.part : Segment → Part
  | .plain line => .copied line
  | .unbalanced line => .copied line
  | .oneLine line => .copied line
  | .block header body closer => .stub header body closer

theorem Segment.lines_part (seg : Segment) : seg.part.lines = seg.lines := by
  cases seg <;> rfl

theorem partLines_map_part (segs : List Segment) :
    partLines (segs.map Segment.part) = linesOf segs := by
  induction segs with
  | nil => rfl
  | cons seg segs ih => rw [List.map_cons, partLines_cons, ih, seg.lines_part, linesOf_cons]

/-- Where the blocks of some segments stand, when the first segment starts at an index. -/
def blocksFrom (index : Nat) (segs : List Segment) : List Span :=
  spansFrom index (segs.map Segment.part)

theorem blocksFrom_append (index : Nat) (a b : List Segment) :
    blocksFrom index (a ++ b) =
      blocksFrom index a ++ blocksFrom (index + (linesOf a).length) b := by
  rw [blocksFrom, List.map_append, spansFrom_append, partLines_map_part]
  rfl

theorem map_name_blocksFrom (index : Nat) (segs : List Segment) :
    (blocksFrom index segs).map Span.name = blockNames segs := by
  rw [blocksFrom, map_name_spansFrom, entriesOf, List.filterMap_map, List.map_filterMap, blockNames]
  refine List.filterMap_congr fun seg _ => ?_
  cases seg <;> rfl

/-- A block is the first one of its name exactly if the name is not seen before it. -/
theorem isFirst_blocksFrom_iff {before after : List Segment} {header closer : Text}
    {body : List Text} :
    Span.IsFirst (blocksFrom 0 (before ++ .block header body closer :: after))
        ⟨stubName header, (linesOf before).length, (linesOf before).length + body.length + 1⟩ ↔
      stubName header ∉ seenAfter [] before := by
  have hseen : stubName header ∈ seenAfter [] before ↔ stubName header ∈ blockNames before := by
    rw [seenAfter, Text.mem_foldl_addNew]
    simp
  rw [hseen, ← map_name_blocksFrom 0, blocksFrom_append, Nat.zero_add, List.mem_map]
  constructor
  · rintro hfirst ⟨other, hother, hname⟩
    have hle := hfirst other (List.mem_append_left _ hother) hname
    have hbound := spansFrom_bounds hother
    rw [partLines_map_part] at hbound
    simp only at hle
    omega
  · intro hnew other hother hname
    rcases List.mem_append.1 hother with hbefore | hafter
    · exact absurd ⟨other, hbefore, hname⟩ hnew
    · exact (spansFrom_bounds hafter).1

theorem seenAfter_append (seen : List Text) (a b : List Segment) :
    seenAfter seen (a ++ b) = seenAfter (seenAfter seen a) b := by
  rw [seenAfter, blockNames_append, List.foldl_append]
  rfl

/-- The spans of the recorded stubs are those of the first blocks. -/
theorem spansFrom_layout (before after : List Segment) :
    spansFrom (linesOf before).length (layout (seenAfter [] before) after) =
      (blocksFrom (linesOf before).length after).filter
        (·.IsFirst (blocksFrom 0 (before ++ after))) := by
  induction after generalizing before with
  | nil => rfl
  | cons seg after ih =>
    have hrest := ih (before ++ [seg])
    rw [seenAfter_append, linesOf_append, linesOf_cons, linesOf_nil, List.append_nil,
      List.length_append, List.append_assoc, List.singleton_append] at hrest
    cases seg with
    | plain line => exact hrest
    | unbalanced line => exact hrest
    | oneLine line => exact hrest
    | block header body closer =>
      have hnames : seenAfter (seenAfter [] before) [.block header body closer] =
          Text.addNew (seenAfter [] before) (stubName header) := rfl
      have hlen : (linesOf before).length + (Segment.block header body closer).lines.length =
          (linesOf before).length + body.length + 2 := by
        simp [Segment.lines, Nat.add_assoc]
      have hblocks : blocksFrom (linesOf before).length (.block header body closer :: after) =
          ⟨stubName header, (linesOf before).length, (linesOf before).length + body.length + 1⟩ ::
            blocksFrom ((linesOf before).length + body.length + 2) after := rfl
      have hfirst := @isFirst_blocksFrom_iff before after header closer body
      rw [hnames, hlen, Text.addNew] at hrest
      rw [layout, hblocks]
      by_cases hseen : stubName header ∈ seenAfter [] before
      · rw [if_pos hseen] at hrest ⊢
        rw [List.filter_cons_of_neg (by simpa using fun h => hfirst.1 h hseen), ← hrest,
          spansFrom_append, spansFrom_copied, partLines_copied]
        simp [Nat.add_assoc]
      · rw [if_neg hseen] at hrest ⊢
        rw [List.filter_cons_of_pos (by simpa using hfirst.2 hseen), ← hrest, spansFrom]

/-! ## Reading the pieces -/

section Pieces

variable {convention : Convention} {lines : List Text}

/-- What is read off the pieces one by one can be read off the segments one by one. -/
theorem filterMap_piecesFrom {α : Type} {read : Piece → Option α}
    {found : List Segment → List Segment → List α} (hnil : ∀ before, found before [] = [])
    (hcons : ∀ before seg after, segments convention lines = before ++ seg :: after →
      found before (seg :: after) =
        (read (seg.pieceAt (linesOf before).length)).toList ++ found (before ++ [seg]) after)
    {before after : List Segment} (h : segments convention lines = before ++ after) :
    (piecesFrom (linesOf before).length after).filterMap read = found before after := by
  induction after generalizing before with
  | nil => exact (hnil before).symm
  | cons seg after ih =>
    have hrest := @ih (before ++ [seg]) (by simpa using h)
    rw [linesOf_append, linesOf_cons, linesOf_nil, List.append_nil, List.length_append] at hrest
    rw [hcons before seg after h, ← hrest, piecesFrom, List.filterMap_cons]
    cases read (seg.pieceAt (linesOf before).length) <;> rfl

/-- The blocks of the pieces are those of the segments. -/
theorem blocksOf_piecesFrom :
    blocksOf lines (piecesFrom 0 (segments convention lines)) =
      blocksFrom 0 (segments convention lines) := by
  refine @filterMap_piecesFrom convention lines Span (Piece.span? lines)
    (fun before after => blocksFrom (linesOf before).length after) (fun _ => rfl) ?_ [] _ rfl
  intro before seg after h
  have hreads := @Segment.StartsAt.reads convention lines seg _ ⟨before, after, h, rfl⟩
  have hone : blocksFrom (linesOf before).length [seg] =
      (Piece.span? lines (seg.pieceAt (linesOf before).length)).toList := by
    cases seg with
    | plain line => rfl
    | unbalanced line => rfl
    | oneLine line => rfl
    | block header body closer =>
      simp [blocksFrom, Segment.part, spansFrom, Segment.pieceAt, Piece.span?, hreads.1]
  have happend := blocksFrom_append (linesOf before).length [seg] after
  rw [List.singleton_append, hone] at happend
  simpa using happend

/-- The pieces that are single lines are the lines outside of blocks. -/
theorem filterMap_line?_piecesFrom :
    (piecesFrom 0 (segments convention lines)).filterMap (Piece.line? lines) =
      singles (segments convention lines) := by
  refine @filterMap_piecesFrom convention lines Text (Piece.line? lines)
    (fun _ after => singles after) (fun _ => rfl) ?_ [] _ rfl
  intro before seg after h
  have hreads := @Segment.StartsAt.reads convention lines seg _ ⟨before, after, h, rfl⟩
  have hone : singles [seg] =
      (Piece.line? lines (seg.pieceAt (linesOf before).length)).toList := by
    cases seg with
    | plain line => simp [singles, Segment.single?, Segment.pieceAt, Piece.line?, hreads.1]
    | unbalanced line => simp [singles, Segment.single?, Segment.pieceAt, Piece.line?, hreads.1]
    | oneLine line => simp [singles, Segment.single?, Segment.pieceAt, Piece.line?, hreads.1]
    | block header body closer => rfl
  rw [← List.singleton_append, singles_append, hone]

/-- The warnings about the pieces are those about the segments. -/
theorem cutWarnings_piecesFrom :
    cutWarnings convention lines (piecesFrom 0 (segments convention lines)) =
      warnings [] 0 (segments convention lines) := by
  rw [cutWarnings, blocksOf_piecesFrom]
  refine @filterMap_piecesFrom convention lines Event _
    (fun before after => warnings (seenAfter [] before) (linesOf before).length after)
    (fun _ => rfl) ?_ [] _ rfl
  intro before seg after h
  have hreads := @Segment.StartsAt.reads convention lines seg _ ⟨before, after, h, rfl⟩
  have hone : warnings (seenAfter [] before) (linesOf before).length [seg] =
      (Piece.warning? convention lines (blocksFrom 0 (segments convention lines))
        (seg.pieceAt (linesOf before).length)).toList := by
    cases seg with
    | plain line => simp [warnings, Segment.pieceAt, Piece.warning?, hreads.1, hreads.2]
    | unbalanced line =>
      simp [warnings, Segment.pieceAt, Piece.warning?, hreads.1, hreads.2.1, hreads.2.2]
    | oneLine line =>
      simp [warnings, Segment.pieceAt, Piece.warning?, hreads.1, hreads.2.1, hreads.2.2]
    | block header body closer =>
      have hfirst := @isFirst_blocksFrom_iff before after header closer body
      rw [← h] at hfirst
      by_cases hseen : stubName header ∈ seenAfter [] before
      · simp [warnings, Segment.pieceAt, Piece.warning?, hreads.1, hfirst, hseen]
      · simp [warnings, Segment.pieceAt, Piece.warning?, hreads.1, hfirst, hseen]
  have happend := warnings_append (seenAfter [] before) (linesOf before).length [seg] after
  rw [List.singleton_append, hone, ← seenAfter_append] at happend
  simpa using happend

end Pieces

/-! ## The scan -/

/-- The bodies that are recorded are the lines inside of the spans. -/
theorem Model.HasParts.entriesOf_eq_map {model : Model} {before after : List Part}
    (h : model.HasParts (before ++ after)) :
    entriesOf after = (spansFrom (partLines before).length after).map fun span =>
      (span.name, model.lines.extract (span.first + 1) span.last) := by
  induction after generalizing before with
  | nil => rfl
  | cons part after ih =>
    have hrest := @ih (before ++ [part]) (by simpa using h)
    rw [partLines_append, partLines_cons, partLines_nil, List.append_nil, List.length_append]
      at hrest
    cases part with
    | copied line => exact hrest
    | stub header body closer =>
      have hinside : model.lines.extract ((partLines before).length + 1)
          ((partLines before).length + body.length + 1) = body := by
        rw [h.lines, partLines_append, partLines_cons, Nat.add_assoc, extract_append_add]
        simp [List.extract_eq_take_drop, Part.lines]
      have hlen : (partLines before).length + (Part.stub header body closer).lines.length =
          (partLines before).length + body.length + 2 := by
        simp [Part.lines, Nat.add_assoc]
      rw [hlen] at hrest
      rw [spansFrom, List.map_cons, hinside, ← hrest]
      rfl

/-- A file can be cut in exactly one way, from the top, into blocks that reach from a declaration
to its closing line below, and single lines where no such block starts.  A scan finds what this cut
holds: the first block of each name is a stub, the single lines with the marker are imports, each
listed where it is first, and there is one warning about every later block of a name and about
every declaration that stands alone, in the order of the lines. -/
theorem scan_finds_cut (convention : Convention) (text : Text) :
    ∃ pieces, (∀ others, CutFrom convention text.splitLines 0 others ↔ others = pieces) ∧
      Finds convention text.splitLines pieces
        (scan convention text).1 (scan convention text).2 := by
  have hparts := scanLines_hasParts convention text.splitLines
  have hcut := @cutFrom_piecesFrom convention text.splitLines [] _ rfl
  have hspans := spansFrom_layout [] (segments convention text.splitLines)
  have himport : convention.isImport = fun line => decide (convention.marker <:+: line) := by
    funext line
    rw [Bool.eq_iff_iff, decide_eq_true_iff]
    exact Text.occursIn_iff
  have hevents : (scan convention text).2 = _ := scanLines_events
  rw [← cutWarnings_piecesFrom] at hevents
  refine ⟨piecesFrom 0 (segments convention text.splitLines),
    fun others => ⟨fun h => h.unique hcut, fun h => h ▸ hcut⟩, ?_, ?_, ?_, ?_, hevents⟩
  · rw [scan, scanLines_spans, blocksOf_piecesFrom]
    exact hspans
  · rw [scan, hparts.entries, hparts.spans]
    exact @Model.HasParts.entriesOf_eq_map _ [] _ hparts
  · rw [scan, scanLines_imports, Text.distinct_eq_eraseDups, filterMap_line?_piecesFrom, himport]
  · have hlevel : ∀ event ∈ cutWarnings convention text.splitLines
        (piecesFrom 0 (segments convention text.splitLines)),
        decide (event.level = .warning) = true := by
      intro event hevent
      rw [level_of_mem_cutWarnings hevent]
      rfl
    rw [hevents, List.filter_append, List.filter_eq_self.2 hlevel]
    exact List.append_nil _

end StubGraft
