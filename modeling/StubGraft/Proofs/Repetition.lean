import StubGraft.Proofs.Folders
import StubGraft.Proofs.Recovery
import StubGraft.Proofs.Remerging
import StubGraft.Proofs.Returns

/-!
# Repeating a run

A run that has merged leaves its result as the visitor.  If it is repeated, the tool writes the same
files as before, and the result is now the edited visitor.  Either it is merged again, and that
gives the same result; or no body differs from the generated one, and then the generated visitor is
left as it is, without the imports that were carried over and with its own line ends.

* `equivalent_again_iff`, `mergeTexts_again` — the second run in terms of texts.
* `Regenerator.MergedRun` — what a run that has merged has found.
* `Regenerator.MergedRun.again` — a second run finds it again, on a disk of the same shape.
* `Call.HasMerged.visitor_kept_iff` — so it returns, and leaves the visitor as it is or as the tool
  has written it.
-/

namespace StubGraft

open Disk Writer

/-! ## Texts -/

section Texts

variable {convention : Convention} {old new once : Text}
  (hold : NoUnbalanced (scan convention old).2) (hnew : NoUnbalanced (scan convention new).2)
  (hheader : HeaderOutsideIgnored convention new)
  (hagree : AgreeOnEdges (scan convention old).1 (scan convention new).1)
  (honce : mergeTexts convention old new = .ok once)

include hold hnew hheader hagree honce in
/-- The result of a merge is equivalent to the new file exactly if no body was edited. -/
theorem equivalent_again_iff :
    equivalent (scan convention once).1 (scan convention new).1 = true ↔
      ¬ EditsBody (scan convention old).1 (scan convention new).1 := by
  have hstubs : (scan convention once).1.stubs =
      mergeStubs (scan convention old).1 (scan convention new).1 := by
    rw [scan, mergeTexts_eq_ok_iff.1 honce]
    exact stubs_mergedLines hold hnew hheader hagree
  constructor
  · rintro h ⟨name, body, body', hbody, hbody', hne⟩
    have hmerged : (scan convention once).1.stubs.body? name = some body := by
      rw [hstubs, body?_mergeStubs, hbody', hbody]
      rfl
    have hsame := body?_of_equivalent h hmerged
    exact hne (Option.some.inj (hsame.symm.trans hbody'))
  · intro h
    have hsame : (scan convention once).1.stubs = (scan convention new).1.stubs :=
      hstubs.trans (hasBodiesOf_iff.2 h)
    exact equivalent_iff.2 fun name => by rw [hsame]

include hold hnew hheader hagree honce in
/-- The result of a merge is merged again to itself. -/
theorem mergeTexts_again : mergeTexts convention once new = .ok once := by
  have hlines := mergeTexts_eq_ok_iff.1 honce
  exact mergeTexts_eq_ok_iff.2
    (hlines.trans (mergedLines_again hold hnew hheader hagree hlines).symm)

include honce in
/-- The same for a text whose line ends are made uniform before it is merged. -/
theorem eq_generated_iff {generated : Text} (hnew : generated.uniformLineEnds = new)
    (hends : '\r' ∉ once)
    (h : ¬ EditsBody (scan convention old).1 (scan convention new).1) :
    once = generated ↔
      pendingImports (scan convention new).1
        (merge (scan convention old).1 (scan convention new).1).1 = [] ∧ '\r' ∉ generated := by
  rw [← eq_new_iff honce h]
  constructor
  · rintro rfl
    exact ⟨(Text.uniformLineEnds_of_not_mem hends).symm.trans hnew, hends⟩
  · rintro ⟨rfl, hgenerated⟩
    exact hnew.symm.trans (Text.uniformLineEnds_of_not_mem hgenerated)

end Texts

/-! ## Copies -/

theorem copyFile_eq_ok_iff {disk after : Disk} {source target : Path} :
    disk.copyFile source target = .ok after ↔
      disk.sameEntry source.toText target.toText = .ok false ∧
      ∃ bytes, disk.readBytes source.toText = .ok bytes ∧
        disk.writeFile target.toText bytes = .ok after := by
  rw [copyFile]
  rcases disk.sameEntry source.toText target.toText with e | (_ | _)
  · simp
  · cases disk.readBytes source.toText with
    | error e => simp
    | ok bytes =>
      cases hwrite : disk.writeFile target.toText bytes with
      | error e => simp [hwrite]
      | ok written => simp [hwrite]
  · simp

/-- A file is copied over another. -/
theorem copyFile_of_holdsAt {disk : Disk} {source target : Path} {l m : Location}
    {bytes old : List UInt8} (hsource : disk.HoldsAt source.toText l bytes)
    (htarget : disk.HoldsAt target.toText m old) (hne : m ≠ l) :
    disk.copyFile source target = .ok (disk.putBytes m bytes) := by
  refine copyFile_eq_ok_iff.2 ⟨?_, bytes, readBytes_eq_ok_iff.2 ⟨l, hsource⟩,
    writeFile_eq_ok_iff.2 ⟨m, htarget.locate, htarget.not_directory, rfl⟩⟩
  simp [sameEntry, hsource.locate, htarget.locate, hne.symm]

/-! ## What a tool does to a file -/

/-- A tool leaves a file with some bytes where a path leads. -/
def Tool.Leaves (tool : Tool) (folder : Location) (disk : Disk) (path : Text)
    (bytes : List UInt8) : Prop :=
  ∃ l, disk.locate path = .ok l ∧ tool.leaves? folder l = some (some (.file bytes))

/-- A tool changes something where a path leads. -/
def Tool.Changes (tool : Tool) (folder : Location) (disk : Disk) (path : Text) : Prop :=
  ∃ l, disk.locate path = .ok l ∧ tool.leaves? folder l ≠ none

namespace Regenerator

variable {regenerator : Regenerator} {tool : Tool} {grammar visitor backup : Path}
  {start copied after : Disk} {l : Location} {old new out : Text}

/-! ## Writing a visitor -/

theorem exists_child_of_visitorPath {settings : Settings}
    (h : settings.visitorPath grammar = .ok visitor) :
    ∃ name, visitor = grammar.parent.child name ∧ plainNames name ≠ [] := by
  simp only [Settings.visitorPath, bind_eq_ok_iff] at h
  obtain ⟨profile, -, count, -, h⟩ := h
  refine ⟨_, (Except.ok.inj h).symm, @plainNames_ne_nil 'V' _ ?_ (by decide)⟩
  simp [Text.lit]

/-- The folder of a visitor that leads somewhere is there. -/
theorem entryAt_parent_visitor {disk : Disk} {settings : Settings}
    (hpath : settings.visitorPath grammar = .ok visitor) (hroot : grammar.anchor = .root)
    (h : disk.locate visitor.toText = .ok l) :
    disk.entryAt visitor.parent.toText = .ok .directory := by
  obtain ⟨name, rfl, hname⟩ := exists_child_of_visitorPath hpath
  have hparent : (grammar.parent.child name).parent = grammar.parent := by
    simp [Path.parent, Path.child]
  rw [hparent]
  exact entryAt_parent hroot hname h

/-- Below a folder that is there only the file is to be put in its place. -/
theorem writes_iff {disk : Disk} {path : Path} {content : Text}
    (hfolder : disk.entryAt path.parent.toText = .ok .directory) :
    regenerator.Writes path content disk after ↔
      (regenerator.settings.output.validateBeforeWrite.isTruthy = true →
        checkBalanced content = .ok ()) ∧
      Returns (place regenerator.writer.atomic path content.encodeUtf8) disk fun _ last =>
        last = after := by
  refine and_congr_right fun _ => ?_
  exact returns_iff_of_ends (DiskAction.ends_makeDirectories_of_directory hfolder)

/-- A visitor that is written is written where its path leads. -/
theorem Writes.written {disk : Disk} (h : regenerator.Writes visitor out disk after)
    (hpath : regenerator.settings.visitorPath grammar = .ok visitor)
    (hroot : grammar.anchor = .root) (hlocate : disk.locate visitor.toText = .ok l) :
    Written disk visitor.toText out.encodeUtf8 l after := by
  have hfolder := entryAt_parent_visitor hpath hroot hlocate
  obtain ⟨l', hwritten⟩ := written_of_place ((writes_iff hfolder).1 h).2
  obtain rfl : l' = l := Except.ok.inj (hwritten.locate.symm.trans hlocate)
  exact hwritten

/-- What was written on one disk can be written on another of the same shape. -/
theorem Writes.again {disk other : Disk} (h : regenerator.Writes visitor out disk after)
    (hpath : regenerator.settings.visitorPath grammar = .ok visitor)
    (hroot : grammar.anchor = .root) (hlocate : disk.locate visitor.toText = .ok l)
    (hshape : SameShape disk other) :
    ∃ last, regenerator.Writes visitor out other last ∧
      Written other visitor.toText out.encodeUtf8 l last := by
  have hlocate' : other.locate visitor.toText = .ok l := (hshape.locate_eq _).trans hlocate
  have hfolder := entryAt_parent_visitor hpath hroot hlocate
  have hfolder' := entryAt_parent_visitor hpath hroot hlocate'
  obtain ⟨hcheck, hplace⟩ := (writes_iff hfolder).1 h
  obtain ⟨last, hlast⟩ := (alike_place _ _ _).returns hshape hplace
  have hwrites : regenerator.Writes visitor out other last :=
    (writes_iff hfolder').2 ⟨hcheck, hlast⟩
  exact ⟨last, hwrites, hwrites.written hpath hroot hlocate'⟩

/-! ## A run that has merged -/

/-- The disk with the visitor copied to its backup, if there is a visitor. -/
def Copies (visitor backup : Path) (disk copied : Disk) : Prop :=
  disk.exists? visitor.toText = .ok true ∧ disk.copyFile visitor backup = .ok copied ∨
    disk.exists? visitor.toText = .ok false ∧ copied = disk

theorem Copies.workdir (h : Copies visitor backup start copied) :
    copied.workdir = start.workdir := by
  rcases h with ⟨-, hcopy⟩ | ⟨-, rfl⟩
  · obtain ⟨-, _, -, hwrite⟩ := copyFile_eq_ok_iff.1 hcopy
    obtain ⟨_, -, hplace, rfl⟩ := writeFile_eq_ok_iff.1 hwrite
    exact (changesOnly_putBytes _ (ne_nil_of_get? hplace) _).workdir
  · rfl

/-- The text of the backup is then that of the visitor or, if there was none, its own. -/
theorem Copies.eq_edited {disk : Disk} {m : Location} {bytes : List UInt8} {edited : Text}
    (h : Copies visitor backup start copied)
    (hedited : (start.textAt? visitor.toText).or (start.textAt? backup.toText) = some edited)
    (hworkdir : disk.workdir = start.workdir) (hlocate : disk.locate backup.toText = .ok m)
    (hcontent : copied.content? m = some (.file bytes)) (hold : Text.ofBytes? bytes = some old) :
    edited = old := by
  rcases h with ⟨-, hcopy⟩ | ⟨hmissing, rfl⟩
  · obtain ⟨-, source, hsource, hwrite⟩ := copyFile_eq_ok_iff.1 hcopy
    obtain ⟨m', hm', hplace, rfl⟩ := writeFile_eq_ok_iff.1 hwrite
    obtain rfl : m' = m := locate_unique hworkdir hm' hlocate
    rw [content?_eq_file_iff.2 ⟨_, get?_putBytes _ (ne_nil_of_get? hplace) _⟩] at hcontent
    obtain rfl : source = bytes := by simpa using hcontent
    rw [textAt?_of_readBytes hsource, hold] at hedited
    exact (Option.some.inj hedited).symm
  · have hnone : copied.textAt? visitor.toText = none := by
      by_contra hsome
      obtain ⟨text, htext⟩ := Option.ne_none_iff_exists'.1 hsome
      obtain ⟨_, _, hholds, -⟩ := exists_holdsAt_of_textAt? htext
      rw [hholds.exists?] at hmissing
      exact absurd hmissing (by simp)
    rw [hnone, Option.none_or] at hedited
    obtain ⟨m', bytes', hholds, hbytes'⟩ := exists_holdsAt_of_textAt? hedited
    obtain rfl : m' = m := locate_unique hworkdir hholds.locate hlocate
    rw [content?_eq_file_iff.2 hholds.file] at hcontent
    obtain rfl : bytes' = bytes := by simpa using hcontent
    exact Option.some.inj (hbytes'.symm.trans hold)

/-- What a run that has merged has found: the disks before, with the copy and after, and the texts
of the backup, of the generated visitor and of the result. -/
structure MergedRun (regenerator : Regenerator) (tool : Tool) (grammar visitor backup : Path)
    (start copied after : Disk) (old new out : Text) : Prop where
  /-- The visitor has been copied. -/
  copies : Copies visitor backup start copied
  /-- The tool could be called. -/
  words : ∃ words, regenerator.settings.launchWords grammar = .ok words
  /-- The tool has ended well. -/
  succeeds : tool.Succeeds
  /-- The backup holds the edited text. -/
  edited : (tool.edited grammar.parent.parts copied).textAt? backup.toText = some old
  /-- The visitor holds the generated text. -/
  generated : (tool.edited grammar.parent.parts copied).textAt? visitor.toText = some new
  /-- The texts are not equivalent. -/
  differ : equivalent (scan regenerator.profile.convention old).1
    (scan regenerator.profile.convention new).1 ≠ true
  /-- The texts are merged. -/
  merge : mergeTexts regenerator.profile.convention old new = .ok out
  /-- The result is written. -/
  writes : regenerator.Writes visitor out (tool.edited grammar.parent.parts copied) after

theorem outcome_of_history {run : Run} {history : List Stage} {stage : Stage}
    (h : run.history = history ++ [stage] ++ [.done]) (hstage : stage ≠ .done) :
    run.outcome = .ok stage := by
  simp [Run.outcome, Run.latest, h, List.filter_append, hstage]

theorem Finishes.mergedRun {run last : Run}
    (h : regenerator.Finishes tool grammar visitor backup copied run after last)
    (hcopies : Copies visitor backup start copied)
    (hmerged : Run.outcome { last with history := last.history ++ [.done] } = .ok .merged) :
    last.grammar = run.grammar ∧ last.visitor = run.visitor ∧ last.backup = some backup ∧
      ∃ old new out,
        regenerator.MergedRun tool grammar visitor backup start copied after old new out := by
  obtain ⟨hwords, hsucceeds, there, -, h⟩ := h
  split at h
  · obtain ⟨summary, ⟨old, hold, new, hnew, hmerge⟩, rfl⟩ := h
    refine ⟨rfl, rfl, rfl, old, new, ?_⟩
    split at hmerge
    · obtain ⟨rfl, -⟩ := hmerge
      rw [outcome_of_history rfl (by simp)] at hmerged
      exact absurd hmerged (by simp)
    · obtain ⟨-, out, hout, hwrites⟩ := hmerge
      exact ⟨out, hcopies, hwords, hsucceeds, hold, hnew, ‹_›, hout, hwrites⟩
  · obtain ⟨-, rfl⟩ := h
    rw [outcome_of_history rfl (by simp)] at hmerged
    exact absurd hmerged (by simp)

/-- A run that has come to a merge. -/
theorem Proceeds.mergedRun {last : Run}
    (h : regenerator.Proceeds tool grammar visitor backup start after last)
    (hmerged : Run.outcome { last with history := last.history ++ [.done] } = .ok .merged) :
    last.grammar = grammar ∧ last.visitor = visitor ∧ last.backup = some backup ∧
      ∃ copied old new out,
        regenerator.MergedRun tool grammar visitor backup start copied after old new out := by
  obtain ⟨there, hthere, h⟩ := h
  split at h
  · obtain ⟨copied, hcopy, hfinishes⟩ := h
    obtain ⟨hgrammar, hvisitor, hbackup, hrun⟩ :=
      hfinishes.mergedRun (Or.inl ⟨‹there = true› ▸ hthere, hcopy⟩) hmerged
    exact ⟨hgrammar, hvisitor, hbackup, copied, hrun⟩
  · have hfalse : there = false := by simpa using ‹¬there = true›
    obtain ⟨hgrammar, hvisitor, hbackup, hrun⟩ :=
      h.mergedRun (Or.inr ⟨hfalse ▸ hthere, rfl⟩) hmerged
    exact ⟨hgrammar, hvisitor, hbackup, start, hrun⟩

/-! ## Repeating it -/

/-- A run that finds a visitor and a backup ends as their merge does. -/
theorem Merges.proceeds {last : Disk} {summary : Option Summary}
    (hvisitor : start.exists? visitor.toText = .ok true)
    (hcopy : start.copyFile visitor backup = .ok copied)
    (hwords : ∃ words, regenerator.settings.launchWords grammar = .ok words)
    (hsucceeds : tool.Succeeds)
    (hbackup : (tool.edited grammar.parent.parts copied).exists? backup.toText = .ok true)
    (h : regenerator.Merges backup visitor (tool.edited grammar.parent.parts copied) summary last) :
    ∃ run, regenerator.Proceeds tool grammar visitor backup start last run ∧
      Run.outcome { run with history := run.history ++ [.done] } =
        .ok (if summary.isNone then .skipped else .merged) := by
  let begun := Run.start grammar visitor
  refine ⟨mergedRun { begun with history := begun.history ++ [.backedUp] } backup summary,
    ⟨true, hvisitor, ?_⟩, outcome_of_history rfl (by split <;> simp)⟩
  rw [if_pos rfl]
  refine ⟨copied, hcopy, hwords, hsucceeds, true, hbackup, ?_⟩
  rw [if_pos rfl]
  exact ⟨summary, h, rfl⟩

section Again

variable {generated : List UInt8}
  (h : regenerator.MergedRun tool grammar visitor backup start copied after old new out)
  (hpath : regenerator.settings.visitorPath grammar = .ok visitor)
  (hroot : grammar.anchor = .root)

include h in
theorem MergedRun.not_mem_out : '\r' ∉ out := by
  obtain ⟨_, _, -, hold⟩ := exists_holdsAt_of_textAt? h.edited
  obtain ⟨_, _, -, hnew⟩ := exists_holdsAt_of_textAt? h.generated
  exact not_mem_of_mergeTexts (Text.not_mem_of_ofBytes? hold) (Text.not_mem_of_ofBytes? hnew)
    h.merge

include h hpath hroot in
/-- Where the files of a run that has merged stand. -/
theorem MergedRun.places (hlocate : after.locate visitor.toText = .ok l) :
    Written (tool.edited grammar.parent.parts copied) visitor.toText out.encodeUtf8 l after ∧
    SameShape (tool.edited grammar.parent.parts copied) after ∧
    ∃ m bytes, m ≠ l ∧
      (tool.edited grammar.parent.parts copied).HoldsAt backup.toText m bytes ∧
      Text.ofBytes? bytes = some old := by
  obtain ⟨l', newBytes, hvisitor, hnew⟩ := exists_holdsAt_of_textAt? h.generated
  obtain ⟨m, bytes, hbackup, hold⟩ := exists_holdsAt_of_textAt? h.edited
  have hwritten := h.writes.written hpath hroot hvisitor.locate
  obtain ⟨_, hbefore⟩ := hvisitor.file
  obtain ⟨_, hafter⟩ := hwritten.file
  have hshape := SameShape.of_changesOnly hwritten.changes hbefore hafter
  obtain rfl : l' = l :=
    Except.ok.inj ((hvisitor.locate.symm.trans (hshape.locate_eq _).symm).trans hlocate)
  refine ⟨hwritten, hshape, m, bytes, ?_, hbackup, hold⟩
  rintro rfl
  -- one file has one text, and that is equivalent to itself
  obtain ⟨_, hm⟩ := hbackup.file
  obtain rfl : bytes = newBytes := by
    rw [hbefore] at hm
    exact (Entry.file.inj (Option.some.inj hm)).2.symm
  obtain rfl : old = new := Option.some.inj (hold.symm.trans hnew)
  exact h.differ (equivalent_self _)

include h hpath hroot in
/-- The generated text is what the tool leaves. -/
theorem MergedRun.ofBytes?_generated
    (hleaves : tool.Leaves grammar.parent.parts after visitor.toText generated) :
    Text.ofBytes? generated = some new := by
  obtain ⟨l, hlocate, hleft⟩ := hleaves
  obtain ⟨hwritten, -⟩ := h.places hpath hroot hlocate
  have hvisitor := Tool.holdsAt_of_leaves? hwritten.locate hleft
  rw [← textAt?_of_readBytes (readBytes_eq_ok_iff.2 ⟨l, hvisitor⟩), h.generated]

include h hpath hroot in
/-- A second run copies the result over the backup, and the shape of the disk stays. -/
theorem MergedRun.copies_again (hlocate : after.locate visitor.toText = .ok l) :
    ∃ again m bytes, after.copyFile visitor backup = .ok again ∧
      SameShape (tool.edited grammar.parent.parts copied) again ∧
      (tool.edited grammar.parent.parts copied).HoldsAt backup.toText m bytes ∧
      Text.ofBytes? bytes = some old ∧ again.content? m = some (.file out.encodeUtf8) := by
  obtain ⟨hwritten, hshape, m, bytes, hne, hbackup, hold⟩ := h.places hpath hroot hlocate
  have hbackup' := hbackup.of_changesOnly hwritten.changes hwritten.place hne
  have hm := ne_nil_of_get? hbackup'.not_directory
  have hcopied := get?_putBytes after hm out.encodeUtf8
  obtain ⟨_, hfile⟩ := hbackup'.file
  refine ⟨_, m, bytes, copyFile_of_holdsAt hwritten.holdsAt hbackup' hne, ?_, hbackup, hold,
    content?_eq_file_iff.2 ⟨_, hcopied⟩⟩
  exact hshape.trans (SameShape.of_changesOnly (changesOnly_putBytes _ hm _) hfile hcopied)

include h hpath hroot in
/-- What a second run finds after the tool has run: a disk of the same shape, the visitor that the
tool has written, and as the backup the first result or, if the tool writes that too, the same text
as before. -/
theorem MergedRun.edited_again (hlocate : after.locate visitor.toText = .ok l)
    (hleaves : tool.leaves? grammar.parent.parts l = some (some (.file generated))) :
    ∃ again, after.copyFile visitor backup = .ok again ∧
      SameShape (tool.edited grammar.parent.parts copied)
        (tool.edited grammar.parent.parts again) ∧
      (tool.edited grammar.parent.parts again).HoldsAt visitor.toText l generated ∧
      ∃ text, (tool.edited grammar.parent.parts again).textAt? backup.toText = some text ∧
        (tool.Changes grammar.parent.parts after backup.toText ∧ text = old ∨
          ¬ tool.Changes grammar.parent.parts after backup.toText ∧ text = out) := by
  obtain ⟨hwritten, hshape, -⟩ := h.places hpath hroot hlocate
  obtain ⟨again, m, bytes, hcopy, hshape', hbackup, hold, hcopied⟩ :=
    h.copies_again hpath hroot hlocate
  have hedited := Tool.sameShape_edited hshape'
  have hlocate' : after.locate backup.toText = .ok m := (hshape.locate_eq _).trans hbackup.locate
  refine ⟨again, hcopy, hedited,
    Tool.holdsAt_of_leaves? ((hedited.locate_eq _).trans hwritten.locate) hleaves, ?_⟩
  have hagain := Tool.holdsAt_edited hshape' hbackup hcopied
  by_cases hleft : tool.leaves? grammar.parent.parts m = none
  · rw [if_pos hleft] at hagain
    refine ⟨out, ?_, Or.inr ⟨?_, rfl⟩⟩
    · rw [textAt?_of_readBytes (readBytes_eq_ok_iff.2 ⟨m, hagain⟩),
        Text.ofBytes?_encodeUtf8 h.not_mem_out]
    · rintro ⟨m', hm', hchanges⟩
      obtain rfl : m = m' := Except.ok.inj (hlocate'.symm.trans hm')
      exact hchanges hleft
  · rw [if_neg hleft] at hagain
    refine ⟨old, ?_, Or.inl ⟨⟨m, hlocate', hleft⟩, rfl⟩⟩
    rw [textAt?_of_readBytes (readBytes_eq_ok_iff.2 ⟨m, hagain⟩), hold]

include h hpath hroot in
/-- A second run proceeds.  It writes the first result again or, if the tool leaves the backup alone
and the result is equivalent to what the tool has written, skips the merge. -/
theorem MergedRun.again
    (hleaves : tool.Leaves grammar.parent.parts after visitor.toText generated)
    (hmerge : ¬ tool.Changes grammar.parent.parts after backup.toText →
      mergeTexts regenerator.profile.convention out new = .ok out) :
    ∃ last run, regenerator.Proceeds tool grammar visitor backup after last run ∧
      (last.readBytes visitor.toText = .ok out.encodeUtf8 ∧
          (tool.Changes grammar.parent.parts after backup.toText ∨
            equivalent (scan regenerator.profile.convention out).1
              (scan regenerator.profile.convention new).1 ≠ true) ∨
        last.readBytes visitor.toText = .ok generated ∧
          Run.outcome { run with history := run.history ++ [.done] } = .ok .skipped ∧
          ¬ tool.Changes grammar.parent.parts after backup.toText ∧
          equivalent (scan regenerator.profile.convention out).1
            (scan regenerator.profile.convention new).1 = true) := by
  have hnew := h.ofBytes?_generated hpath hroot hleaves
  obtain ⟨l, hlocate, hleft⟩ := hleaves
  obtain ⟨hwritten, -⟩ := h.places hpath hroot hlocate
  obtain ⟨again, hcopy, hshape, hvisitor, text, htext, hcases⟩ :=
    h.edited_again hpath hroot hlocate hleft
  have hgenerated : (tool.edited grammar.parent.parts again).textAt? visitor.toText = some new := by
    rw [textAt?_of_readBytes (readBytes_eq_ok_iff.2 ⟨l, hvisitor⟩), hnew]
  obtain ⟨m, _, hbackup, -⟩ := exists_holdsAt_of_textAt? htext
  by_cases hequivalent : equivalent (scan regenerator.profile.convention text).1
      (scan regenerator.profile.convention new).1 = true
  · have hmerges : regenerator.Merges backup visitor (tool.edited grammar.parent.parts again) none
        (tool.edited grammar.parent.parts again) := by
      refine ⟨text, htext, new, hgenerated, ?_⟩
      rw [if_pos hequivalent]
      exact ⟨rfl, rfl⟩
    obtain ⟨run, hrun, houtcome⟩ := hmerges.proceeds hwritten.holdsAt.exists? hcopy h.words
      h.succeeds hbackup.exists?
    refine ⟨_, run, hrun, Or.inr ⟨readBytes_eq_ok_iff.2 ⟨l, hvisitor⟩, houtcome, ?_⟩⟩
    rcases hcases with ⟨-, rfl⟩ | ⟨halone, rfl⟩
    · exact absurd hequivalent h.differ
    · exact ⟨halone, hequivalent⟩
  · have hout : mergeTexts regenerator.profile.convention text new = .ok out := by
      rcases hcases with ⟨-, rfl⟩ | ⟨halone, rfl⟩
      · exact h.merge
      · exact hmerge halone
    obtain ⟨last, hwrites, hlast⟩ := h.writes.again hpath hroot hwritten.locate hshape
    have hmerges : regenerator.Merges backup visitor (tool.edited grammar.parent.parts again)
        (some (summarize (scan regenerator.profile.convention text).1
          (scan regenerator.profile.convention new).1)) last := by
      refine ⟨text, htext, new, hgenerated, ?_⟩
      rw [if_neg hequivalent]
      exact ⟨rfl, out, hout, hwrites⟩
    obtain ⟨run, hrun, -⟩ := hmerges.proceeds hwritten.holdsAt.exists? hcopy h.words h.succeeds
      hbackup.exists?
    refine ⟨last, run, hrun, Or.inl ⟨readBytes_eq_ok_iff.2 ⟨l, hlast.holdsAt⟩, ?_⟩⟩
    rcases hcases with ⟨hchanges, -⟩ | ⟨-, rfl⟩
    · exact Or.inl hchanges
    · exact Or.inr hequivalent

include h hpath hroot in
theorem MergedRun.workdir (hlocate : after.locate visitor.toText = .ok l) :
    after.workdir = start.workdir := by
  obtain ⟨-, hshape, -⟩ := h.places hpath hroot hlocate
  rw [hshape.workdir, Tool.workdir_edited, h.copies.workdir]

include h hpath hroot in
/-- If the tool leaves the backup alone, the edited text was that of the visitor, or that of the
backup if there was no visitor. -/
theorem MergedRun.eq_edited {edited : Text} (hlocate : after.locate visitor.toText = .ok l)
    (halone : ¬ tool.Changes grammar.parent.parts after backup.toText)
    (hedited : (start.textAt? visitor.toText).or (start.textAt? backup.toText) = some edited) :
    edited = old := by
  obtain ⟨-, hshape, m, bytes, -, hbackup, hold⟩ := h.places hpath hroot hlocate
  have hlocate' : after.locate backup.toText = .ok m := (hshape.locate_eq _).trans hbackup.locate
  -- the backup is the one that stood there before the tool has run
  have hcopied : copied.content? m = some (.file bytes) := by
    have hleft : tool.leaves? grammar.parent.parts m = none := by
      by_contra hchanges
      exact halone ⟨m, hlocate', hchanges⟩
    have hcontent := Tool.content?_edited grammar.parent.parts copied tool m
    rw [hleft, content?_eq_file_iff.2 hbackup.file] at hcontent
    exact hcontent.symm
  exact h.copies.eq_edited hedited (h.workdir hpath hroot hlocate) hlocate' hcopied hold

end Again

end Regenerator

theorem Settings.resolveGrammar_eq_ok_iff {settings : Settings} {disk : Disk}
    {argument : Option Text} {grammar : Path} :
    settings.resolveGrammar disk argument = .ok grammar ↔
      ∃ text, argument = some text ∧ text ≠ [] ∧ text.contains '\x00' = false ∧
        (Path.ofText text).resolve disk.workdir = grammar ∧
        isText settings.grammarExtension grammar.suffix = true ∧
        disk.isFile? grammar.toText = .ok true := by
  match argument with
  | none => simp [Settings.resolveGrammar]
  | some [] => simp [Settings.resolveGrammar]
  | some (c :: text) =>
    simp only [Settings.resolveGrammar]
    constructor
    · intro h
      split at h
      · cases h
      · rename_i hnull
        split at h
        · cases h
        · rename_i hextension
          split at h
          · cases h
          · cases h
          · rename_i hfile
            obtain rfl := Except.ok.inj h
            exact ⟨c :: text, rfl, by simp, Bool.eq_false_iff.2 hnull, rfl,
              by simpa using hextension, hfile⟩
    · rintro ⟨_, he, -, hnull, rfl, hextension, hfile⟩
      obtain rfl := Option.some.inj he
      rw [if_neg (Bool.eq_false_iff.1 hnull), if_neg (by simp [hextension]), hfile]

/-- A grammar is found again as long as its file is there. -/
theorem Settings.resolveGrammar_again {settings : Settings} {disk other : Disk}
    {argument : Option Text} {grammar : Path}
    (h : settings.resolveGrammar disk argument = .ok grammar)
    (hworkdir : other.workdir = disk.workdir) (hfile : other.isFile? grammar.toText = .ok true) :
    settings.resolveGrammar other argument = .ok grammar := by
  obtain ⟨text, hargument, hne, hnull, hresolve, hextension, -⟩ := resolveGrammar_eq_ok_iff.1 h
  exact resolveGrammar_eq_ok_iff.2
    ⟨text, hargument, hne, hnull, by rw [hworkdir, hresolve], hextension, hfile⟩

/-! ## Calls -/

/-- A call returns, and the record that it leaves is that of a run that has merged. -/
structure Call.HasMerged (call : Call) (regenerator : Regenerator) (world : World) (run : Run) :
    Prop where
  /-- The call returns. -/
  returns : call.result regenerator world = .ok ()
  /-- The record is left. -/
  record : (call.after regenerator world).latest = some run
  /-- The run has merged. -/
  outcome : run.outcome = .ok .merged

theorem Call.reaches_iff {call : Call} {regenerator : Regenerator} {world : World} {disk : Disk}
    {latest : Option Run} :
    Regenerator.Reaches (regenerator.run call.tool call.argument) world () disk latest ↔
      call.result regenerator world = .ok () ∧ (call.after regenerator world).latest = latest ∧
        (call.after regenerator world).disk = disk := by
  constructor
  · rintro ⟨_, hresult, rfl, hlatest, hdisk⟩
    exact ⟨hresult, hlatest, hdisk⟩
  · rintro ⟨hresult, hlatest, hdisk⟩
    exact ⟨(), hresult, rfl, hlatest, hdisk⟩

/-- What a call that has merged has found. -/
theorem Call.HasMerged.mergedRun {call : Call} {regenerator : Regenerator} {world : World}
    {run : Run} (h : call.HasMerged regenerator world run) :
    regenerator.settings.resolveGrammar world.disk call.argument = .ok run.grammar ∧
    regenerator.settings.visitorPath run.grammar = .ok run.visitor ∧
    ∃ backup, run.backup = some backup ∧
      regenerator.settings.backupPath run.visitor = .ok backup ∧
      ∃ copied old new out, regenerator.MergedRun call.tool run.grammar run.visitor backup
        world.disk copied (call.after regenerator world).disk old new out := by
  obtain ⟨grammar, hgrammar, visitor, hvisitor, backup, hbackup, steps, hproceeds, rfl⟩ :=
    Regenerator.reaches_run.1 (Call.reaches_iff.2 ⟨h.returns, h.record, rfl⟩)
  obtain ⟨rfl, rfl, hrecord, hrun⟩ := hproceeds.mergedRun h.outcome
  exact ⟨hgrammar, hvisitor, backup, hrecord, hbackup, hrun⟩

/-- The text that a run carries bodies over from: that of its visitor or, if there is none, that of
its backup. -/
def Run.editedText? (run : Run) (disk : Disk) : Option Text :=
  (disk.textAt? run.visitor.toText).or
    (run.backup.bind fun backup => disk.textAt? backup.toText)

/-- The tool of a call changes the backup of a run. -/
def Call.ChangesBackup (call : Call) (run : Run) (disk : Disk) : Prop :=
  ∃ backup, run.backup = some backup ∧
    call.tool.Changes run.grammar.parent.parts disk backup.toText

/-- A call that has merged is repeated, and its tool writes the same visitor again.  Then it
returns, and it leaves the visitor as the first call has left it exactly if the tool has changed the
backup, if a body was edited, or if no import is missing in the generated visitor and it has no
carriage return.  Otherwise the merge is skipped, and the visitor is the generated one. -/
theorem Call.HasMerged.visitor_kept_iff {call : Call} {regenerator : Regenerator} {world : World}
    {run : Run} {edited generated : Text} (h : call.HasMerged regenerator world run)
    (hgrammar : (call.after regenerator world).disk.isFile? run.grammar.toText = .ok true)
    (hleaves : call.tool.Leaves run.grammar.parent.parts (call.after regenerator world).disk
      run.visitor.toText generated.encodeUtf8)
    (hedited : run.editedText? world.disk = some edited)
    (hold : NoUnbalanced (scan regenerator.profile.convention edited).2)
    (hnew : NoUnbalanced (scan regenerator.profile.convention generated.uniformLineEnds).2)
    (hdup : NoDuplicate (scan regenerator.profile.convention generated.uniformLineEnds).2)
    (hagree : AgreeOnEdges (scan regenerator.profile.convention edited).1
      (scan regenerator.profile.convention generated.uniformLineEnds).1) :
    let first := call.after regenerator world
    let second := call.after regenerator first
    let old := (scan regenerator.profile.convention edited).1
    let new := (scan regenerator.profile.convention generated.uniformLineEnds).1
    call.result regenerator first = .ok () ∧
    ∃ content, first.disk.readBytes run.visitor.toText = .ok content ∧
      (second.disk.readBytes run.visitor.toText = .ok content ↔
        call.ChangesBackup run first.disk ∨ EditsBody old new ∨
          pendingImports new (merge old new).1 = [] ∧ '\r' ∉ generated) ∧
      (second.disk.readBytes run.visitor.toText = .ok content ∨
        second.disk.readBytes run.visitor.toText = .ok generated.encodeUtf8 ∧
          second.latest.map Run.outcome = some (.ok .skipped)) := by
  intro first second old new
  obtain ⟨hresolves, hpath, backup, hbackup, hbackupPath, copied, old', new', out, hrun⟩ :=
    h.mergedRun
  have hroot := Regenerator.anchor_of_resolveGrammar hresolves
  have ⟨l, hlocate, _⟩ := hleaves
  have hbytes := hrun.ofBytes?_generated hpath hroot hleaves
  obtain rfl : generated.uniformLineEnds = new' := by
    rw [Text.ofBytes?, Text.decodeUtf8_encodeUtf8] at hbytes
    exact Option.some.inj hbytes
  have hfirst : first.disk.readBytes run.visitor.toText = .ok out.encodeUtf8 :=
    readBytes_eq_ok_iff.2 ⟨l, (hrun.places hpath hroot hlocate).1.holdsAt⟩
  have hchanges : call.ChangesBackup run first.disk ↔
      call.tool.Changes run.grammar.parent.parts first.disk backup.toText := by
    simp [Call.ChangesBackup, hbackup]
  -- if the backup is left alone, the texts are those that the assumptions speak of
  have htexts : ¬ call.tool.Changes run.grammar.parent.parts first.disk backup.toText →
      edited = old' := by
    intro halone
    rw [Run.editedText?, hbackup] at hedited
    exact hrun.eq_edited hpath hroot hlocate halone hedited
  have hheader := headerOutsideIgnored_of_noDuplicate hdup
  obtain ⟨last, steps, hproceeds, hcases⟩ := hrun.again hpath hroot hleaves <| by
    intro halone
    obtain rfl := htexts halone
    exact mergeTexts_again hold hnew hheader hagree hrun.merge
  obtain ⟨hreturns, hlatest, rfl⟩ : call.result regenerator first = .ok () ∧
      second.latest = _ ∧ second.disk = last :=
    Call.reaches_iff.1 <| Regenerator.reaches_run.2
      ⟨_, Settings.resolveGrammar_again hresolves (hrun.workdir hpath hroot hlocate) hgrammar,
        _, hpath, _, hbackupPath, steps, hproceeds, rfl⟩
  refine ⟨hreturns, _, hfirst, ?_⟩
  rw [hchanges]
  rcases hcases with ⟨hread, hwhy⟩ | ⟨hread, houtcome, halone, hequivalent⟩
  · refine ⟨iff_of_true hread ?_, Or.inl hread⟩
    by_cases halone : call.tool.Changes run.grammar.parent.parts first.disk backup.toText
    · exact Or.inl halone
    · obtain rfl := htexts halone
      have hdiffer := hwhy.resolve_left halone
      rw [ne_eq, equivalent_again_iff hold hnew hheader hagree hrun.merge, not_not] at hdiffer
      exact Or.inr (Or.inl hdiffer)
  · obtain rfl := htexts halone
    have hbodies := (equivalent_again_iff hold hnew hheader hagree hrun.merge).1 hequivalent
    refine ⟨?_, Or.inr ⟨hread, by rw [hlatest, Option.map_some, houtcome]⟩⟩
    rw [hread, or_iff_right halone, or_iff_right hbodies,
      ← eq_generated_iff hrun.merge rfl hrun.not_mem_out hbodies]
    constructor
    · intro heq
      exact (Text.encodeUtf8_injective (Except.ok.inj heq)).symm
    · rintro rfl
      rfl

/-! ## Evaluating repeated calls -/

instance decidableExistsOk {ε α : Type} (e : Except ε α) (p : α → Prop) [DecidablePred p] :
    Decidable (∃ a, e = .ok a ∧ p a) :=
  match e with
  | .ok b => decidable_of_iff (p b) (by simp)
  | .error _ => isFalse (by simp)

instance (tool : Tool) (folder : Location) (disk : Disk) (path : Text) (bytes : List UInt8) :
    Decidable (tool.Leaves folder disk path bytes) := by
  unfold Tool.Leaves
  infer_instance

instance (call : Call) (regenerator : Regenerator) (world : World) (run : Run) :
    Decidable (call.HasMerged regenerator world run) :=
  decidable_of_iff
    (call.result regenerator world = .ok () ∧ (call.after regenerator world).latest = some run ∧
      run.outcome = .ok .merged)
    ⟨fun h => ⟨h.1, h.2.1, h.2.2⟩, fun h => ⟨h.returns, h.record, h.outcome⟩⟩

/-- The record of a run on the sample grammar that has merged. -/
def sampleMerged (summary : Summary) : Run :=
  ⟨sampleGrammar, sampleVisitor, some ⟨.root, [Text.lit "EVisitor.js.old"]⟩,
    [.idle, .backedUp, .regenerated, .merged, .done], some summary⟩

/-- An import is missing in the generated visitor, whose lines end in carriage returns; but a body
was edited. -/
theorem Call.HasMerged.visitor_kept_iff_default :
    let edited := Text.lit ("var h = require('h');\nV.a = function(ctx) \x7b\n" ++
      "  edited();\n\x7d;\nV.gone = function(ctx) \x7b\n\x7d;")
    let generated := Text.lit
      "V.b = function(ctx) \x7b\r\n\x7d;\r\nV.a = function(ctx) \x7b\r\n\x7d;"
    let call := sampleCall [generated] 0
    let first := call.after .default (sampleFolder edited)
    let second := call.after .default first
    call.HasMerged .default (sampleFolder edited) (sampleMerged ⟨[Text.lit "V.a"],
      [Text.lit "V.b"], [Text.lit "V.gone"], [Text.lit "var h = require('h');"]⟩) ∧
    call.result .default first = .ok () ∧
    ∃ content, first.disk.readBytes sampleVisitor.toText = .ok content ∧
      second.disk.readBytes sampleVisitor.toText = .ok content := by
  intro edited generated call first second
  have hmerged : call.HasMerged .default (sampleFolder edited) (sampleMerged ⟨[Text.lit "V.a"],
      [Text.lit "V.b"], [Text.lit "V.gone"], [Text.lit "var h = require('h');"]⟩) := by
    decide +kernel
  obtain ⟨hreturns, content, hfirst, hkept, -⟩ :=
    @Call.HasMerged.visitor_kept_iff _ _ _ _ edited generated hmerged (by decide +kernel)
      (by decide +kernel) (by decide +kernel) (by decide +kernel) (by decide +kernel)
      (by decide +kernel) (by decide +kernel)
  refine ⟨hmerged, hreturns, content, hfirst, hkept.2 (Or.inr (Or.inl ?_))⟩
  exact ⟨Text.lit "V.a", [Text.lit "  edited();"], [], by decide +kernel, by decide +kernel,
    by decide⟩

/-- A call that has merged is repeated on texts without any defect, and the visitor is no longer
the result of the first call. -/
def LosesResult (regenerator : Regenerator) (call : Call) (world : World) (run : Run)
    (edited generated out : Text) : Prop :=
  let old := scan regenerator.profile.convention edited
  let new := scan regenerator.profile.convention generated.uniformLineEnds
  let first := call.after regenerator world
  call.HasMerged regenerator world run ∧
  first.disk.isFile? run.grammar.toText = .ok true ∧
  call.tool.Leaves run.grammar.parent.parts first.disk run.visitor.toText generated.encodeUtf8 ∧
  run.editedText? world.disk = some edited ∧
  (NoUnbalanced old.2 ∧ NoDuplicate old.2) ∧ (NoUnbalanced new.2 ∧ NoDuplicate new.2) ∧
  AgreeOnEdges old.1 new.1 ∧
  first.disk.readBytes run.visitor.toText = .ok out.encodeUtf8 ∧
  (call.after regenerator first).disk.readBytes run.visitor.toText ≠ .ok out.encodeUtf8

instance (regenerator : Regenerator) (call : Call) (world : World) (run : Run)
    (edited generated out : Text) :
    Decidable (LosesResult regenerator call world run edited generated out) := by
  unfold LosesResult
  infer_instance

/-- The result of the first call is lost if no body was edited: an import that was carried over, and
line ends that were made uniform. -/
theorem losesResult_default :
    LosesResult .default (sampleCall [Text.lit "V.a = function(ctx) \x7b\n\x7d;"] 0)
      (sampleFolder (Text.lit ("var h = require('h');\nV.a = function(ctx) \x7b\n\x7d;\n" ++
        "V.gone = function(ctx) \x7b\n\x7d;")))
      (sampleMerged ⟨[Text.lit "V.a"], [], [Text.lit "V.gone"],
        [Text.lit "var h = require('h');"]⟩)
      (Text.lit ("var h = require('h');\nV.a = function(ctx) \x7b\n\x7d;\n" ++
        "V.gone = function(ctx) \x7b\n\x7d;"))
      (Text.lit "V.a = function(ctx) \x7b\n\x7d;")
      (Text.lit "V.a = function(ctx) \x7b\n\x7d;\nvar h = require('h');") ∧
    LosesResult .default (sampleCall [Text.lit "V.a = function(ctx) \x7b\r\n\x7d;"] 0)
      (sampleFolder (Text.lit
        "V.a = function(ctx) \x7b\n\x7d;\nV.gone = function(ctx) \x7b\n\x7d;"))
      (sampleMerged ⟨[Text.lit "V.a"], [], [Text.lit "V.gone"], []⟩)
      (Text.lit "V.a = function(ctx) \x7b\n\x7d;\nV.gone = function(ctx) \x7b\n\x7d;")
      (Text.lit "V.a = function(ctx) \x7b\r\n\x7d;")
      (Text.lit "V.a = function(ctx) \x7b\n\x7d;") := by
  decide +kernel

end StubGraft
