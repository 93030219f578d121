import StubGraft.Proofs.MergedFiles
import StubGraft.Proofs.Outside

/-!
# No body is lost silently

A body can be lost where the edited file is scanned, where it is merged and where the result is
rendered.  Whoever has edited it must find it in the output then, or be warned.

* `HoldsStub` — a stub stands somewhere in a file, line by line.
* `KeepsOrWarns` — every declaration outside of blocks has its body kept, or there is a warning.
* `Regenerator.mergeFiles_keepsOrWarns` — every merge that returns does so.
-/

namespace StubGraft

open Disk Writer

/-! ## Stubs in the lines of a file -/

/-- Some lines hold a stub: a line that declares its name, its body and one more line, one after the
other. -/
def HoldsStub (convention : Convention) (lines : List Text) (name : Text) (body : List Text) :
    Prop :=
  ∃ header closer, convention.declares header = true ∧ stubName header = name ∧
    (header :: body ++ [closer]) <:+: lines

theorem lines_infix_partLines {part : Part} {parts : List Part} (h : part ∈ parts) :
    part.lines <:+: partLines parts := by
  obtain ⟨before, after, rfl⟩ := List.append_of_mem h
  refine ⟨partLines before, partLines after, ?_⟩
  simp

/-- A part is rendered in one piece, before or behind the imports. -/
theorem lines_infix_renderedLines {part : Part} {parts : List Part} (h : part ∈ parts)
    (bodies : StubTable) (headerLines index : Nat) (pending : List Text) :
    (part.withBodies bodies).lines <:+: renderedLines bodies headerLines index pending parts := by
  rw [renderedLines]
  rw [← List.take_append_drop (headerParts headerLines index parts) parts] at h
  rcases List.mem_append.1 h with hbefore | hafter
  · have hinfix := lines_infix_partLines (List.mem_map_of_mem (f := Part.withBodies bodies) hbefore)
    rw [List.append_assoc]
    exact hinfix.trans (List.infix_append' [] _ _)
  · have hinfix := lines_infix_partLines (List.mem_map_of_mem (f := Part.withBodies bodies) hafter)
    exact hinfix.trans (List.suffix_append _ _).isInfix

section Bodies

variable {convention : Convention} {old new : Text} {name : Text} {body : List Text}

theorem declares_of_stub_mem {lines : List Text} {header closer : Text}
    (h : .stub header body closer ∈ layoutOf convention lines) :
    convention.declares header = true :=
  ((cut_segments convention lines).1.sound (block_mem_of_stub_mem h) (by simp)).1

/-- A recorded stub stands in its file. -/
theorem holdsStub_of_body? (h : (scan convention new).1.stubs.body? name = some body) :
    HoldsStub convention new.splitLines name body := by
  obtain ⟨header, closer, hstub, hname⟩ := exists_stub_of_body? h
  refine ⟨header, closer, declares_of_stub_mem hstub, hname, ?_⟩
  have hinfix := lines_infix_partLines hstub
  rwa [partLines_layoutOf] at hinfix

/-- An edited body stands in the merged file, if its stub is still generated. -/
theorem holdsStub_mergedLines (hold : (scan convention old).1.stubs.body? name = some body)
    (hnew : (scan convention new).1.stubs.contains name = true) :
    HoldsStub convention (mergedLines convention old new) name body := by
  obtain ⟨generated, hgenerated⟩ := Option.isSome_iff_exists.1 hnew
  obtain ⟨header, closer, hstub, rfl⟩ := exists_stub_of_body? hgenerated
  refine ⟨header, closer, declares_of_stub_mem hstub, rfl, ?_⟩
  have hinfix := lines_infix_renderedLines hstub
    (mergeStubs (scan convention old).1 (scan convention new).1) convention.headerLines 0
    (pendingImports (scan convention new).1
      (merge (scan convention old).1 (scan convention new).1).1)
  rw [withBodies_mergeStubs _ hstub, hold] at hinfix
  exact hinfix

/-- A merge keeps an edited body, or warns that its stub is dropped. -/
theorem holdsStub_or_dropped (hold : (scan convention old).1.stubs.body? name = some body) :
    HoldsStub convention (mergedLines convention old new) name body ∨
      .droppedStub name ∈ (merge (scan convention old).1 (scan convention new).1).2 := by
  cases hnew : (scan convention new).1.stubs.contains name with
  | true => exact Or.inl (holdsStub_mergedLines hold hnew)
  | false =>
    refine Or.inr (List.mem_map.2 ⟨name, List.mem_filter.2 ⟨?_, by simp [hnew]⟩, rfl⟩)
    rw [StubTable.mem_names_iff, hold]
    rfl

end Bodies

/-! ## Declarations of the edited file -/

/-- Every declaration of a text outside of blocks has its body in an output, or one of some events
warns about it; and then it was found in that text or is no longer generated. -/
def KeepsOrWarns (convention : Convention) (text out : Text) (events : List Event) : Prop :=
  ∀ index header, text.splitLines[index]? = some header → convention.declares header = true →
    StandsOutside convention text.splitLines index →
    (∃ last, Braces.closing? text.splitLines index = some last ∧ index < last ∧
      HoldsStub convention out.splitLines (stubName header)
        (text.splitLines.extract (index + 1) last)) ∨
    ∃ event ∈ events, event.level = .warning ∧ event.WarnsOf (stubName header) (index + 1) ∧
      (event ∈ (scan convention text).2 ∨ event = .droppedStub (stubName header))

theorem keepsOrWarns_of_bodies {convention : Convention} {text out : Text} {events : List Event}
    (hevents : ∀ event ∈ (scan convention text).2, event ∈ events)
    (hbodies : ∀ name body, (scan convention text).1.stubs.body? name = some body →
      HoldsStub convention out.splitLines name body ∨ .droppedStub name ∈ events) :
    KeepsOrWarns convention text out events := by
  intro index header hline hdeclares hout
  rcases recorded_or_warned hline hdeclares hout with ⟨last, hclosing, hlt, hbody⟩ | hwarned
  · rcases hbodies _ _ hbody with hholds | hdropped
    · exact Or.inl ⟨last, hclosing, hlt, hholds⟩
    · exact Or.inr ⟨_, hdropped, rfl, .dropped, Or.inr rfl⟩
  · obtain ⟨event, hevent, hwarns⟩ := hwarned
    exact Or.inr ⟨event, hevents event hevent, hwarns.level, hwarns, Or.inl hevent⟩

/-! ## Main result -/

/-- A file that has been stored is read as it was written, if its line ends are uniform. -/
theorem Disk.Stores.textAt? {path : Path} {text : Text} {l : Location} {a b : Disk}
    (h : Stores path text.encodeUtf8 l a b) (huniform : '\r' ∉ text) :
    b.textAt? path.toText = some text := by
  have hread : b.readBytes path.toText = .ok text.encodeUtf8 := readBytes_eq_ok_iff.2 ⟨l, h.holds⟩
  rw [Disk.textAt?_of_readBytes hread]
  exact Text.ofBytes?_encodeUtf8 huniform

namespace Regenerator

variable {regenerator : Regenerator} {old new : Source} {output : Option Path} {world : World}
  {oldText newText : Text}

/-- A merge that returns has read both files. -/
theorem exists_texts_of_ok {summary : Option Summary}
    (h : ((regenerator.mergeFiles old new output).run world).1 = .ok summary) :
    ∃ oldText newText, world.disk.textAt? old.path.toText = some oldText ∧
      world.disk.textAt? new.path.toText = some newText := by
  have hreturns : Returns (regenerator.mergeFiles old new output) world fun _ _ => True :=
    ⟨summary, h, trivial⟩
  unfold mergeFiles at hreturns
  rw [returns_bind, Profile.returns_readModel] at hreturns
  obtain ⟨oldText, hold, hrest⟩ := hreturns
  rw [returns_bind, Profile.returns_readModel] at hrest
  obtain ⟨newText, hnew, -⟩ := hrest
  exact ⟨oldText, newText, hold, hnew⟩

/-- A world is left by a merge that keeps or warns: the output holds a text, and the events that
were reported speak of what it does not hold. -/
def LeavesOrWarns (regenerator : Regenerator) (oldText : Text) (output : Path)
    (before after : World) : Prop :=
  ∃ out events, after.disk.textAt? output.toText = some out ∧ after.log = before.log ++ events ∧
    KeepsOrWarns regenerator.profile.convention oldText out events

theorem leavesOrWarns_of_log {target : Path} {out : Text} {after : World} (more : List Event)
    (hout : after.disk.textAt? target.toText = some out)
    (hlog : after.log = world.log ++ ((scan regenerator.profile.convention oldText).2 ++ more))
    (hbodies : ∀ name body,
      (scan regenerator.profile.convention oldText).1.stubs.body? name = some body →
        HoldsStub regenerator.profile.convention out.splitLines name body ∨
          .droppedStub name ∈ more) :
    regenerator.LeavesOrWarns oldText target world after := by
  refine ⟨out, _, hout, hlog, keepsOrWarns_of_bodies ?_ ?_⟩
  · intro event hevent
    exact List.mem_append_left _ hevent
  · intro name body hbody
    exact (hbodies name body hbody).imp_right fun hdropped => List.mem_append_right _ hdropped

theorem not_mem_of_textAt? {disk : Disk} {path text : Text} (h : disk.textAt? path = some text) :
    '\r' ∉ text := by
  obtain ⟨l, bytes, -, hbytes⟩ := exists_holdsAt_of_textAt? h
  exact Text.not_mem_of_ofBytes? hbytes

theorem ends_mergeFiles_alike_keeps (hold : world.disk.textAt? old.path.toText = some oldText)
    (hnew : world.disk.textAt? new.path.toText = some newText)
    (he : equivalent (scan regenerator.profile.convention oldText).1
      (scan regenerator.profile.convention newText).1 = true) :
    Ends (regenerator.mergeFiles old new output) world fun result after =>
      ∀ summary, result = .ok summary →
        regenerator.LeavesOrWarns oldText (output.getD new.path) world after := by
  -- whichever file has the new text, the bodies of the edited one are those of the new one
  have hleaves : ∀ after : World, after.disk.textAt? (output.getD new.path).toText = some newText →
      after.log = (((world.report (scan regenerator.profile.convention oldText).2).report
        (scan regenerator.profile.convention newText).2).report [.noDifference]).log →
      regenerator.LeavesOrWarns oldText (output.getD new.path) world after := by
    intro after htext hlog
    refine leavesOrWarns_of_log
      ((scan regenerator.profile.convention newText).2 ++ [.noDifference]) htext ?_ ?_
    · rw [hlog]
      simp [World.report]
    · intro name body hbody
      exact Or.inl (holdsStub_of_body? (body?_of_equivalent he hbody))
  rw [ends_mergeFiles_alike hold hnew he]
  dsimp only
  split
  · rename_i hsame
    intro summary _
    refine hleaves _ ?_ rfl
    rw [hsame]
    exact hnew
  · refine (ends_write_places regenerator.writer _ _ newText false).mono ?_
    rintro (e | _) after ⟨hworld, ⟨e', -, -, he', -⟩ | ⟨-, hends⟩⟩ summary hresult
    · exact absurd hresult nofun
    · exact absurd hresult nofun
    · exact absurd he' nofun
    · obtain ⟨l, hstores⟩ := hends
      refine hleaves after (hstores.textAt? (not_mem_of_textAt? hnew)) ?_
      rw [hworld]

theorem ends_mergeFiles_unlike_keeps (hold : world.disk.textAt? old.path.toText = some oldText)
    (hnew : world.disk.textAt? new.path.toText = some newText)
    (he : equivalent (scan regenerator.profile.convention oldText).1
      (scan regenerator.profile.convention newText).1 = false) :
    Ends (regenerator.mergeFiles old new output) world fun result after =>
      ∀ summary, result = .ok summary →
        regenerator.LeavesOrWarns oldText (output.getD new.path) world after := by
  obtain ⟨out, hout, hlines⟩ := mergeTexts_eq regenerator.profile.convention oldText newText
  rw [ends_mergeFiles_unlike hold hnew he hout]
  dsimp only
  generalize Event.written (output.getD new.path).toText _ _ _ = written
  refine (ends_write_places regenerator.writer _ _ out _).mono ?_
  rintro (e | _) after ⟨hworld, ⟨e', -, -, he', -⟩ | ⟨-, hends⟩⟩
  · exact nofun
  · exact nofun
  · exact absurd he' nofun
  · obtain ⟨l, hstores⟩ := hends
    have huniform := not_mem_of_mergeTexts (not_mem_of_textAt? hold) (not_mem_of_textAt? hnew) hout
    have htext : (after.report [written]).disk.textAt? (output.getD new.path).toText = some out :=
      hstores.textAt? huniform
    intro summary _
    refine leavesOrWarns_of_log ((scan regenerator.profile.convention newText).2 ++ .merging ::
      ((merge (scan regenerator.profile.convention oldText).1
        (scan regenerator.profile.convention newText).1).2 ++ [written])) htext ?_ ?_
    · rw [World.report, hworld]
      simp [World.report]
    · intro name body hbody
      rw [hlines]
      refine (holdsStub_or_dropped hbody).imp_right fun hdropped => ?_
      simp [hdropped]

/-- No body is lost silently.  A merge that returns leaves a text in its output, and of every
declaration of the edited file outside of blocks that text has the body, or a warning has been
reported. -/
theorem mergeFiles_keepsOrWarns (regenerator : Regenerator) (old new : Source)
    (output : Option Path) (world : World) (summary : Option Summary)
    (h : ((regenerator.mergeFiles old new output).run world).1 = .ok summary) :
    ∃ oldText out events,
      world.disk.textAt? old.path.toText = some oldText ∧
      ((regenerator.mergeFiles old new output).run world).2.disk.textAt?
        (output.getD new.path).toText = some out ∧
      ((regenerator.mergeFiles old new output).run world).2.log = world.log ++ events ∧
      KeepsOrWarns regenerator.profile.convention oldText out events := by
  obtain ⟨oldText, newText, hold, hnew⟩ := exists_texts_of_ok h
  have hleaves : regenerator.LeavesOrWarns oldText (output.getD new.path) world
      ((regenerator.mergeFiles old new output).run world).2 := by
    cases he : equivalent (scan regenerator.profile.convention oldText).1
        (scan regenerator.profile.convention newText).1 with
    | true => exact ends_mergeFiles_alike_keeps hold hnew he summary h
    | false => exact ends_mergeFiles_unlike_keeps hold hnew he summary h
  obtain ⟨out, events, htext, hlog, hkeeps⟩ := hleaves
  exact ⟨oldText, out, events, hold, htext, hlog, hkeeps⟩

/-- One declaration of a file is kept, with a line in its body that declares another, and one that
is closed on its own line is warned of. -/
theorem mergeFiles_keepsOrWarns_default :
    let oldText := Text.lit ("V.a = function(ctx) \x7b\nV.b = function(ctx) \x7b\n\x7d\n\x7d;\n" ++
      "V.c = function(ctx) \x7b\x7d;")
    let newText := Text.lit "V.a = function(ctx) \x7b\n\x7d;"
    let world := sampleFiles oldText newText
    let ended := (Regenerator.default.mergeFiles (.ofText (Text.lit "old.js"))
      (.ofText (Text.lit "new.js")) none).run world
    (ended.1 = .ok (some ⟨[Text.lit "V.a"], [], [], []⟩) ∧
      StandsOutside Regenerator.default.profile.convention oldText.splitLines 0 ∧
      StandsOutside Regenerator.default.profile.convention oldText.splitLines 4) ∧
    ∃ out, ended.2.disk.textAt? (Text.lit "new.js") = some out ∧
      HoldsStub Regenerator.default.profile.convention out.splitLines (Text.lit "V.a")
        [Text.lit "V.b = function(ctx) \x7b", Text.lit "\x7d"] ∧
      ∃ event ∈ ended.2.log, event.WarnsOf (Text.lit "V.c") 5 := by
  intro oldText newText world ended
  have hresult : ended.1 = .ok (some ⟨[Text.lit "V.a"], [], [], []⟩) := by decide +kernel
  have hevents : ended.2.log = [.oneLineStub (Text.lit "V.c") 5, .scanned 1 0 5, .scanned 1 0 2,
      .merging, .written (Text.lit "new.js") 1 0 0] := by decide +kernel
  have hfirst : StandsOutside Regenerator.default.profile.convention oldText.splitLines 0 := by
    rw [StandsOutside]
    intro j hj
    omega
  have hlast : StandsOutside Regenerator.default.profile.convention oldText.splitLines 4 := by
    refine (standsOutside_iff (by decide +kernel)).2
      ⟨.oneLine (Text.lit "V.c = function(ctx) \x7b\x7d;"),
      [.block (Text.lit "V.a = function(ctx) \x7b")
        [Text.lit "V.b = function(ctx) \x7b", Text.lit "\x7d"] (Text.lit "\x7d;")], [], ?_, rfl⟩
    decide +kernel
  obtain ⟨text, out, events, htext, hout, hlog, hkeeps⟩ :=
    mergeFiles_keepsOrWarns .default (.ofText (Text.lit "old.js")) (.ofText (Text.lit "new.js"))
      none world _ hresult
  have hread : world.disk.textAt? (Source.ofText (Text.lit "old.js")).path.toText =
      some oldText := by decide +kernel
  obtain rfl : oldText = text := Option.some.inj (hread.symm.trans htext)
  obtain rfl : events = ended.2.log := hlog.symm
  refine ⟨⟨hresult, hfirst, hlast⟩, out, hout, ?_, ?_⟩
  · rcases hkeeps 0 (Text.lit "V.a = function(ctx) \x7b") (by decide +kernel) (by decide +kernel)
      hfirst with ⟨last, hclosing, -, hholds⟩ | ⟨event, hmem, -, hwarns, -⟩
    · have hthree : Braces.closing? oldText.splitLines 0 = some 3 := by decide +kernel
      obtain rfl : last = 3 := Option.some.inj (hclosing.symm.trans hthree)
      exact hholds
    · rw [hevents] at hmem
      cases hwarns <;> exact absurd hmem (by decide +kernel)
  · rcases hkeeps 4 (Text.lit "V.c = function(ctx) \x7b\x7d;") (by decide +kernel)
      (by decide +kernel) hlast with ⟨last, hclosing, hbelow, -⟩ | ⟨event, hmem, -, hwarns, -⟩
    · have hfour : Braces.closing? oldText.splitLines 4 = some 4 := by decide +kernel
      have := Option.some.inj (hclosing.symm.trans hfour)
      omega
    · exact ⟨event, hmem, hwarns⟩

end Regenerator
end StubGraft
