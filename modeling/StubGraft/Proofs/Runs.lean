import StubGraft.Proofs.Regenerations
import StubGraft.Proofs.Stored
import StubGraft.Proofs.Writing
import StubGraft.Run.Regenerator

/-!
# What a run does to its files

A run copies the visitor to its backup, has the tool write a new visitor, and merges the two.
Each step is described by what it does to these two files, however it ends.

* `Profile.ends_readModel`, `Regenerator.ends_mergeFiles` — reading and merging.
* `Regenerator.ends_backUp`, `Regenerator.ends_generate_cases`, `Regenerator.ends_generate` — the
  steps before.
* `Regenerator.ends_run` — a run leaves the old visitor in its place or in the backup, and one that
  returns leaves the regenerated text.
-/

namespace StubGraft

open Disk Writer

/-! ## Steps that leave the disk alone -/

/-- Reading a visitor gives the model of its text and leaves the disk. -/
theorem Profile.ends_readModel (profile : Profile) (source : Source) (world : World) :
    Ends (profile.readModel source) world fun result after =>
      after.disk = world.disk ∧
      match result with
      | .ok model => ∃ text, world.disk.textAt? source.path.toText = some text ∧
          model = (scan profile.convention text).1
      | .error _ => world.disk.textAt? source.path.toText = none := by
  unfold Profile.readModel Disk.textAt? Text.ofBytes?
  rw [ends_bind, Action.ends_disk]
  dsimp only
  cases world.disk.readBytes source.path.toText with
  | error fault => cases fault <;> exact ⟨rfl, rfl⟩
  | ok bytes =>
    dsimp only
    cases Text.decodeUtf8 bytes with
    | error e => exact ⟨rfl, rfl⟩
    | ok text => exact ⟨rfl, text.uniformLineEnds, rfl, rfl⟩

/-- The words that the tool is called with, if it can be. -/
def Settings.launchWords (settings : Settings) (grammar : Path) : Except Error (List Text) := do
  let words ← settings.toolWords grammar
  checkWords words
  return words

theorem Settings.launchWords_eq_ok_iff {settings : Settings} {grammar : Path} {words : List Text} :
    settings.launchWords grammar = .ok words ↔
      settings.toolWords grammar = .ok words ∧ checkWords words = .ok () := by
  simp only [launchWords, bind_eq_ok_iff]
  constructor
  · rintro ⟨_, hwords, _, hcheck, h⟩
    obtain rfl := Except.ok.inj h
    exact ⟨hwords, hcheck⟩
  · rintro ⟨hwords, hcheck⟩
    exact ⟨words, hwords, (), hcheck, rfl⟩

namespace Regenerator

theorem ends_enter (stage : Stage) (world : World) :
    Ends (enter stage) world fun _ after => after.disk = world.disk := by
  unfold enter
  rw [ends_bind, ends_get]
  dsimp only
  cases world.latest with
  | none => exact rfl
  | some run =>
    show Ends (Action.ofExcept _ >>= _) _ _
    rw [ends_bind, Action.ends_ofExcept]
    cases run.enter stage <;> exact rfl

theorem ends_updateRun (change : Run → Run) (world : World) :
    Ends (updateRun change) world fun _ after => after.disk = world.disk :=
  rfl

theorem ends_isThere {path : Path} {l : Location} {bytes : List UInt8} {world : World}
    {post : Except Error Bool → World → Prop} (h : world.disk.HoldsAt path.toText l bytes) :
    Ends (isThere path) world post ↔ post (.ok true) world := by
  unfold isThere
  rw [ends_bind, Action.ends_disk]
  dsimp only
  rw [Action.ends_ofExcept, h.exists?]
  rfl

/-! ## Merging -/

/-- How merging two files into the second ends: it holds the regenerated text, or no entry is
lost. -/
def MergeEnds {α : Type} (convention : Convention) (disk : Disk) (old new : Text)
    (result : Except Error α) (after : Disk) : Prop :=
  match result with
  | .ok _ => ∃ oldText newText out, disk.textAt? old = some oldText ∧
      disk.textAt? new = some newText ∧ regenerateText convention oldText newText = .ok out ∧
      (after = disk ∧ out = newText ∨
        ∃ grown l, Grows disk grown ∧ Written grown new out.encodeUtf8 l after)
  | .error _ => KeepsEntries disk after

theorem ends_mergeFiles (regenerator : Regenerator) (old new : Source) (world : World) :
    Ends (regenerator.mergeFiles old new none) world fun result after =>
      MergeEnds regenerator.profile.convention world.disk old.path.toText new.path.toText result
        after.disk := by
  have hsame : ∀ after, after = world.disk → KeepsEntries world.disk after :=
    fun after h => h ▸ (Grows.refl world.disk).keepsEntries
  unfold mergeFiles
  refine (Profile.ends_readModel regenerator.profile old world).bind ?_
    fun e after h => hsame _ h.1
  rintro _ middle ⟨hmiddle, oldText, hold, rfl⟩
  refine (Profile.ends_readModel regenerator.profile new middle).bind ?_
    fun e after h => hsame _ (h.1.trans hmiddle)
  rintro _ last ⟨hlast, newText, hnew, rfl⟩
  rw [hmiddle] at hlast hnew
  by_cases he : equivalent (scan regenerator.profile.convention oldText).1
      (scan regenerator.profile.convention newText).1 = true
  · rw [if_pos he, ends_bind, Action.ends_report]
    dsimp only [Option.getD]
    rw [if_neg fun h => h rfl, ends_pure]
    exact ⟨oldText, newText, newText, hold, hnew, by rw [regenerateText, if_pos he],
      Or.inl ⟨hlast, rfl⟩⟩
  · obtain ⟨out, hout, -⟩ := mergeTexts_eq regenerator.profile.convention oldText newText
    have hrender : render (scan regenerator.profile.convention newText).1
        (merge (scan regenerator.profile.convention oldText).1
          (scan regenerator.profile.convention newText).1).1 regenerator.profile.headerLines =
        .ok out := hout
    rw [if_neg he, ends_bind, Action.ends_report]
    dsimp only [Option.getD]
    rw [ends_bind, Action.ends_report]
    dsimp only
    rw [ends_bind, Action.ends_ofExcept, hrender]
    dsimp only [Except.mapError]
    refine (ends_write regenerator.writer _ new.path out _).bind ?_ ?_
    · rintro _ after ⟨grown, l, hgrows, hwritten⟩
      refine ⟨oldText, newText, out, hold, hnew, by rw [regenerateText, if_neg he, hout],
        Or.inr ⟨grown, l, ?_, hwritten⟩⟩
      exact hlast ▸ hgrows
    · intro e after hkeeps
      exact hlast ▸ hkeeps

/-! ## The steps before -/

/-- A copy is a write to another location. -/
theorem copyFile_eq_ok {disk after : Disk} {source target : Path} {l : Location}
    {bytes : List UInt8} (h : disk.copyFile source target = .ok after)
    (hfile : disk.HoldsAt source.toText l bytes) :
    ∃ m, m ≠ l ∧ Written disk target.toText bytes m after := by
  have hread : disk.readBytes source.toText = .ok bytes := readBytes_eq_ok_iff.2 ⟨l, hfile⟩
  obtain ⟨mode, hentry⟩ := hfile.file
  rw [copyFile] at h
  split at h
  · exact absurd h (by simp)
  · exact absurd h (by simp)
  · rename_i hother
    rw [hread] at h
    dsimp only at h
    split at h
    · exact absurd h (by simp)
    · rename_i written hwrite
      obtain rfl : written = after := Except.ok.inj h
      obtain ⟨m, hlocate, hplace, rfl⟩ := writeFile_eq_ok_iff.1 hwrite
      have hm : m ≠ [] := ne_nil_of_get? hplace
      refine ⟨m, ?_, hlocate, hplace, changesOnly_putBytes disk hm bytes, _,
        get?_putBytes disk hm bytes⟩
      rintro rfl
      simp [sameEntry, hfile.locate, hlocate, hentry] at hother

/-- A backup holds the bytes of the visitor; where there is none, nothing has changed. -/
theorem ends_backUp {visitor : Path} {l : Location} {bytes : List UInt8} {world : World}
    (backup : Path) (hfile : world.disk.HoldsAt visitor.toText l bytes) :
    Ends (backUp visitor backup) world fun result after =>
      match result with
      | .ok _ => ∃ m, m ≠ l ∧ Written world.disk backup.toText bytes m after.disk
      | .error _ => after.disk = world.disk := by
  unfold backUp
  rw [ends_bind, Action.ends_disk]
  dsimp only
  cases hcopy : world.disk.copyFile visitor backup with
  | ok after => exact copyFile_eq_ok hcopy hfile
  | error fault =>
    rcases fault with _ | (_ | _)
    · exact rfl
    · exact rfl
    · exact rfl

/-- How a call of the tool ends: without words that it can be started with nothing happens, and
otherwise the files are as the tool leaves them. -/
theorem ends_generate_cases (settings : Settings) (tool : Tool) (grammar : Path) {world : World} :
    Ends (generate settings tool grammar) world fun result after =>
      after.latest = world.latest ∧
      match settings.launchWords grammar with
      | .error e =>
        result = .error e ∧ after.disk = world.disk ∧ after.launches = world.launches
      | .ok words =>
        after.disk = tool.edited grammar.parent.parts world.disk ∧
        after.launches = world.launches ++ [⟨words, grammar.parent⟩] ∧ result = tool.ending := by
  unfold generate
  rw [ends_bind, Action.ends_ofExcept]
  cases hwords : settings.toolWords grammar with
  | error e =>
    have hlaunch : settings.launchWords grammar = .error e := by
      simp [Settings.launchWords, bind, Except.bind, hwords]
    rw [hlaunch]
    exact ⟨rfl, rfl, rfl, rfl⟩
  | ok words =>
    dsimp only
    rw [ends_bind, Action.ends_report]
    dsimp only
    rw [ends_bind, Action.ends_ofExcept]
    cases hcheck : Settings.checkWords words with
    | error e =>
      have hlaunch : settings.launchWords grammar = .error e := by
        simp [Settings.launchWords, bind, Except.bind, hwords, hcheck]
      rw [hlaunch]
      exact ⟨rfl, rfl, rfl, rfl⟩
    | ok _ =>
      rw [Settings.launchWords_eq_ok_iff.2 ⟨hwords, hcheck⟩]
      dsimp only
      rw [ends_bind, ends_modify]
      dsimp only
      rw [ends_bind, Action.ends_ofExcept]
      cases tool.ending with
      | error e => exact ⟨rfl, rfl, rfl, rfl⟩
      | ok _ => exact ⟨rfl, rfl, rfl, rfl⟩

/-- A tool that writes the visitor only leaves in it what was there or what it has written. -/
theorem ends_generate (settings : Settings) {tool : Tool} {grammar : Path} {path : Text}
    {l : Location} {bytes : List UInt8} {world : World}
    (htool : tool.WritesOnly grammar.parent.parts l) (hrooted : world.disk.Rooted l)
    (hfile : world.disk.HoldsAt path l bytes) :
    Ends (generate settings tool grammar) world fun _ after =>
      ChangesOnly l world.disk after.disk ∧
      ∃ new ∈ bytes :: tool.written, after.disk.HoldsAt path l new := by
  have hsame : ChangesOnly l world.disk world.disk ∧
      ∃ new ∈ bytes :: tool.written, world.disk.HoldsAt path l new :=
    ⟨.refl l world.disk, bytes, List.mem_cons_self, hfile⟩
  have hedited : ChangesOnly l world.disk (tool.edited grammar.parent.parts world.disk) ∧
      ∃ new ∈ bytes :: tool.written,
        (tool.edited grammar.parent.parts world.disk).HoldsAt path l new := by
    cases tool with
    | broken fault => exact hsame
    | working edits _ _ _ =>
      have hl : l ≠ [] := ne_nil_of_get? hfile.not_directory
      obtain ⟨hchanges, hlast⟩ := foldl_apply_changesOnly htool hrooted hl
      have hlocate := locate_of_keeps (hchanges.keepsDirectories hfile.not_directory) hfile.locate
      refine ⟨hchanges, ?_⟩
      rcases hlast with hkept | ⟨mode, new, hnew, hwritten⟩
      · exact ⟨bytes, List.mem_cons_self, hlocate, hkept ▸ hfile.file⟩
      · exact ⟨new, List.mem_cons_of_mem _ hnew, hlocate, mode, hwritten⟩
  refine (ends_generate_cases settings tool grammar).mono ?_
  rintro result after ⟨-, hcases⟩
  split at hcases
  · rw [hcases.2.1]
    exact hsame
  · rw [hcases.1]
    exact hedited

/-! ## Whole runs -/

/-- A regenerated text is read as it was written. -/
theorem ofBytes?_of_regenerateText {convention : Convention} {old new : List UInt8}
    {oldText newText out : Text} (hold : Text.ofBytes? old = some oldText)
    (hnew : Text.ofBytes? new = some newText)
    (hout : regenerateText convention oldText newText = .ok out) :
    Text.ofBytes? out.encodeUtf8 = some out := by
  refine Text.ofBytes?_encodeUtf8 ?_
  rw [regenerateText] at hout
  split at hout
  · obtain rfl := Except.ok.inj hout
    exact Text.not_mem_of_ofBytes? hnew
  · exact not_mem_of_mergeTexts (Text.not_mem_of_ofBytes? hold) (Text.not_mem_of_ofBytes? hnew)
      hout

/-- The visitor holds the text that the contents of two files are regenerated to. -/
def Regenerated (convention : Convention) (old new : List UInt8) (visitor : Text)
    (disk : Disk) : Prop :=
  ∃ oldText newText out, Text.ofBytes? old = some oldText ∧ Text.ofBytes? new = some newText ∧
    regenerateText convention oldText newText = .ok out ∧ disk.textAt? visitor = some out

/-- How a run on a visitor ends, whose tool writes files of the given contents. -/
structure RunEnds (regenerator : Regenerator) (visitor : Path) (old : List UInt8)
    (written : List (List UInt8)) (result : Except Error Unit) (after : Disk) : Prop where
  /-- What the visitor held is in its place or in the backup. -/
  recoverable : after.readBytes visitor.toText = .ok old ∨
    ∃ backup, regenerator.settings.backupPath visitor = .ok backup ∧
      after.readBytes backup.toText = .ok old
  /-- The visitor is regenerated, or else the run has failed. -/
  visitor : ∃ new ∈ old :: written,
    Regenerated regenerator.profile.convention old new visitor.toText after ∨
      after.readBytes visitor.toText = .ok new ∧ ∃ e, result = .error e

variable {regenerator : Regenerator} {tool : Tool} {grammar visitor backup : Path}
  {l : Location} {old : List UInt8} {world : World}

/-- A run that fails before the visitor is changed. -/
theorem RunEnds.unchanged {disk : Disk} {written : List (List UInt8)}
    (h : disk.HoldsAt visitor.toText l old) (e : Error) :
    RunEnds regenerator visitor old written (.error e) disk := by
  have hread : disk.readBytes visitor.toText = .ok old := readBytes_eq_ok_iff.2 ⟨l, h⟩
  exact ⟨Or.inl hread, old, List.mem_cons_self, Or.inr ⟨hread, e, rfl⟩⟩

/-- A run that fails when the backup has been made. -/
theorem RunEnds.backedUp {disk : Disk} {m : Location} {new : List UInt8}
    {written : List (List UInt8)}
    (hbackup : regenerator.settings.backupPath visitor = .ok backup)
    (hcopy : disk.HoldsAt backup.toText m old) (hvisitor : disk.HoldsAt visitor.toText l new)
    (hnew : new ∈ old :: written) (e : Error) :
    RunEnds regenerator visitor old written (.error e) disk :=
  ⟨Or.inr ⟨backup, hbackup, readBytes_eq_ok_iff.2 ⟨m, hcopy⟩⟩, new, hnew,
    Or.inr ⟨readBytes_eq_ok_iff.2 ⟨l, hvisitor⟩, e, rfl⟩⟩

/-- What follows a run on the disk as it is may fail. -/
theorem RunEnds.fail {written : List (List UInt8)} {result : Except Error Unit} {disk : Disk}
    (h : RunEnds regenerator visitor old written result disk) (e : Error) :
    RunEnds regenerator visitor old written (.error e) disk := by
  obtain ⟨new, hnew, hvisitor⟩ := h.visitor
  exact ⟨h.recoverable, new, hnew, hvisitor.imp_right fun hread => ⟨hread.1, e, rfl⟩⟩

theorem RunEnds.enter {written : List (List UInt8)} {after : World}
    (h : RunEnds regenerator visitor old written (.ok ()) after.disk) (stage : Stage) :
    Ends (Regenerator.enter stage) after fun result last =>
      RunEnds regenerator visitor old written result last.disk := by
  refine (ends_enter stage after).mono ?_
  rintro (e | _) last hdisk
  · exact hdisk ▸ h.fail e
  · exact hdisk ▸ h

/-- Merging the backup into the visitor, once both are there. -/
theorem ends_merge_backup {m : Location} {new : List UInt8} {written : List (List UInt8)}
    (hbackup : regenerator.settings.backupPath visitor = .ok backup)
    (hvisitor : world.disk.HoldsAt visitor.toText l new)
    (hcopy : world.disk.HoldsAt backup.toText m old) (hne : m ≠ l)
    (hnew : new ∈ old :: written) :
    Ends (regenerator.mergeFiles (.ofPath backup) (.ofPath visitor) none) world
      fun result after =>
        RunEnds regenerator visitor old written (result.map fun _ => ()) after.disk := by
  refine (ends_mergeFiles regenerator (.ofPath backup) (.ofPath visitor) world).mono ?_
  rintro (e | summary) after hmerge
  · exact .backedUp hbackup (KeepsEntries.holdsAt hmerge hcopy)
      (KeepsEntries.holdsAt hmerge hvisitor) hnew e
  · obtain ⟨oldText, newText, out, hold, hnewText, hout, hdisk⟩ := hmerge
    have hold' : Text.ofBytes? old = some oldText :=
      (textAt?_of_readBytes (readBytes_eq_ok_iff.2 ⟨m, hcopy⟩)).symm.trans hold
    have hnew' : Text.ofBytes? new = some newText :=
      (textAt?_of_readBytes (readBytes_eq_ok_iff.2 ⟨l, hvisitor⟩)).symm.trans hnewText
    have hregenerated : ∀ disk : Disk, disk.textAt? visitor.toText = some out →
        Regenerated regenerator.profile.convention old new visitor.toText disk :=
      fun disk h => ⟨oldText, newText, out, hold', hnew', hout, h⟩
    rcases hdisk with ⟨hsame, rfl⟩ | ⟨grown, l', hgrows, hwritten⟩
    · refine ⟨Or.inr ⟨backup, hbackup, ?_⟩, new, hnew, Or.inl (hregenerated _ ?_)⟩
      · rw [hsame]
        exact readBytes_eq_ok_iff.2 ⟨m, hcopy⟩
      · rw [hsame]
        exact hnewText
    · -- the visitor is where it was, so the backup is elsewhere
      obtain rfl : l' = l := Except.ok.inj (hwritten.locate.symm.trans
        (locate_of_keeps hgrows.keepsDirectories hvisitor.locate))
      have hkept : after.disk.HoldsAt backup.toText m old :=
        (hgrows.keepsEntries.holdsAt hcopy).of_changesOnly hwritten.changes hwritten.place hne
      refine ⟨Or.inr ⟨backup, hbackup, readBytes_eq_ok_iff.2 ⟨m, hkept⟩⟩, new, hnew,
        Or.inl (hregenerated _ ?_)⟩
      have hread : after.disk.readBytes visitor.toText = .ok out.encodeUtf8 :=
        readBytes_eq_ok_iff.2 ⟨l', hwritten.holdsAt⟩
      rw [textAt?_of_readBytes hread]
      exact ofBytes?_of_regenerateText hold' hnew' hout

/-- The steps of a run on a visitor that is there. -/
theorem ends_steps (hbackup : regenerator.settings.backupPath visitor = .ok backup)
    (habsolute : visitor.toText.head? = some '/')
    (hvisitor : world.disk.HoldsAt visitor.toText l old)
    (htool : tool.WritesOnly grammar.parent.parts l) :
    Ends (regenerator.steps tool grammar visitor backup) world fun result after =>
      RunEnds regenerator visitor old tool.written result after.disk := by
  unfold steps
  rw [ends_bind, ends_isThere hvisitor]
  dsimp only
  rw [if_pos rfl]
  refine (ends_backUp backup hvisitor).bind ?_ fun e after h => h ▸ .unchanged hvisitor e
  rintro _ copied ⟨m, hne, hwritten⟩
  -- from here on the backup holds the old visitor
  have hcopy := hwritten.holdsAt
  have hvisitor := hvisitor.of_changesOnly hwritten.changes hwritten.place hne.symm
  refine (ends_enter .backedUp copied).bind ?_ fun e after h => h ▸ .unchanged hvisitor e
  intro _ started hstarted
  rw [← hstarted] at hcopy hvisitor
  have hrooted := rooted_of_locate habsolute hvisitor.locate
  refine (ends_generate regenerator.settings htool hrooted hvisitor).bind ?_ ?_
  · rintro _ generated ⟨hchanges, new, hnew, hfile⟩
    have hcopy := hcopy.of_changesOnly hchanges hvisitor.not_directory hne
    refine (ends_enter .regenerated generated).bind ?_ fun e after h =>
      h ▸ .backedUp hbackup hcopy hfile hnew e
    intro _ entered hentered
    rw [← hentered] at hcopy hfile
    rw [ends_bind, ends_isThere hcopy]
    dsimp only
    rw [if_pos rfl]
    refine (ends_updateRun _ entered).bind ?_ fun e after h =>
      h ▸ .backedUp hbackup hcopy hfile hnew e
    intro _ updated hupdated
    rw [← hupdated] at hcopy hfile
    refine (ends_merge_backup hbackup hfile hcopy hne hnew).bind ?_ fun e after h => h
    intro summary merged hmerged
    refine (ends_updateRun _ merged).bind ?_ fun e after h => h ▸ hmerged.fail e
    intro _ last hlast
    exact RunEnds.enter (hlast ▸ hmerged) _
  · rintro e after ⟨hchanges, new, hnew, hfile⟩
    have hcopy := hcopy.of_changesOnly hchanges hvisitor.not_directory hne
    exact .backedUp hbackup hcopy hfile hnew e

theorem anchor_of_resolveGrammar {settings : Settings} {disk : Disk} {argument : Option Text}
    (h : settings.resolveGrammar disk argument = .ok grammar) : grammar.anchor = .root := by
  unfold Settings.resolveGrammar at h
  split at h
  · exact absurd h (by simp)
  · exact absurd h (by simp)
  · split at h
    · exact absurd h (by simp)
    · dsimp only at h
      split at h
      · exact absurd h (by simp)
      · split at h
        · exact absurd h (by simp)
        · exact absurd h (by simp)
        · rw [← Except.ok.inj h]
          rfl

theorem anchor_of_visitorPath {settings : Settings}
    (h : settings.visitorPath grammar = .ok visitor) : visitor.anchor = grammar.anchor := by
  simp only [Settings.visitorPath, bind_eq_ok_iff] at h
  obtain ⟨profile, -, count, -, h⟩ := h
  rw [← Except.ok.inj h]
  rfl

theorem head?_toText {path : Path} (h : path.anchor = .root) : path.toText.head? = some '/' := by
  unfold Path.toText
  rw [h]
  rfl

/-- However a run ends, what the visitor held is in its place or in the backup; and if the run
returns, then the visitor is regenerated from what it held and what the tool has written. -/
theorem ends_run {argument : Option Text}
    (hgrammar : ∀ found, regenerator.settings.resolveGrammar world.disk argument = .ok found →
      found = grammar)
    (hpath : regenerator.settings.visitorPath grammar = .ok visitor)
    (hvisitor : world.disk.HoldsAt visitor.toText l old)
    (htool : tool.WritesOnly grammar.parent.parts l) :
    Ends (regenerator.run tool argument) world fun result after =>
      RunEnds regenerator visitor old tool.written result after.disk := by
  unfold run
  dsimp only
  rw [ends_bind, Action.ends_disk]
  dsimp only
  rw [ends_bind, Action.ends_ofExcept]
  cases hfound : regenerator.settings.resolveGrammar world.disk argument with
  | error e => exact .unchanged hvisitor e
  | ok found =>
    obtain rfl := hgrammar found hfound
    have habsolute : visitor.toText.head? = some '/' :=
      head?_toText ((anchor_of_visitorPath hpath).trans (anchor_of_resolveGrammar hfound))
    dsimp only
    rw [ends_bind, Action.ends_ofExcept, hpath]
    dsimp only
    rw [ends_bind, Action.ends_ofExcept]
    cases hbackup : regenerator.settings.backupPath visitor with
    | error e => exact .unchanged hvisitor e
    | ok backup =>
      dsimp only
      rw [ends_bind, ends_modify]
      dsimp only
      rw [ends_bind, ends_tryCatch]
      generalize hstart : World.mk world.disk _ _ _ = start
      have hvisitor : start.disk.HoldsAt visitor.toText l old := hstart ▸ hvisitor
      refine (ends_steps hbackup habsolute hvisitor htool).mono ?_
      rintro (e | _) after hafter
      · dsimp only
        split
        · rw [ends_bind]
          refine (ends_enter .failed after).mono ?_
          rintro (e' | _) last hlast
          · exact hlast ▸ hafter.fail e'
          · show RunEnds regenerator visitor old tool.written (.error e) last.disk
            exact hlast ▸ hafter
        · exact hafter
      · exact hafter.enter .done

end Regenerator
end StubGraft
