import StubGraft.Proofs.Placement

/-!
# What merging two files does

Merging works on any two files and writes to the new one or to a third.  All that it can do is said
here at once: what it gives back, which file it writes, what it reports, and that everything else
stays as it was.

* `Regenerator.ends_mergeFiles_alike`, `Regenerator.ends_mergeFiles_unlike` — a merge of two files
  that can be read is one write, if that.
* `Regenerator.MergeEffect` — the effect of a merge.
* `Regenerator.mergeFiles_effect` — every merge has it.
-/

namespace StubGraft

open Disk Writer

/-! ## Reading -/

/-- A world after some more events. -/
def World.report (world : World) (events : List Event) : World :=
  { world with log := world.log ++ events }

section Reading

variable {profile : Profile} {source : Source} {world : World}

/-- A file that can be read as text gives the model of that text. -/
theorem Profile.ends_readModel_of_text {text : Text} {post : Except Error Model → World → Prop}
    (h : world.disk.textAt? source.path.toText = some text) :
    Ends (profile.readModel source) world post ↔
      post (.ok (scan profile.convention text).1)
        (world.report (scan profile.convention text).2) := by
  unfold Disk.textAt? Text.ofBytes? at h
  unfold Profile.readModel
  rw [ends_bind, Action.ends_disk]
  dsimp only
  cases hread : world.disk.readBytes source.path.toText with
  | error fault => simp [hread] at h
  | ok bytes =>
    rw [hread] at h
    dsimp only at h ⊢
    cases hdecode : Text.decodeUtf8 bytes with
    | error e => simp [hdecode] at h
    | ok decoded =>
      rw [hdecode] at h
      obtain rfl : decoded.uniformLineEnds = text := Option.some.inj h
      exact Iff.rfl

/-- A file that cannot be read as text is reported, unless its path holds a null character. -/
theorem Profile.ends_readModel_unread (h : world.disk.textAt? source.path.toText = none)
    (hnull : ¬ source.path.HasNull) :
    Ends (profile.readModel source) world fun result after =>
      (∃ e, result = .error e ∧ e.category? = some .parse) ∧ after = world := by
  unfold Disk.textAt? Text.ofBytes? at h
  unfold Profile.readModel
  rw [ends_bind, Action.ends_disk]
  dsimp only
  cases hread : world.disk.readBytes source.path.toText with
  | error fault =>
    cases fault with
    | nullCharacter => exact absurd (Path.contains_toText.1 (contains_of_readBytes hread)) hnull
    | system e => exact ⟨⟨_, rfl, rfl⟩, rfl⟩
  | ok bytes =>
    rw [hread] at h
    dsimp only at h ⊢
    cases hdecode : Text.decodeUtf8 bytes with
    | error e => exact ⟨⟨_, rfl, rfl⟩, rfl⟩
    | ok decoded => simp [hdecode] at h

end Reading

namespace Regenerator

variable {regenerator : Regenerator} {old new : Source} {output : Option Path} {world : World}

/-! ## One write, if that -/

section Texts

variable {oldText newText : Text} {post : Except Error (Option Summary) → World → Prop}

/-- Files with the same stub bodies are not merged, and another file gets the new text. -/
theorem ends_mergeFiles_alike (hold : world.disk.textAt? old.path.toText = some oldText)
    (hnew : world.disk.textAt? new.path.toText = some newText)
    (he : equivalent (scan regenerator.profile.convention oldText).1
      (scan regenerator.profile.convention newText).1 = true) :
    Ends (regenerator.mergeFiles old new output) world post ↔
      let reported := ((world.report (scan regenerator.profile.convention oldText).2).report
        (scan regenerator.profile.convention newText).2).report [.noDifference]
      if output.getD new.path = new.path then post (.ok none) reported
      else
        Ends (regenerator.writer.write (output.getD new.path) newText.points false) reported
          fun result after => post (result.map fun _ => none) after := by
  have hnext : (world.report (scan regenerator.profile.convention oldText).2).disk.textAt?
      new.path.toText = some newText := hnew
  unfold mergeFiles
  rw [ends_bind, Profile.ends_readModel_of_text hold]
  dsimp only
  rw [ends_bind, Profile.ends_readModel_of_text hnext]
  dsimp only
  rw [if_pos he, ends_bind, Action.ends_report]
  dsimp only
  have hlines : Text.joinLines (scan regenerator.profile.convention newText).1.lines = newText :=
    Text.joinLines_splitLines newText
  rw [hlines]
  by_cases hsame : output.getD new.path = new.path
  · rw [if_pos hsame, if_neg fun h => h hsame]
    exact Iff.rfl
  · rw [if_neg hsame, if_pos hsame, ends_bind]
    apply ends_congr
    rintro (e | _) after
    · exact Iff.rfl
    · exact Iff.rfl

/-- Other files are merged, and the result is written. -/
theorem ends_mergeFiles_unlike {out : Text}
    (hold : world.disk.textAt? old.path.toText = some oldText)
    (hnew : world.disk.textAt? new.path.toText = some newText)
    (he : equivalent (scan regenerator.profile.convention oldText).1
      (scan regenerator.profile.convention newText).1 = false)
    (hout : mergeTexts regenerator.profile.convention oldText newText = .ok out) :
    Ends (regenerator.mergeFiles old new output) world post ↔
      let oldModel := (scan regenerator.profile.convention oldText).1
      let newModel := (scan regenerator.profile.convention newText).1
      let summary := summarize oldModel newModel
      let reported := (((world.report (scan regenerator.profile.convention oldText).2).report
        (scan regenerator.profile.convention newText).2).report [.merging]).report
          (merge oldModel newModel).2
      Ends (regenerator.writer.write (output.getD new.path) out.points
          regenerator.settings.output.validateBeforeWrite.isTruthy) reported fun result after =>
        match result with
        | .ok _ => post (.ok (some summary)) (after.report [.written (output.getD new.path).toText
            summary.preserved.length summary.adopted.length summary.dropped.length])
        | .error e => post (.error e) after := by
  have hrender : render (scan regenerator.profile.convention newText).1
      (merge (scan regenerator.profile.convention oldText).1
        (scan regenerator.profile.convention newText).1).1 regenerator.profile.headerLines =
      .ok out := hout
  have hnext : (world.report (scan regenerator.profile.convention oldText).2).disk.textAt?
      new.path.toText = some newText := hnew
  unfold mergeFiles
  rw [ends_bind, Profile.ends_readModel_of_text hold]
  dsimp only
  rw [ends_bind, Profile.ends_readModel_of_text hnext]
  dsimp only
  rw [if_neg (by simp [he]), ends_bind, Action.ends_report]
  dsimp only
  rw [ends_bind, Action.ends_report]
  dsimp only
  rw [ends_bind, Action.ends_ofExcept, hrender]
  dsimp only [Except.mapError]
  rw [ends_bind]
  apply ends_congr
  rintro (e | _) after
  · exact Iff.rfl
  · exact Iff.rfl

end Texts

/-! ## Main result -/

/-- A text is written to a file and a summary given back; or the system refuses to write it, and
then there are at most new directories above the file.  Apart from that there could be a null
character in the working directory only. -/
def StoresOrRefuses (output : Path) (text : Text) (summary : Option Summary) (before : Disk)
    (result : Except Error (Option Summary)) (after : Disk) : Prop :=
  (result = .ok summary ∧ ∃ l, Stores output text.encodeUtf8 l before after) ∨
  (∃ e, result = .error e ∧ e.Refuses output ∧ GrowsAbove output.parent before after) ∨
  (result = .error .nullCharacter ∧ ∃ name ∈ before.workdir, '\x00' ∈ name)

/-- What merging an edited and a new file into an output does. -/
structure MergeEffect (regenerator : Regenerator) (old new output : Path) (before : World)
    (result : Except Error (Option Summary)) (after : World) : Prop where
  /-- The tool is not called, and no record of a run changes. -/
  quiet : after.launches = before.launches ∧ after.latest = before.latest
  /-- A file that cannot be read as text is reported, and the disk stays as it is. -/
  unread : before.disk.textAt? old.toText = none ∨ before.disk.textAt? new.toText = none →
    (∃ e, result = .error e ∧ e.category? = some .parse) ∧ after.disk = before.disk
  /-- Files with the same stub bodies are not merged.  If the new one is the output, the disk stays
  as it is; any other output gets the new text, with balanced braces or not. -/
  alike : ∀ oldText newText, before.disk.textAt? old.toText = some oldText →
    before.disk.textAt? new.toText = some newText →
    equivalent (scan regenerator.profile.convention oldText).1
      (scan regenerator.profile.convention newText).1 = true →
    if output = new then result = .ok none ∧ after.disk = before.disk
    else StoresOrRefuses output newText none before.disk result after.disk
  /-- Other files are merged.  The output gets the merged text, unless it is to be checked and its
  braces are not balanced. -/
  unlike : ∀ oldText newText, before.disk.textAt? old.toText = some oldText →
    before.disk.textAt? new.toText = some newText →
    equivalent (scan regenerator.profile.convention oldText).1
      (scan regenerator.profile.convention newText).1 = false →
    ∃ out,
      render (scan regenerator.profile.convention newText).1
        (merge (scan regenerator.profile.convention oldText).1
          (scan regenerator.profile.convention newText).1).1
        regenerator.profile.headerLines = .ok out ∧
      if regenerator.settings.output.validateBeforeWrite.isTruthy = true ∧
          Braces.balanced out = false then
        result = .error (.unbalanced (Braces.opens out) (Braces.closes out)) ∧
          after.disk = before.disk
      else
        StoresOrRefuses output out
          (some (summarize (scan regenerator.profile.convention oldText).1
            (scan regenerator.profile.convention newText).1)) before.disk result after.disk

theorem storesOrRefuses_of_storeEnds {target : Path} {text : Text} {before after : Disk}
    {result : Except Error Unit} (hnull : ¬ target.HasNull)
    (h : StoreEnds target text.encodeUtf8 before result after) (summary : Option Summary) :
    StoresOrRefuses target text summary before (result.map fun _ => summary) after := by
  cases result with
  | ok _ => exact Or.inl ⟨rfl, h⟩
  | error e =>
    rcases h with ⟨hrefuses, hgrows⟩ | ⟨rfl, hmeets | ⟨-, hworkdir⟩⟩
    · exact Or.inr (Or.inl ⟨e, rfl, hrefuses, hgrows⟩)
    · exact absurd hmeets hnull
    · exact Or.inr (Or.inr ⟨rfl, hworkdir⟩)

theorem ends_mergeFiles_unread (hold : ¬ old.path.HasNull) (hnew : ¬ new.path.HasNull)
    (h : world.disk.textAt? old.path.toText = none ∨ world.disk.textAt? new.path.toText = none) :
    Ends (regenerator.mergeFiles old new output) world fun result after =>
      (∃ e, result = .error e ∧ e.category? = some .parse) ∧ after.disk = world.disk := by
  unfold mergeFiles
  cases hread : world.disk.textAt? old.path.toText with
  | none =>
    refine (Profile.ends_readModel_unread hread hold).bind ?_ ?_
    · rintro model after ⟨⟨e, he, -⟩, -⟩
      exact absurd he nofun
    · rintro e after ⟨⟨e', he', hparse⟩, rfl⟩
      exact ⟨⟨e, rfl, Except.error.inj he' ▸ hparse⟩, rfl⟩
  | some oldText =>
    have hunread : (world.report (scan regenerator.profile.convention oldText).2).disk.textAt?
        new.path.toText = none := h.resolve_left (by simp [hread])
    rw [ends_bind, Profile.ends_readModel_of_text hread]
    dsimp only
    refine (Profile.ends_readModel_unread hunread hnew).bind ?_ ?_
    · rintro model after ⟨⟨e, he, -⟩, -⟩
      exact absurd he nofun
    · rintro e after ⟨⟨e', he', hparse⟩, rfl⟩
      exact ⟨⟨e, rfl, Except.error.inj he' ▸ hparse⟩, rfl⟩

section Effects

variable {oldText newText : Text}

theorem ends_mergeFiles_alike_effect (hnull : ¬ (output.getD new.path).HasNull)
    (hold : world.disk.textAt? old.path.toText = some oldText)
    (hnew : world.disk.textAt? new.path.toText = some newText)
    (he : equivalent (scan regenerator.profile.convention oldText).1
      (scan regenerator.profile.convention newText).1 = true) :
    Ends (regenerator.mergeFiles old new output) world fun result after =>
      if output.getD new.path = new.path then result = .ok none ∧ after.disk = world.disk
      else StoresOrRefuses (output.getD new.path) newText none world.disk result after.disk := by
  rw [ends_mergeFiles_alike hold hnew he]
  dsimp only
  split
  · exact ⟨rfl, rfl⟩
  · refine (ends_write_places regenerator.writer _ _ newText false).mono ?_
    rintro result after ⟨-, ⟨e, hfalse, -⟩ | ⟨-, hends⟩⟩
    · exact absurd hfalse (by decide)
    · exact storesOrRefuses_of_storeEnds hnull hends none

theorem ends_mergeFiles_unlike_effect {out : Text} (hnull : ¬ (output.getD new.path).HasNull)
    (hold : world.disk.textAt? old.path.toText = some oldText)
    (hnew : world.disk.textAt? new.path.toText = some newText)
    (he : equivalent (scan regenerator.profile.convention oldText).1
      (scan regenerator.profile.convention newText).1 = false)
    (hout : mergeTexts regenerator.profile.convention oldText newText = .ok out) :
    Ends (regenerator.mergeFiles old new output) world fun result after =>
      if regenerator.settings.output.validateBeforeWrite.isTruthy = true ∧
          Braces.balanced out = false then
        result = .error (.unbalanced (Braces.opens out) (Braces.closes out)) ∧
          after.disk = world.disk
      else
        StoresOrRefuses (output.getD new.path) out
          (some (summarize (scan regenerator.profile.convention oldText).1
            (scan regenerator.profile.convention newText).1)) world.disk result after.disk := by
  by_cases hfails : regenerator.settings.output.validateBeforeWrite.isTruthy = true ∧
      Braces.balanced out = false
  · have hcheck : regenerator.writer.check out.points =
        .error (.unbalanced (Braces.opens out) (Braces.closes out)) := by
      simp [check_points, checkBalanced, hfails.2]
    simp only [if_pos hfails]
    rw [ends_mergeFiles_unlike hold hnew he hout]
    dsimp only
    refine (ends_write_places regenerator.writer _ _ out _).mono ?_
    rintro result after ⟨-, ⟨e, -, he, rfl, hsame⟩ | ⟨hpasses, -⟩⟩
    · rw [hcheck] at he
      cases he
      exact ⟨rfl, hsame⟩
    · simp [hcheck, hfails.1] at hpasses
  · simp only [if_neg hfails]
    rw [ends_mergeFiles_unlike hold hnew he hout]
    dsimp only
    refine (ends_write_places regenerator.writer _ _ out _).mono ?_
    rintro result after ⟨-, ⟨e, hvalidate, he, -⟩ | ⟨-, hends⟩⟩
    · have hbalanced : Braces.balanced out = true := by
        simpa [hvalidate] using hfails
      simp [check_points, checkBalanced, hbalanced] at he
    · have hstores := storesOrRefuses_of_storeEnds hnull hends
        (some (summarize (scan regenerator.profile.convention oldText).1
          (scan regenerator.profile.convention newText).1))
      cases result with
      | ok _ => exact hstores
      | error e => exact hstores

end Effects

/-- A folder with an edited and a new file. -/
def sampleFiles (oldText newText : Text) : World :=
  World.ofDisk ⟨[], [([Text.lit "old.js"], .file 0o644 oldText.encodeUtf8),
    ([Text.lit "new.js"], .file 0o644 newText.encodeUtf8)]⟩

/-- The category of the error that a result is, if it is reported. -/
def failure? {α : Type} : Except Error α → Option Category
  | .ok _ => none
  | .error e => e.category?

/-- A merge on paths without null characters reports files that cannot be read and leaves files with
the same stub bodies alone.  It writes the merged text, or the new one to another output, or leaves
all files as they were; and all that is new beside the output are directories above it. -/
theorem mergeFiles_effect (regenerator : Regenerator) (old new : Source) (output : Option Path)
    (world : World) (hold : '\x00' ∉ old.path.toText) (hnew : '\x00' ∉ new.path.toText)
    (houtput : ∀ path ∈ output, '\x00' ∉ path.toText) :
    Ends (regenerator.mergeFiles old new output) world
      (regenerator.MergeEffect old.path new.path (output.getD new.path) world) := by
  have hclean : ∀ {path : Path}, '\x00' ∉ path.toText → ¬ path.HasNull :=
    fun hpath hnull => hpath ((Path.mem_toText (by decide) (by decide)).2 hnull)
  have htarget : ¬ (output.getD new.path).HasNull := by
    cases output with
    | none => exact hclean hnew
    | some path => exact hclean (houtput path rfl)
  obtain ⟨hlaunches, hlatest, -⟩ := worksOnFiles_mergeFiles regenerator old new output world
  refine ⟨⟨hlaunches, hlatest⟩, ?_, ?_, ?_⟩
  · intro hunread
    exact ends_mergeFiles_unread (hclean hold) (hclean hnew) hunread
  · intro oldText newText holdText hnewText he
    exact ends_mergeFiles_alike_effect htarget holdText hnewText he
  · intro oldText newText holdText hnewText he
    obtain ⟨out, hout, -⟩ := mergeTexts_eq regenerator.profile.convention oldText newText
    exact ⟨out, hout, ends_mergeFiles_unlike_effect htarget holdText hnewText he hout⟩

/-- An edited body goes to a file in a folder that is not there yet. -/
theorem mergeFiles_effect_default :
    let old := Source.ofText (Text.lit "old.js")
    let new := Source.ofText (Text.lit "new.js")
    let output := Path.ofText (Text.lit "out/merged.js")
    let oldText := Text.lit "V.a = function(ctx) \x7b\n  edited();\n\x7d;"
    let newText := Text.lit "V.a = function(ctx) \x7b\n\x7d;\n"
    let world := sampleFiles oldText newText
    ('\x00' ∉ old.path.toText ∧ '\x00' ∉ new.path.toText ∧
      ∀ path ∈ some output, '\x00' ∉ path.toText) ∧
    Ends (Regenerator.default.mergeFiles old new (some output)) world fun result after =>
      result = .ok (some ⟨[Text.lit "V.a"], [], [], []⟩) ∧
      ∃ l, Stores output (oldText ++ ['\n']).encodeUtf8 l world.disk after.disk := by
  intro old new output oldText newText world
  have hold : '\x00' ∉ old.path.toText := by decide +kernel
  have hnew : '\x00' ∉ new.path.toText := by decide +kernel
  have houtput : ∀ path ∈ some output, '\x00' ∉ path.toText := by decide +kernel
  have hresult : ((Regenerator.default.mergeFiles old new (some output)).run world).1 =
      .ok (some ⟨[Text.lit "V.a"], [], [], []⟩) := by decide +kernel
  have hout : mergeTexts Regenerator.default.profile.convention oldText newText =
      .ok (oldText ++ ['\n']) := by decide +kernel
  obtain ⟨-, -, -, hunlike⟩ :=
    mergeFiles_effect .default old new (some output) world hold hnew houtput
  obtain ⟨out, hrender, heffect⟩ :=
    hunlike oldText newText (by decide +kernel) (by decide +kernel) (by decide +kernel)
  obtain rfl : out = oldText ++ ['\n'] := Except.ok.inj (hrender.symm.trans hout)
  rw [if_neg (by decide +kernel), hresult] at heffect
  rcases heffect with ⟨-, hstores⟩ | ⟨e, he, -⟩ | ⟨he, -⟩
  · exact ⟨⟨hold, hnew, houtput⟩, hresult, hstores⟩
  · exact absurd he nofun
  · exact absurd he nofun

/-- Files with the same stub bodies may end in an error all the same: if their text is to be copied
to another file and the system refuses to write it, as it does in the place of a directory. -/
theorem mergeFiles_alike_refused_default :
    let text := Text.lit "V.a = function(ctx) \x7b\n\x7d;"
    let old := Source.ofText (Text.lit "old.js")
    let new := Source.ofText (Text.lit "new.js")
    let output := Path.ofText (Text.lit "d")
    let files := sampleFiles text text
    let world := World.ofDisk (files.disk.put [Text.lit "d"] .directory)
    world.disk.textAt? old.path.toText = some text ∧
    world.disk.textAt? new.path.toText = some text ∧
    equivalent (scan Regenerator.default.profile.convention text).1
      (scan Regenerator.default.profile.convention text).1 = true ∧
    failure? ((Regenerator.default.mergeFiles old new (some output)).run world).1 =
      some .write := by
  decide +kernel

end Regenerator
end StubGraft
