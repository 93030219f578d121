import StubGraft.Proofs.Courses

/-!
# What failed runs leave

The category of the error that a run ends in tells what the run has left.  Before its files are
known nothing has happened, and a copy that is refused changes nothing.  A tool that fails leaves
the copy and its own changes, and whatever fails after the tool leaves what the tool has left.

* `FailsAmong`, `Settings.failsAmong_runFiles` — the categories of errors in the settings.
* `Call.Leaves` — what a call leaves, by the category of its error.
* `Call.leaves_of_category?` — each category leaves what it should.
-/

namespace StubGraft

open Disk

/-! ## Categories of errors -/

/-- If a result is an error that is reported, then in one of the given categories. -/
def FailsAmong {α : Type} (categories : List Category) (result : Except Error α) : Prop :=
  ∀ e, result = .error e → e.Among categories

section Rules

variable {α β : Type} {categories : List Category}

theorem failsAmong_ok (a : α) : FailsAmong categories (.ok a) := by
  intro e he
  cases he

theorem failsAmong_error {e : Error} (h : e.Among categories) :
    FailsAmong categories (.error e : Except Error α) := by
  rintro _ ⟨⟩
  exact h

theorem FailsAmong.bind {result : Except Error α} {next : α → Except Error β}
    (h : FailsAmong categories result) (hnext : ∀ a, FailsAmong categories (next a)) :
    FailsAmong categories (result >>= next) := by
  cases result with
  | ok a => exact hnext a
  | error e => exact failsAmong_error (h e rfl)

theorem FailsAmong.map {result : Except Error α} (h : FailsAmong categories result) (f : α → β) :
    FailsAmong categories (result.map f) := by
  cases result with
  | ok a => exact failsAmong_ok _
  | error e => exact failsAmong_error (h e rfl)

theorem FailsAmong.mono {more : List Category} {result : Except Error α}
    (h : FailsAmong categories result) (hsub : ∀ category ∈ categories, category ∈ more) :
    FailsAmong more result :=
  fun e he => (h e he).mono hsub

/-- An error that shows a value keeps its category, unless the value cannot be shown. -/
theorem failsAmong_showing {environment : Environment} {value : Value} {e : Error}
    (h : e.Among categories) :
    FailsAmong categories (.error (environment.showing value e) : Except Error α) := by
  unfold Environment.showing
  split
  · exact failsAmong_error h
  · exact failsAmong_error (Error.among_of_escapes rfl)

end Rules

namespace Settings

/-! ### Settings -/

theorem failsAmong_patternOf (environment : Environment) (base : Profile) (value : Value) :
    FailsAmong [.argument] (patternOf environment base value) := by
  unfold patternOf
  split
  · exact failsAmong_ok _
  · split
    · exact failsAmong_ok _
    · exact failsAmong_error (Error.among_of_category? rfl)
    · exact failsAmong_error (Error.among_of_escapes rfl)
    · exact failsAmong_error (Error.among_of_escapes rfl)
  · exact failsAmong_showing (Error.among_of_category? rfl)

theorem failsAmong_markerOf (environment : Environment) (base : Profile) (value : Value) :
    FailsAmong [.argument] (markerOf environment base value) := by
  unfold markerOf
  split
  · exact failsAmong_ok _
  · split
    · exact failsAmong_error (Error.among_of_category? rfl)
    · exact failsAmong_ok _
  · exact failsAmong_showing (Error.among_of_category? rfl)

theorem failsAmong_headerOf (environment : Environment) (base : Profile) (value : Value) :
    FailsAmong [.argument] (headerOf environment base value) := by
  unfold headerOf
  split
  · exact failsAmong_ok _
  · exact failsAmong_ok _
  · exact failsAmong_showing (Error.among_of_category? rfl)

theorem failsAmong_profile (settings : Settings) : FailsAmong [.argument] settings.profile := by
  have hlanguage :
      FailsAmong [.argument] (Profile.ofLanguage settings.environment settings.language) := by
    unfold Profile.ofLanguage
    split
    · split
      · exact failsAmong_ok _
      · exact failsAmong_error (Error.among_of_category? rfl)
    · exact failsAmong_showing (Error.among_of_category? rfl)
  unfold profile
  split
  · exact failsAmong_error (Error.among_of_escapes rfl)
  · exact hlanguage.bind fun base => (failsAmong_patternOf _ base _).bind fun _ =>
      (failsAmong_markerOf _ base _).bind fun _ => (failsAmong_headerOf _ base _).bind fun _ =>
        failsAmong_ok _

/-! ### The files of a run -/

theorem failsAmong_resolveGrammar (settings : Settings) (disk : Disk) (argument : Option Text) :
    FailsAmong [.argument, .extension] (settings.resolveGrammar disk argument) := by
  unfold resolveGrammar
  split
  · exact failsAmong_error ((Error.among_of_category? rfl).mono (by simp))
  · exact failsAmong_error ((Error.among_of_category? rfl).mono (by simp))
  · split
    · exact failsAmong_error (Error.among_of_escapes rfl)
    · dsimp only
      split
      · exact failsAmong_showing ((Error.among_of_category? rfl).mono (by simp))
      · split
        · exact failsAmong_error (Error.among_of_escapes rfl)
        · exact failsAmong_error ((Error.among_of_category? rfl).mono (by simp))
        · exact failsAmong_ok _

theorem failsAmong_visitorPath (settings : Settings) (grammar : Path) :
    FailsAmong [.argument] (settings.visitorPath grammar) := by
  have hlength : ∀ value, FailsAmong [.argument] (lengthOf value) := by
    intro value
    unfold lengthOf
    split
    · exact failsAmong_ok _
    · exact failsAmong_ok _
    · exact failsAmong_ok _
    · exact failsAmong_error (Error.among_of_escapes rfl)
  exact settings.failsAmong_profile.bind fun _ => (hlength _).bind fun _ => failsAmong_ok _

theorem failsAmong_backupPath (settings : Settings) (visitor : Path) :
    FailsAmong [] (settings.backupPath visitor) := by
  unfold backupPath
  split
  · intro e he
    obtain ⟨fault, -, rfl⟩ := mapError_eq_error_iff.1 he
    exact Error.among_of_escapes (by cases fault <;> rfl)
  · exact failsAmong_error (Error.among_of_escapes rfl)

/-- A run that does not find its files fails for its argument or the extension of its grammar. -/
theorem failsAmong_runFiles (settings : Settings) (disk : Disk) (argument : Option Text) :
    FailsAmong [.argument, .extension] (settings.runFiles disk argument) :=
  (settings.failsAmong_resolveGrammar disk argument).bind fun grammar =>
    ((settings.failsAmong_visitorPath grammar).mono (by simp)).bind fun visitor =>
      ((settings.failsAmong_backupPath visitor).mono (by simp)).bind fun _ => failsAmong_ok _

/-- That there are no words to call the tool with is no reported error. -/
theorem failsAmong_launchWords (settings : Settings) (grammar : Path) :
    FailsAmong [] (settings.launchWords grammar) := by
  have hextra : FailsAmong [] settings.readExtraArgs := by
    unfold readExtraArgs
    split
    · exact failsAmong_error (Error.among_of_escapes rfl)
    · exact failsAmong_ok _
  have hitems : ∀ value, FailsAmong [] (itemsOf value) := by
    intro value
    unfold itemsOf
    split
    · exact failsAmong_ok _
    · exact failsAmong_ok _
    · exact failsAmong_ok _
    · exact failsAmong_error (Error.among_of_escapes rfl)
  have hwords : ∀ index values, FailsAmong [] (wordsFrom index values) := by
    intro index values
    fun_induction wordsFrom index values with
    | case1 => exact failsAmong_ok _
    | case2 index word more ih => exact ih.map _
    | case3 => exact failsAmong_error (Error.among_of_escapes rfl)
  have hcommand : FailsAmong [] (settings.toolCommand grammar) :=
    hextra.bind fun value => (hitems value).bind fun _ => failsAmong_ok _
  have hcheck : ∀ words, FailsAmong [] (checkWords words) := by
    intro words
    unfold checkWords
    split
    · exact failsAmong_error (Error.among_of_escapes rfl)
    · exact failsAmong_ok _
  exact (hcommand.bind fun values => hwords 0 values).bind fun words =>
    (hcheck words).bind fun _ => failsAmong_ok _

end Settings

/-! ## Calls that fail -/

/-- The category of the error that a call ends in, if it is reported. -/
def Call.category? (call : Call) (regenerator : Regenerator) (world : World) : Option Category :=
  match call.result regenerator world with
  | .ok _ => none
  | .error e => e.category?

/-- What a call leaves that ends in an error of a category. -/
def Call.Leaves (call : Call) (regenerator : Regenerator) (world : World) : Category → Prop
  -- nothing has happened
  | .argument | .extension => call.after regenerator world = world
  -- the tool is not called
  | .backup =>
    (call.after regenerator world).disk = world.disk ∧
      (call.after regenerator world).launches = world.launches
  -- the copy, if there was a visitor, and what the tool has written and deleted
  | .generation => ∃ files copied,
    regenerator.settings.runFiles world.disk call.argument = .ok files ∧
      Regenerator.Copies files.visitor files.backup world.disk copied ∧
      (call.after regenerator world).disk = call.tool.edited files.folder copied
  -- what the tool has left
  | .parse | .write => ∃ files copied,
    regenerator.settings.runFiles world.disk call.argument = .ok files ∧
      Regenerator.Copies files.visitor files.backup world.disk copied ∧
      SameEntries (call.tool.edited files.folder copied) (call.after regenerator world).disk

/-- A tool fails in one category, or by printing what cannot be read. -/
theorem Tool.failsAmong_ending (tool : Tool) : FailsAmong [.generation] tool.ending := by
  have hprinted : ∀ bytes, FailsAmong [.generation] (readPrinted bytes) := by
    intro bytes
    unfold readPrinted
    split
    · exact failsAmong_error (Error.among_of_escapes rfl)
    · exact failsAmong_ok _
  cases tool with
  | broken fault => exact failsAmong_error (Error.among_of_category? rfl)
  | working edits code stdout stderr =>
    refine (hprinted stdout).bind fun _ => (hprinted stderr).bind fun _ => ?_
    split
    · exact failsAmong_error (Error.among_of_category? rfl)
    · exact failsAmong_ok _

namespace Regenerator

variable {regenerator : Regenerator} {tool : Tool} {files : RunFiles} {disk after : Disk}
  {calls : List Launch} {run : Run} {e : Error} {category : Category}

theorem category?_copyError {fault : CopyFault}
    (h : (copyError files fault).category? = some category) : category = .backup := by
  rcases fault with _ | (_ | _)
  · exact (Option.some.inj h).symm
  · exact absurd h (by simp [copyError, Error.category?])
  · exact (Option.some.inj h).symm

/-- What a course leaves that ends in a reported error. -/
theorem Course.leaves (h : Course regenerator tool files disk (.error e) after calls run)
    (hcategory : e.category? = some category) :
    category = .backup ∧ after = disk ∧ calls = [] ∨
    ∃ copied, Copies files.visitor files.backup disk copied ∧
      (category = .generation ∧ after = tool.edited files.folder copied ∨
        category ∈ [.parse, .write] ∧ SameEntries (tool.edited files.folder copied) after) := by
  cases h with
  | unseen => exact absurd hcategory (by simp [Error.category?])
  | uncopied => exact Or.inl ⟨category?_copyError hcategory, rfl, rfl⟩
  | uncalled hbegins hwords =>
    have hamong := regenerator.settings.failsAmong_launchWords files.grammar e hwords
    exact absurd (hamong category hcategory) (by simp)
  | failed hbegins hwords htool =>
    have hamong := tool.failsAmong_ending e htool
    exact Or.inr ⟨_, hbegins.copies, Or.inl ⟨List.mem_singleton.1 (hamong category hcategory), rfl⟩⟩
  | generated hbegins hwords htool hfinish =>
    refine Or.inr ⟨_, hbegins.copies, Or.inr ?_⟩
    cases hfinish with
    | unseen => exact absurd hcategory (by simp [Error.category?])
    | unmerged hthere hmerge =>
      exact ⟨hmerge.among category hcategory, hmerge.same (by simp [hcategory])⟩

end Regenerator

/-- The category of the error that a call ends in determines what the call leaves. -/
theorem Call.leaves_of_category? {call : Call} {regenerator : Regenerator} {world : World}
    {category : Category} (h : call.category? regenerator world = some category) :
    call.Leaves regenerator world category := by
  obtain ⟨e, hresult, hcategory⟩ : ∃ e, call.result regenerator world = .error e ∧
      e.category? = some category := by
    unfold Call.category? at h
    split at h
    · cases h
    · rename_i e hresult
      exact ⟨e, hresult, h⟩
  cases hfiles : regenerator.settings.runFiles world.disk call.argument with
  | error e' =>
    obtain ⟨hresult', hafter⟩ := Call.eq_of_runFiles_error hfiles
    obtain rfl : e' = e := Except.error.inj (hresult'.symm.trans hresult)
    have hamong := regenerator.settings.failsAmong_runFiles world.disk call.argument e' hfiles
    rcases List.mem_pair.1 (hamong category hcategory) with rfl | rfl
    · exact hafter
    · exact hafter
  | ok files =>
    obtain ⟨calls, run, hlaunches, -, hcourse⟩ := Call.course_of_runFiles hfiles
    rw [hresult] at hcourse
    rcases hcourse.leaves hcategory with ⟨rfl, hdisk, rfl⟩ | ⟨copied, hcopies, hcases⟩
    · exact ⟨hdisk, hlaunches.trans (List.append_nil _)⟩
    · rcases hcases with ⟨rfl, hdisk⟩ | ⟨hmem, hsame⟩
      · exact ⟨files, copied, hfiles, hcopies, hdisk⟩
      · rcases List.mem_pair.1 hmem with rfl | rfl
        · exact ⟨files, copied, hfiles, hcopies, hsame⟩
        · exact ⟨files, copied, hfiles, hcopies, hsame⟩

/-- A merge that is not balanced, a visitor that is no text, a tool that fails, a directory in the
place of the backup, a grammar of another extension and none at all. -/
theorem Call.leaves_of_category?_default :
    let edited := Text.lit "V.a = function(ctx) \x7b\n  edited();\n\x7d;"
    let odd := Text.lit "V.a = function(ctx) \x7b\n\x7d;\n\x7d"
    let world := sampleFolder edited
    let taken := World.ofDisk (world.disk.put [Text.lit "EVisitor.js.old"] .directory)
    let unbalanced : Call := ⟨some (Text.lit "E.g4"),
      .working [.write (Text.lit "EVisitor.js") odd.encodeUtf8 none,
        .write (Text.lit "more/file") [1] none, .delete (Text.lit "E.g4")] 0 [] []⟩
    let undecodable : Call := ⟨some (Text.lit "E.g4"),
      .working [.write (Text.lit "EVisitor.js") [255] none] 0 [] []⟩
    let misnamed : Call := ⟨some (Text.lit "E.txt"), .working [] 0 [] []⟩
    let unnamed : Call := ⟨none, .working [] 0 [] []⟩
    (unbalanced.category? .default world = some .write ∧
      unbalanced.Leaves .default world .write) ∧
    (undecodable.category? .default world = some .parse ∧
      undecodable.Leaves .default world .parse) ∧
    ((sampleCall [odd] 3).category? .default world = some .generation ∧
      (sampleCall [odd] 3).Leaves .default world .generation) ∧
    ((sampleCall [odd] 0).category? .default taken = some .backup ∧
      (sampleCall [odd] 0).Leaves .default taken .backup) ∧
    (misnamed.category? .default world = some .extension ∧
      misnamed.Leaves .default world .extension) ∧
    (unnamed.category? .default world = some .argument ∧
      unnamed.Leaves .default world .argument) := by
  intro edited odd world taken unbalanced undecodable misnamed unnamed
  have hcategories : unbalanced.category? .default world = some .write ∧
      undecodable.category? .default world = some .parse ∧
      (sampleCall [odd] 3).category? .default world = some .generation ∧
      (sampleCall [odd] 0).category? .default taken = some .backup ∧
      misnamed.category? .default world = some .extension ∧
      unnamed.category? .default world = some .argument := by
    decide +kernel
  obtain ⟨hwrite, hparse, hgeneration, hbackup, hextension, hargument⟩ := hcategories
  exact ⟨⟨hwrite, leaves_of_category? hwrite⟩, ⟨hparse, leaves_of_category? hparse⟩,
    ⟨hgeneration, leaves_of_category? hgeneration⟩, ⟨hbackup, leaves_of_category? hbackup⟩,
    ⟨hextension, leaves_of_category? hextension⟩, ⟨hargument, leaves_of_category? hargument⟩⟩

end StubGraft
