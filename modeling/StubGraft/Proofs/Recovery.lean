import StubGraft.Proofs.Runs

/-!
# Recovering edits

Each run copies the visitor to its backup before the tool overwrites it, so after one run every
edited body is in the visitor or in the backup.  After several runs this depends on how they ended:
a run that returns leaves its merged bodies in the visitor, and the next run copies these; a run
that fails after the tool has written leaves an unmerged visitor, and the next run copies that over
the only file with the edits.

* `recordedBody?` — the body that a file records for a stub.
* `Session` — runs on one visitor, of which each has returned or has left the body in the visitor.
* `Session.invariant` — then the body is in the visitor.
* `Session.body_recoverable` — so however the next run ends, the body is in the visitor or in the
  backup.
* `LosesBody` — runs after which the body is in neither.
-/

namespace StubGraft

open Disk Regenerator

/-- The body that the file at the end of a path records for a stub. -/
def recordedBody? (convention : Convention) (disk : Disk) (path : Path) (name : Text) :
    Option (List Text) :=
  (disk.textAt? path.toText).bind fun text => (scan convention text).1.stubs.body? name

/-- Bytes that a file may hold record a stub. -/
def RecordsStub (convention : Convention) (name : Text) (bytes : List UInt8) : Prop :=
  ∃ text, Text.ofBytes? bytes = some text ∧
    (scan convention text).1.stubs.contains name = true

instance (convention : Convention) (name : Text) (bytes : List UInt8) :
    Decidable (RecordsStub convention name bytes) :=
  decidable_of_iff (((Text.ofBytes? bytes).any fun text =>
    (scan convention text).1.stubs.contains name) = true) (by rw [Option.any_eq_true]; rfl)

/-! ## Calls and sessions -/

/-- A call of a run. -/
structure Call where
  /-- What names the grammar. -/
  argument : Option Text
  /-- What the tool does. -/
  tool : Tool

/-- How a call ends. -/
def Call.result (call : Call) (regenerator : Regenerator) (world : World) : Except Error Unit :=
  ((regenerator.run call.tool call.argument).run world).1

/-- The world after a call. -/
def Call.after (call : Call) (regenerator : Regenerator) (world : World) : World :=
  ((regenerator.run call.tool call.argument).run world).2

/-- A call on one grammar, whose tool writes nothing but the visitor. -/
structure Call.OnVisitor (call : Call) (regenerator : Regenerator) (grammar visitor : Path)
    (world : World) : Prop where
  /-- The argument names no other grammar. -/
  resolves : ∀ found,
    regenerator.settings.resolveGrammar world.disk call.argument = .ok found → found = grammar
  /-- The tool writes no other file. -/
  writes : ∀ l, world.disk.locate visitor.toText = .ok l →
    call.tool.WritesOnly grammar.parent.parts l

/-- Calls on one visitor, one after the other.  Between them the visitor is not touched, and each of
them has returned or has left the given body in the visitor. -/
inductive Session (regenerator : Regenerator) (grammar visitor : Path) (name : Text)
    (body : List Text) (first : World) : List Call → World → Prop where
  /-- No call. -/
  | start : Session regenerator grammar visitor name body first [] first
  /-- One call more. -/
  | call {before between : World} {calls : List Call} {next : Call}
      (session : Session regenerator grammar visitor name body first calls before)
      (untouched : between.disk.readBytes visitor.toText = before.disk.readBytes visitor.toText)
      (onVisitor : next.OnVisitor regenerator grammar visitor between)
      (kept : next.result regenerator between = .ok () ∨
        recordedBody? regenerator.profile.convention (next.after regenerator between).disk visitor
          name = some body) :
      Session regenerator grammar visitor name body first (calls ++ [next])
        (next.after regenerator between)

/-! ## The body stays in the visitor -/

/-- The visitor records a body and is compatible with the texts that are generated. -/
def KeepsBody (convention : Convention) (generated : List Text) (visitor : Path) (name : Text)
    (body : List Text) (disk : Disk) : Prop :=
  ∃ text, disk.textAt? visitor.toText = some text ∧ Compatible convention text generated ∧
    (scan convention text).1.stubs.body? name = some body

variable {regenerator : Regenerator} {grammar visitor : Path} {name : Text} {body : List Text}
  {generated : List Text}

theorem exists_holdsAt_of_textAt? {disk : Disk} {path text : Text}
    (h : disk.textAt? path = some text) :
    ∃ l bytes, disk.HoldsAt path l bytes ∧ Text.ofBytes? bytes = some text := by
  rw [textAt?] at h
  split at h
  · rename_i bytes hread
    obtain ⟨l, hfile⟩ := readBytes_eq_ok_iff.1 hread
    exact ⟨l, bytes, hfile, h⟩
  · exact absurd h (by simp)

/-- How a call on a visitor ends. -/
theorem Call.OnVisitor.runEnds {call : Call} {world : World} {l : Location} {old : List UInt8}
    (h : call.OnVisitor regenerator grammar visitor world)
    (hpath : regenerator.settings.visitorPath grammar = .ok visitor)
    (hfile : world.disk.HoldsAt visitor.toText l old) :
    RunEnds regenerator visitor old call.tool.written (call.result regenerator world)
      (call.after regenerator world).disk :=
  ends_run h.resolves hpath hfile (h.writes l hfile.locate)

/-- A call that returns, or that leaves the body, leaves a visitor for the next one. -/
theorem KeepsBody.after {call : Call} {world : World}
    (h : KeepsBody regenerator.profile.convention generated visitor name body world.disk)
    (hpath : regenerator.settings.visitorPath grammar = .ok visitor)
    (honVisitor : call.OnVisitor regenerator grammar visitor world)
    (hwritten : ∀ bytes ∈ call.tool.written, ∃ text ∈ generated, Text.ofBytes? bytes = some text ∧
      (scan regenerator.profile.convention text).1.stubs.contains name = true)
    (hkept : call.result regenerator world = .ok () ∨
      recordedBody? regenerator.profile.convention (call.after regenerator world).disk visitor
        name = some body) :
    KeepsBody regenerator.profile.convention generated visitor name body
      (call.after regenerator world).disk := by
  obtain ⟨text, htext, hcompatible, hbody⟩ := h
  obtain ⟨l, old, hfile, hold⟩ := exists_holdsAt_of_textAt? htext
  obtain ⟨new, hnew, hvisitor⟩ := (honVisitor.runEnds hpath hfile).visitor
  -- what the tool has left is the old visitor or one of the generated texts
  have hgenerated : ∃ newText, Text.ofBytes? new = some newText ∧
      (newText = text ∨ newText ∈ generated ∧
        (scan regenerator.profile.convention newText).1.stubs.contains name = true) := by
    rcases List.mem_cons.1 hnew with rfl | hnew
    · exact ⟨text, hold, Or.inl rfl⟩
    · obtain ⟨newText, hmem, hbytes, hname⟩ := hwritten new hnew
      exact ⟨newText, hbytes, Or.inr ⟨hmem, hname⟩⟩
  obtain ⟨newText, hnewText, horigin⟩ := hgenerated
  rcases hvisitor with ⟨oldText, newText', out, hold', hnew', hout, hafter⟩ | ⟨hread, e, he⟩
  · obtain rfl : text = oldText := Option.some.inj (hold.symm.trans hold')
    obtain rfl : newText = newText' := Option.some.inj (hnewText.symm.trans hnew')
    rcases horigin with rfl | ⟨hmem, hname⟩
    · rw [regenerateText_self] at hout
      obtain rfl := Except.ok.inj hout
      exact ⟨newText, hafter, hcompatible, hbody⟩
    · obtain ⟨out', hout', hcompatible', hbodies⟩ := hcompatible.step hmem
      obtain rfl : out' = out := Except.ok.inj (hout'.symm.trans hout)
      exact ⟨out', hafter, hcompatible', hbodies name body hbody hname⟩
  · have hafter : (call.after regenerator world).disk.textAt? visitor.toText = some newText := by
      rw [textAt?_of_readBytes hread, hnewText]
    rcases hkept with hok | hrecorded
    · rw [hok] at he
      exact absurd he (by simp)
    · refine ⟨newText, hafter, ?_, ?_⟩
      · rcases horigin with rfl | ⟨hmem, -⟩
        · exact hcompatible
        · exact hcompatible.of_mem hmem
      · rwa [recordedBody?, hafter] at hrecorded

/-- Through a session the body stays in the visitor. -/
theorem Session.invariant {first last : World} {calls : List Call}
    (session : Session regenerator grammar visitor name body first calls last)
    (hpath : regenerator.settings.visitorPath grammar = .ok visitor)
    (hfirst : KeepsBody regenerator.profile.convention generated visitor name body first.disk)
    (hwritten : ∀ call ∈ calls, ∀ bytes ∈ call.tool.written, ∃ text ∈ generated,
      Text.ofBytes? bytes = some text ∧
        (scan regenerator.profile.convention text).1.stubs.contains name = true) :
    KeepsBody regenerator.profile.convention generated visitor name body last.disk := by
  induction session with
  | start => exact hfirst
  | call session untouched onVisitor kept ih =>
    obtain ⟨text, htext, hrest⟩ := ih fun call hcall =>
      hwritten call (List.mem_append_left _ hcall)
    have hbetween : KeepsBody regenerator.profile.convention generated visitor name body _ :=
      ⟨text, by rw [textAt?, untouched]; exact htext, hrest⟩
    exact hbetween.after hpath onVisitor (hwritten _ (by simp)) kept

/-! ## Evaluating sessions -/

instance decidableEqOk {ε α : Type} [DecidableEq α] (e : Except ε α) (a : α) :
    Decidable (e = .ok a) :=
  match e with
  | .ok b => decidable_of_iff (b = a) (by simp)
  | .error _ => isFalse (by simp)

instance decidableForallOk {ε α : Type} (e : Except ε α) (p : α → Prop) [DecidablePred p] :
    Decidable (∀ a, e = .ok a → p a) :=
  match e with
  | .ok b => decidable_of_iff (p b) (by simp)
  | .error _ => isTrue (by simp)

instance decidableWritesAt (folder l : Location) : (edit : Edit) →
    Decidable (∃ path bytes mode, edit = .write path bytes mode ∧ Location.below folder path = l)
  | .write path bytes mode => decidable_of_iff (Location.below folder path = l) <| by
      constructor
      · intro h
        exact ⟨path, bytes, mode, rfl, h⟩
      · rintro ⟨_, _, _, he, h⟩
        cases he
        exact h
  | .delete _ => isFalse <| by
      rintro ⟨_, _, _, he, -⟩
      cases he

instance (folder l : Location) : (tool : Tool) → Decidable (tool.WritesOnly folder l)
  | .broken _ => isTrue trivial
  | .working edits _ _ _ => List.decidableBAll _ edits

instance (call : Call) (regenerator : Regenerator) (grammar visitor : Path) (world : World) :
    Decidable (call.OnVisitor regenerator grammar visitor world) :=
  decidable_of_iff
    ((∀ found, regenerator.settings.resolveGrammar world.disk call.argument = .ok found →
        found = grammar) ∧
      ∀ l, world.disk.locate visitor.toText = .ok l → call.tool.WritesOnly grammar.parent.parts l)
    ⟨fun h => ⟨h.1, h.2⟩, fun h => ⟨h.resolves, h.writes⟩⟩

/-- The regenerator with its default settings. -/
def Regenerator.default : Regenerator := ⟨Settings.default, Profile.javaScript⟩

/-- The path of a sample grammar. -/
def sampleGrammar : Path := ⟨.root, [Text.lit "E.g4"]⟩

/-- The path of its visitor. -/
def sampleVisitor : Path := ⟨.root, [Text.lit "EVisitor.js"]⟩

/-- A folder with the sample grammar and the given visitor. -/
def sampleFolder (text : Text) : World :=
  World.ofDisk ⟨[], [([Text.lit "E.g4"], .file 0o644 (Text.lit "g").encodeUtf8),
    ([Text.lit "EVisitor.js"], .file 0o644 text.encodeUtf8)]⟩

/-- A call on the sample grammar whose tool writes some visitors and exits with a code. -/
def sampleCall (texts : List Text) (code : Int) : Call :=
  ⟨some (Text.lit "E.g4"),
    .working (texts.map fun text => .write (Text.lit "EVisitor.js") text.encodeUtf8 none) code
      [] []⟩

/-! ## The body is in the visitor or in the backup -/

/-- The texts that the tools of some calls write. -/
def writtenTexts (calls : List Call) : List Text :=
  (calls.flatMap fun call => call.tool.written).filterMap Text.ofBytes?

/-- After a session and one call more, which may end in any way, a body that the first visitor
records is recorded in the visitor or in its backup. -/
theorem Session.body_recoverable {first before between : World} {calls : List Call} {text : Text}
    (last : Call) (hpath : regenerator.settings.visitorPath grammar = .ok visitor)
    (htext : first.disk.textAt? visitor.toText = some text)
    (hbody : (scan regenerator.profile.convention text).1.stubs.body? name = some body)
    (hwritten : ∀ call ∈ calls, ∀ bytes ∈ call.tool.written,
      RecordsStub regenerator.profile.convention name bytes)
    (hcompatible : Compatible regenerator.profile.convention text (writtenTexts calls))
    (session : Session regenerator grammar visitor name body first calls before)
    (untouched : between.disk.readBytes visitor.toText = before.disk.readBytes visitor.toText)
    (hlast : last.OnVisitor regenerator grammar visitor between) :
    ∃ file, (file = visitor ∨ regenerator.settings.backupPath visitor = .ok file) ∧
      recordedBody? regenerator.profile.convention (last.after regenerator between).disk file
        name = some body := by
  have hkept : KeepsBody regenerator.profile.convention (writtenTexts calls) visitor name body
      before.disk := by
    refine session.invariant hpath ⟨text, htext, hcompatible, hbody⟩ ?_
    intro call hcall bytes hbytes
    obtain ⟨new, hnew, hname⟩ := hwritten call hcall bytes hbytes
    refine ⟨new, ?_, hnew, hname⟩
    exact List.mem_filterMap.2 ⟨bytes, List.mem_flatMap.2 ⟨call, hcall, hbytes⟩, hnew⟩
  obtain ⟨old, hold, -, hrecorded⟩ := hkept
  rw [textAt?, ← untouched] at hold
  obtain ⟨l, bytes, hfile, hbytes⟩ := exists_holdsAt_of_textAt? hold
  -- a file with the bytes of the visitor before the call records the body
  have hfrom : ∀ file : Path,
      (last.after regenerator between).disk.readBytes file.toText = .ok bytes →
        recordedBody? regenerator.profile.convention (last.after regenerator between).disk file
          name = some body := by
    intro file hread
    rw [recordedBody?, textAt?_of_readBytes hread, hbytes]
    exact hrecorded
  rcases (hlast.runEnds hpath hfile).recoverable with hread | ⟨backup, hbackup, hread⟩
  · exact ⟨visitor, Or.inl rfl, hfrom visitor hread⟩
  · exact ⟨backup, Or.inr hbackup, hfrom backup hread⟩

/-- A call that returns and one whose tool fails before it has written, and then a call that fails
after its tool has overwritten the visitor. -/
theorem Session.body_recoverable_default :
    let edited := Text.lit "V.a = function(ctx) \x7b\n  edited();\n\x7d;"
    let generated := Text.lit "V.b = function(ctx) \x7b\n\x7d;\nV.a = function(ctx) \x7b\n\x7d;"
    let first := sampleFolder edited
    let second := (sampleCall [generated] 0).after .default first
    let third := (sampleCall [] 1).after .default second
    let body := [Text.lit "  edited();"]
    (Session .default sampleGrammar sampleVisitor (Text.lit "V.a") body first
        [sampleCall [generated] 0, sampleCall [] 1] third ∧
      Compatible Regenerator.default.profile.convention edited [generated]) ∧
    ∃ file, (file = sampleVisitor ∨
        Regenerator.default.settings.backupPath sampleVisitor = .ok file) ∧
      recordedBody? Regenerator.default.profile.convention
        ((sampleCall [generated] 1).after .default third).disk file (Text.lit "V.a") =
          some body := by
  intro edited generated first second third body
  -- the calls are on the visitor, the first returns, and the second leaves the body
  have hcalls : (sampleCall [generated] 0).OnVisitor .default sampleGrammar sampleVisitor first ∧
      (sampleCall [generated] 0).result .default first = .ok () ∧
      (sampleCall [] 1).OnVisitor .default sampleGrammar sampleVisitor second ∧
      recordedBody? Regenerator.default.profile.convention third.disk sampleVisitor
        (Text.lit "V.a") = some body ∧
      (sampleCall [generated] 1).OnVisitor .default sampleGrammar sampleVisitor third := by
    decide +kernel
  obtain ⟨hone, hreturns, htwo, hkept, hlast⟩ := hcalls
  have session : Session .default sampleGrammar sampleVisitor (Text.lit "V.a") body first
      [sampleCall [generated] 0, sampleCall [] 1] third := by
    have before : Session .default sampleGrammar sampleVisitor (Text.lit "V.a") body first
        [sampleCall [generated] 0] second := .call .start rfl hone (Or.inl hreturns)
    exact .call before rfl htwo (Or.inr hkept)
  have hcompatible : Compatible Regenerator.default.profile.convention edited [generated] :=
    ⟨by decide +kernel, by decide +kernel, by decide +kernel⟩
  have hwritten : writtenTexts [sampleCall [generated] 0, sampleCall [] 1] = [generated] := by
    decide +kernel
  refine ⟨⟨session, hcompatible⟩, ?_⟩
  refine Session.body_recoverable (sampleCall [generated] 1) ?_ ?_ ?_ ?_ (hwritten ▸ hcompatible)
    session rfl hlast
  · decide +kernel
  · exact (by decide +kernel : first.disk.textAt? sampleVisitor.toText = some edited)
  · decide +kernel
  · decide +kernel

/-! ## Losing a body -/

/-- Calls on one visitor, with nothing in between. -/
def OnVisitorAlong (regenerator : Regenerator) (grammar visitor : Path) :
    World → List Call → Prop
  | _, [] => True
  | world, call :: calls => call.OnVisitor regenerator grammar visitor world ∧
    OnVisitorAlong regenerator grammar visitor (call.after regenerator world) calls

instance decidableOnVisitorAlong (regenerator : Regenerator) (grammar visitor : Path) :
    (world : World) → (calls : List Call) →
      Decidable (OnVisitorAlong regenerator grammar visitor world calls)
  | _, [] => isTrue trivial
  | world, call :: calls =>
    have := decidableOnVisitorAlong regenerator grammar visitor (call.after regenerator world) calls
    inferInstanceAs (Decidable (call.OnVisitor regenerator grammar visitor world ∧
      OnVisitorAlong regenerator grammar visitor (call.after regenerator world) calls))

/-- The world after calls with nothing in between. -/
def afterCalls (regenerator : Regenerator) (world : World) (calls : List Call) : World :=
  calls.foldl (fun world call => call.after regenerator world) world

/-- Calls on one visitor, whose tools write texts with a stub that the visitor records, and after
them neither the visitor nor its backup records the body of that stub. -/
def LosesBody (regenerator : Regenerator) (grammar visitor : Path) (name : Text)
    (body : List Text) (first : World) (calls : List Call) : Prop :=
  let convention := regenerator.profile.convention
  let last := (afterCalls regenerator first calls).disk
  regenerator.settings.visitorPath grammar = .ok visitor ∧
  recordedBody? convention first.disk visitor name = some body ∧
  (∀ call ∈ calls, ∀ bytes ∈ call.tool.written, RecordsStub convention name bytes) ∧
  OnVisitorAlong regenerator grammar visitor first calls ∧
  recordedBody? convention last visitor name ≠ some body ∧
  ∀ backup, regenerator.settings.backupPath visitor = .ok backup →
    recordedBody? convention last backup name ≠ some body

instance (regenerator : Regenerator) (grammar visitor : Path) (name : Text) (body : List Text)
    (first : World) (calls : List Call) :
    Decidable (LosesBody regenerator grammar visitor name body first calls) := by
  unfold LosesBody
  infer_instance

/-- A body is lost where a run that fails after the tool has written is followed by another one, and
where runs meet lines around a stub that differ in their braces, an unbalanced
declaration of the visitor or of the generated text, or a header that ends inside of an ignored
declaration. -/
theorem losesBody_default :
    LosesBody .default sampleGrammar sampleVisitor (Text.lit "V.a") [Text.lit "  edited();"]
      (sampleFolder (Text.lit "V.a = function(ctx) \x7b\n  edited();\n\x7d;"))
      [sampleCall [Text.lit "V.a = function(ctx) \x7b\n\x7d;"] 1,
       sampleCall [Text.lit "V.a = function(ctx) \x7b\n\x7d;"] 0] ∧
    LosesBody .default sampleGrammar sampleVisitor (Text.lit "V.a")
      [Text.lit "\x7d", Text.lit "\x7b"]
      (sampleFolder (Text.lit "V.a = function(ctx) \x7b \x7b\n\x7d\n\x7b\n\x7d \x7d;"))
      [sampleCall [Text.lit "V.a = function(ctx) \x7b\n\x7d;"] 0,
       sampleCall [Text.lit "V.a = function(ctx) \x7b\n\x7d;"] 0] ∧
    LosesBody .default sampleGrammar sampleVisitor (Text.lit "V.a") [Text.lit "x"]
      (sampleFolder (Text.lit
        "V.a = function(ctx) \x7b\nx\n\x7d;\nV.b = function(ctx) \x7b require("))
      [sampleCall [Text.lit "\n\n\nV.a = function(ctx) \x7b\n\x7d;\n\x7d"] 0,
       sampleCall [Text.lit "\n\n\nV.a = function(ctx) \x7b\n\x7d;"] 0] ∧
    LosesBody .default sampleGrammar sampleVisitor (Text.lit "V.a") [Text.lit "x"]
      (sampleFolder (Text.lit "V.a = function(ctx) \x7b\nx\n\x7d;\nrequire( \x7d"))
      [sampleCall [Text.lit "V.b = function(ctx) \x7b\nV.a = function(ctx) \x7b\n\x7d;"] 0,
       sampleCall [Text.lit "V.a = function(ctx) \x7b\n\x7d;"] 0] ∧
    LosesBody .default sampleGrammar sampleVisitor (Text.lit "V.c") [Text.lit "x"]
      (sampleFolder (Text.lit "V.c = function(ctx) \x7b\nx\n\x7d;\nrequire( \x7b"))
      [sampleCall [Text.lit ("V.a = function(ctx) \x7b\n\x7d;\nV.a = function(ctx) \x7b\n\x7d;\n" ++
        "V.c = function(ctx) \x7b\n\x7d;\n\x7d")] 0,
       sampleCall [Text.lit "V.c = function(ctx) \x7b\n\x7d;"] 0] := by
  decide +kernel

end StubGraft
