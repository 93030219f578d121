import StubGraft.Proofs.Folders
import StubGraft.Run.Naming
import Mathlib.Data.Set.Function

/-!
# The names of visitors

The extension of a grammar is checked as the suffix of its name, which starts at a dot, but it is
taken off by its length.  Here the two are shown to fit, so that the visitor of a grammar tells
which grammar it belongs to.

* `Path.mem_range_ofText_iff` — the paths that texts write are those with proper names as parts.
* `Path.exists_stem` — a name is its stem and its suffix.
* `Settings.visitorPath_eq_ok` — the visitor of every grammar.
* `Settings.visitorPath_injOn_iff` — visitors do not collide, unless the extension is empty.
-/

namespace StubGraft

/-! ## Paths that texts write -/

namespace Path

/-- A text can stand between slashes: it is not empty, no single dot and has no slash. -/
def IsProperPart (part : Text) : Prop := part ≠ [] ∧ part ≠ ['.'] ∧ '/' ∉ part

variable {part : Text} {parts : List Text}

theorem partsOf_append_cons (a b : Text) : partsOf (a ++ '/' :: b) = partsOf a ++ partsOf b := by
  rw [partsOf, Text.pieces_append_cons, List.filter_append]
  rfl

theorem isProperPart_of_mem_partsOf {t : Text} (h : part ∈ partsOf t) : IsProperPart part := by
  obtain ⟨hpiece, hkept⟩ := List.mem_filter.1 h
  obtain ⟨hempty, hdot⟩ := of_decide_eq_true hkept
  exact ⟨hempty, hdot, Text.not_mem_of_mem_pieces hpiece⟩

theorem IsProperPart.partsOf (h : IsProperPart part) : partsOf part = [part] := by
  obtain ⟨hempty, hdot, hslash⟩ := h
  rw [Path.partsOf, Text.pieces_of_not_mem hslash]
  simp [hempty, hdot]

theorem partsOf_join (h : ∀ part ∈ parts, IsProperPart part) :
    partsOf (Text.join ['/'] parts) = parts := by
  induction parts with
  | nil => rfl
  | cons part more ih =>
    rw [List.forall_mem_cons] at h
    cases more with
    | nil => exact h.1.partsOf
    | cons next more =>
      have hjoin : Text.join ['/'] (part :: next :: more) =
          part ++ '/' :: Text.join ['/'] (next :: more) := List.append_assoc part ['/'] _
      rw [hjoin, partsOf_append_cons, h.1.partsOf, ih h.2, List.singleton_append]

/-- No slash stands before the first part. -/
theorem takeWhile_join (h : ∀ part ∈ parts, IsProperPart part) :
    (Text.join ['/'] parts).takeWhile (· = '/') = [] := by
  cases parts with
  | nil => rfl
  | cons part more =>
    obtain ⟨hempty, -, hslash⟩ := h part List.mem_cons_self
    obtain ⟨c, rest, rfl⟩ := List.exists_cons_of_ne_nil hempty
    have hc : c ≠ '/' := fun hc => hslash (hc ▸ List.mem_cons_self)
    cases more <;> simp [Text.join, hc]

theorem anchorOf_append (anchor : Anchor) {t : Text} (h : t.takeWhile (· = '/') = []) :
    anchorOf (anchor.toText ++ t) = anchor := by
  cases anchor <;> simp [anchorOf, Anchor.toText, h]

theorem partsOf_anchor_append (anchor : Anchor) (t : Text) :
    partsOf (anchor.toText ++ t) = partsOf t := by
  have hslash : partsOf ('/' :: t) = partsOf t := partsOf_append_cons [] t
  cases anchor with
  | here => rfl
  | root => exact hslash
  | doubleRoot => exact (partsOf_append_cons [] ('/' :: t)).trans hslash

/-- A path with proper parts is read back from its text. -/
theorem ofText_toText {p : Path} (h : ∀ part ∈ p.parts, IsProperPart part) :
    ofText p.toText = p := by
  obtain ⟨anchor, parts⟩ := p
  by_cases hdot : anchor = .here ∧ parts = []
  · obtain ⟨rfl, rfl⟩ := hdot
    rfl
  · have htext : (Path.mk anchor parts).toText = anchor.toText ++ Text.join ['/'] parts := by
      unfold toText
      split
      · rename_i hanchor hparts
        exact absurd ⟨hanchor, hparts⟩ hdot
      · rfl
    rw [htext, ofText, anchorOf_append anchor (takeWhile_join h), partsOf_anchor_append,
      partsOf_join h]

/-- Texts write the paths with proper parts. -/
theorem mem_range_ofText_iff {p : Path} :
    p ∈ Set.range ofText ↔ ∀ part ∈ p.parts, IsProperPart part := by
  constructor
  · rintro ⟨t, rfl⟩ part hpart
    exact isProperPart_of_mem_partsOf hpart
  · intro h
    exact ⟨p.toText, ofText_toText h⟩

/-! ## Names and suffixes -/

theorem name_child (p : Path) (part : Text) : (p.child part).name = part := by
  simp [child, name]

theorem parent_child (p : Path) (part : Text) : (p.child part).parent = p := by
  simp [child, parent]

/-- A path is its name in its directory. -/
theorem child_parent_name {p : Path} (h : p.name ≠ []) : p.parent.child p.name = p := by
  obtain ⟨anchor, parts⟩ := p
  cases hlast : parts.getLast? with
  | none => simp [name, hlast] at h
  | some last =>
    obtain ⟨init, rfl⟩ := List.getLast?_eq_some_iff.1 hlast
    simp [child, parent, name]

/-- A name with a suffix is its stem and the suffix, which starts with a dot. -/
theorem exists_stem {name : Text} (h : suffixOf name ≠ []) :
    ∃ stem, name = stem ++ suffixOf name ∧ (suffixOf name).head? = some '.' := by
  unfold suffixOf at h ⊢
  split at h
  · rename_i c before d after hsplit
    exact ⟨c :: before, Text.splitLast?_eq_some hsplit, rfl⟩
  · exact absurd rfl h

end Path

namespace Settings

variable {settings : Settings} {extension : Text} {profile : Profile}

/-- There is one language, and its name is a text. -/
theorem eq_of_ofLanguage {environment : Environment} {name : Value} {base : Profile}
    (h : Profile.ofLanguage environment name = .ok base) :
    name = .text (Text.lit "JavaScript") ∧ base = .javaScript := by
  unfold Profile.ofLanguage at h
  split at h
  · split at h
    · rename_i t hname
      exact ⟨congrArg Value.text hname, (Except.ok.inj h).symm⟩
    · cases h
  · cases h

/-- Every profile is that of the language, with other declarations, imports and headers. -/
theorem language_of_profile (h : settings.profile = .ok profile) :
    settings.language = .text (Text.lit "JavaScript") ∧ profile.extension = Text.lit ".js" := by
  unfold Settings.profile at h
  split at h
  · cases h
  · simp only [bind_eq_ok_iff] at h
    obtain ⟨base, hbase, _, -, _, -, _, -, h⟩ := h
    obtain ⟨hlanguage, rfl⟩ := eq_of_ofLanguage hbase
    obtain rfl := Except.ok.inj h
    exact ⟨hlanguage, rfl⟩

theorem dropLastChars_append (stem : Text) (h : extension ≠ []) :
    dropLastChars (stem ++ extension) extension.length = stem := by
  rw [dropLastChars, if_neg (by simpa using h)]
  simp

theorem visitorPath_eq_ok (hextension : settings.grammarExtension = .text extension)
    (hprofile : settings.profile = .ok profile) (grammar : Path) :
    settings.visitorPath grammar = .ok (grammar.parent.child
      (dropLastChars grammar.name extension.length ++ Text.lit "Visitor.js")) := by
  have hlength : lengthOf settings.grammarExtension = .ok extension.length := by
    rw [hextension]
    rfl
  refine bind_eq_ok_iff.2 ⟨profile, hprofile, bind_eq_ok_iff.2 ⟨_, hlength, ?_⟩⟩
  rw [(language_of_profile hprofile).2, List.append_assoc]
  rfl

/-- A grammar with the extension is a stem and the extension, and its visitor has the same stem. -/
theorem visitorPath_of_suffix (hextension : settings.grammarExtension = .text extension)
    (hprofile : settings.profile = .ok profile) (hne : extension ≠ []) {grammar : Path}
    (hsuffix : grammar.suffix = extension) :
    ∃ stem, grammar = grammar.parent.child (stem ++ extension) ∧
      settings.visitorPath grammar = .ok (grammar.parent.child (stem ++ Text.lit "Visitor.js")) ∧
      extension.head? = some '.' := by
  have hname : Path.suffixOf grammar.name = extension := hsuffix
  obtain ⟨stem, hstem, hdot⟩ := Path.exists_stem (hname ▸ hne)
  rw [hname] at hstem hdot
  refine ⟨stem, ?_, ?_, hdot⟩
  · have hsome : grammar.name ≠ [] := by
      rw [hstem]
      simp [hne]
    rw [← hstem, Path.child_parent_name hsome]
  · rw [visitorPath_eq_ok hextension hprofile, hstem, dropLastChars_append stem hne]

theorem isProperPart_append_visitor {stem : Text} (h : '/' ∉ stem) :
    Path.IsProperPart (stem ++ Text.lit "Visitor.js") := by
  refine ⟨by simp [Text.lit], ?_, ?_⟩
  · intro hdot
    have hlength := congrArg List.length hdot
    rw [List.length_append] at hlength
    simp [Text.lit] at hlength
  · rw [List.mem_append, not_or]
    exact ⟨h, by decide⟩

/-- The visitor of a grammar that a text writes is again a path that a text writes. -/
theorem visitor_mem_range {folder : Path} {stem : Text}
    (h : folder.child (stem ++ extension) ∈ Set.range Path.ofText) :
    folder.child (stem ++ Text.lit "Visitor.js") ∈ Set.range Path.ofText := by
  rw [Path.mem_range_ofText_iff] at h ⊢
  intro part hpart
  rcases List.mem_append.1 hpart with hfolder | hname
  · exact h part (List.mem_append_left _ hfolder)
  · obtain rfl := List.mem_singleton.1 hname
    have hslash := (h (stem ++ extension) (List.mem_append_right _ List.mem_cons_self)).2.2
    exact isProperPart_append_visitor fun hmem => hslash (List.mem_append_left _ hmem)

theorem visitor_ne_grammar {folder : Path} {stem : Text} (h : extension.head? = some '.') :
    folder.child (stem ++ Text.lit "Visitor.js") ≠ folder.child (stem ++ extension) := by
  intro he
  have hname := congrArg Path.name he
  rw [Path.name_child, Path.name_child, List.append_cancel_left_eq] at hname
  rw [← hname] at h
  exact absurd h (by decide)

/-- Grammars with an extension that is not empty have different visitors. -/
theorem visitorPath_injOn (hextension : settings.grammarExtension = .text extension)
    (hprofile : settings.profile = .ok profile) (hne : extension ≠ []) :
    Set.InjOn settings.visitorPath {grammar | grammar.suffix = extension} := by
  intro a ha b hb hsame
  obtain ⟨stem, haname, havisitor, -⟩ := visitorPath_of_suffix hextension hprofile hne ha
  obtain ⟨stem', hbname, hbvisitor, -⟩ := visitorPath_of_suffix hextension hprofile hne hb
  rw [havisitor, hbvisitor] at hsame
  have hvisitor := Except.ok.inj hsame
  have hfolder := congrArg Path.parent hvisitor
  have hname := congrArg Path.name hvisitor
  rw [Path.parent_child, Path.parent_child] at hfolder
  rw [Path.name_child, Path.name_child, List.append_cancel_right_eq] at hname
  rw [haname, hbname, hfolder, hname]

/-- Without an extension nothing is left of the name of a grammar. -/
theorem not_visitorPath_injOn_nil (hextension : settings.grammarExtension = .text [])
    (hprofile : settings.profile = .ok profile) :
    ¬ Set.InjOn settings.visitorPath {grammar ∈ Set.range Path.ofText | grammar.suffix = []} := by
  intro h
  have hsame : settings.visitorPath (Path.ofText ['a']) =
      settings.visitorPath (Path.ofText ['b']) := by
    rw [visitorPath_eq_ok hextension hprofile, visitorPath_eq_ok hextension hprofile]
    rfl
  exact absurd (h ⟨⟨_, rfl⟩, rfl⟩ ⟨⟨_, rfl⟩, rfl⟩ hsame) (by decide)

/-- With a text as extension and a profile, every grammar has a visitor.  Of the grammars with the
extension as suffix no two have the same visitor, exactly if the extension is not empty; then the
visitor stands in the directory of the grammar, has its name with the extension replaced, and is
another path. -/
theorem visitorPath_injOn_iff (hextension : settings.grammarExtension = .text extension)
    (hprofile : settings.profile = .ok profile) :
    (∀ grammar, ∃ visitor, settings.visitorPath grammar = .ok visitor) ∧
    (Set.InjOn settings.visitorPath {grammar ∈ Set.range Path.ofText | grammar.suffix = extension} ↔
      extension ≠ []) ∧
    (extension ≠ [] → ∀ grammar ∈ Set.range Path.ofText, grammar.suffix = extension →
      ∃ visitor ∈ Set.range Path.ofText, settings.visitorPath grammar = .ok visitor ∧
        visitor.parent = grammar.parent ∧
        (∃ stem, grammar.name = stem ++ extension ∧
          visitor.name = stem ++ Text.lit "Visitor.js") ∧
        visitor ≠ grammar) := by
  refine ⟨fun grammar => ⟨_, visitorPath_eq_ok hextension hprofile grammar⟩, ⟨?_, ?_⟩, ?_⟩
  · rintro hinjective rfl
    exact not_visitorPath_injOn_nil hextension hprofile hinjective
  · intro hne
    exact (visitorPath_injOn hextension hprofile hne).mono fun _ h => h.2
  · intro hne grammar hread hsuffix
    obtain ⟨stem, hgrammar, hvisitor, hdot⟩ :=
      visitorPath_of_suffix hextension hprofile hne hsuffix
    rw [hgrammar] at hread
    refine ⟨_, visitor_mem_range hread, hvisitor, Path.parent_child _ _, ⟨stem, ?_, ?_⟩, ?_⟩
    · rw [hgrammar, Path.name_child]
    · rw [Path.name_child]
    · exact fun he => visitor_ne_grammar hdot (he.trans hgrammar)

/-- The name of the grammar has three dots, and one of them comes first. -/
theorem visitorPath_injOn_iff_default :
    let grammar := Path.ofText (Text.lit "//work/.Expr.old.g4")
    (default.grammarExtension = .text (Text.lit ".g4") ∧
      default.profile = .ok Profile.javaScript ∧ grammar.suffix = Text.lit ".g4") ∧
    Set.InjOn default.visitorPath
      {grammar ∈ Set.range Path.ofText | grammar.suffix = Text.lit ".g4"} ∧
    ∃ visitor ∈ Set.range Path.ofText, default.visitorPath grammar = .ok visitor ∧
      visitor.parent = grammar.parent ∧
      (∃ stem, grammar.name = stem ++ Text.lit ".g4" ∧
        visitor.name = stem ++ Text.lit "Visitor.js") ∧
      visitor ≠ grammar := by
  intro grammar
  have hextension : default.grammarExtension = .text (Text.lit ".g4") := rfl
  have hprofile : default.profile = .ok Profile.javaScript := rfl
  have hsuffix : grammar.suffix = Text.lit ".g4" := by decide
  obtain ⟨-, hinjective, hvisitor⟩ := visitorPath_injOn_iff hextension hprofile
  exact ⟨⟨hextension, hprofile, hsuffix⟩, hinjective.2 (by decide),
    hvisitor (by decide) grammar ⟨_, rfl⟩ hsuffix⟩

end Settings
end StubGraft
