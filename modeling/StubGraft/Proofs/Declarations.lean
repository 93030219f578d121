import StubGraft.Proofs.Languages
import StubGraft.Settings.Profile
import Mathlib.Data.List.Basic

/-!
# Lines that declare a function

The built-in pattern is matched by a search, and the name of a stub is cut out of a line without
it.  Here the lines that the pattern accepts are given by a grammar, with the pieces of a line as
data, and the name is read off the pieces.

* `Declaration`, `Declaration.line` — the pieces of a declaring line, and the line.
* `javaScript_expression` — the built-in pattern, piece by piece.
* `javaScript_accepts_iff` — the pattern accepts the lines of declarations.
* `Declaration.line_injective` — the pieces of a line are unique.
* `stubName_line` — the name of a stub from its pieces.
* `javaScript_declares` — all this together.
-/

namespace StubGraft

open Pattern

/-! ## The grammar -/

/-- A text starts with a letter of ASCII, a low line or a dollar sign, and goes on with word
characters, dollar signs and the further characters. -/
def IsIdentifier (further : List Char) : Text → Prop
  | [] => False
  | c :: rest => (Text.isAsciiLetter c = true ∨ c = '_' ∨ c = '$') ∧
    ∀ x ∈ rest, Text.isWord x = true ∨ x = '$' ∨ x ∈ further

/-- A text has blanks only. -/
def IsBlankRun (t : Text) : Prop := ∀ c ∈ t, Text.isBlank c = true

/-- The pieces of a line that assigns a function with one parameter to a name. -/
structure Declaration where
  /-- The name, which may have dots. -/
  name : Text
  /-- The blanks before the equals sign. -/
  beforeSign : Text
  /-- The blanks after the equals sign. -/
  afterSign : Text
  /-- The blanks before the opening parenthesis. -/
  beforeParen : Text
  /-- The blanks before the parameter. -/
  beforeParameter : Text
  /-- The parameter. -/
  parameter : Text
  /-- The blanks after the parameter. -/
  afterParameter : Text
  /-- What follows the closing parenthesis. -/
  rest : Text
  /-- The name is an identifier with dots. -/
  name_ok : IsIdentifier ['.'] name
  /-- The parameter is an identifier without dots. -/
  parameter_ok : IsIdentifier [] parameter
  /-- Between these and the signs stand blanks only, or nothing. -/
  beforeSign_blank : IsBlankRun beforeSign
  afterSign_blank : IsBlankRun afterSign
  beforeParen_blank : IsBlankRun beforeParen
  beforeParameter_blank : IsBlankRun beforeParameter
  afterParameter_blank : IsBlankRun afterParameter

/-- The line that is made of the pieces. -/
def Declaration.line (d : Declaration) : Text :=
  d.name ++ d.beforeSign ++ Text.lit "=" ++ d.afterSign ++ Text.lit "function" ++ d.beforeParen ++
    Text.lit "(" ++ d.beforeParameter ++ d.parameter ++ d.afterParameter ++ Text.lit ")" ++ d.rest

/-! ## The pattern -/

/-- The characters that an identifier starts with. -/
def identifierStart : CharSet where
  items := [.range 'A'.toNat 'Z'.toNat, .range 'a'.toNat 'z'.toNat, .code '_'.toNat,
    .code '$'.toNat]
  negated := false
  rule := .exact

/-- The characters that an identifier goes on with. -/
def identifierRest (further : List Char) : CharSet where
  items := .category .word false false :: .code '$'.toNat :: further.map fun c => .code c.toNat
  negated := false
  rule := .exact

/-- The expressions of an identifier. -/
def identifier (further : List Char) : List Node :=
  [.one identifierStart, .many (identifierRest further)]

/-- The expression of a run of blanks. -/
def blanks : List Node := [.many ⟨[.category .blank false false], false, .exact⟩]

/-- The expressions of the built-in pattern after its anchor. -/
def declarationNodes : List Node :=
  identifier ['.'] ++ blanks ++ Node.word (Text.lit "=") ++ blanks ++
    Node.word (Text.lit "function") ++ blanks ++ Node.word (Text.lit "(") ++ blanks ++
    identifier [] ++ blanks ++ Node.word (Text.lit ")")

theorem javaScript_expression :
    Profile.javaScript.expression = .seq (.place .start) (Node.ofList declarationNodes) := by
  decide +kernel

variable {c : Char} {t : Text} {further : List Char}

theorem isAsciiLetter_iff : Text.isAsciiLetter c = true ↔
    ('A'.toNat ≤ c.toNat ∧ c.toNat ≤ 'Z'.toNat) ∨ ('a'.toNat ≤ c.toNat ∧ c.toNat ≤ 'z'.toNat) := by
  rw [Text.isAsciiLetter, Bool.or_eq_true, or_comm]
  simp only [Bool.and_eq_true, decide_eq_true_eq, Char.le_def, UInt32.le_iff_toNat_le]
  rfl

theorem covers_identifierStart :
    identifierStart.covers c = true ↔ Text.isAsciiLetter c = true ∨ c = '_' ∨ c = '$' := by
  rw [identifierStart, CharSet.covers_iff, isAsciiLetter_iff, or_assoc]
  simp only [List.mem_cons, List.not_mem_nil, or_false, exists_eq_or_imp, exists_eq_left,
    CharItem.covers_range_iff, CharItem.covers_code_iff]

theorem covers_identifierRest :
    (identifierRest further).covers c = true ↔ Text.isWord c = true ∨ c = '$' ∨ c ∈ further := by
  rw [identifierRest, CharSet.covers_iff]
  simp only [List.mem_cons, exists_eq_or_imp, List.mem_map, CharItem.covers_category_iff,
    CharItem.covers_code_iff]
  refine or_congr Iff.rfl (or_congr Iff.rfl ?_)
  constructor
  · rintro ⟨_, ⟨x, hx, rfl⟩, hcovers⟩
    rwa [CharItem.covers_code_iff.1 hcovers]
  · intro hc
    exact ⟨_, ⟨c, hc, rfl⟩, CharItem.covers_code_iff.2 rfl⟩

theorem spells_identifier :
    (Node.ofList (identifier further)).Spells t ↔ IsIdentifier further t := by
  rw [identifier, Node.spells_ofList_cons]
  constructor
  · rintro ⟨_, rest, rfl, ⟨x, rfl, hx⟩, hrest⟩
    exact ⟨covers_identifierStart.1 hx, fun y hy =>
      covers_identifierRest.1 (Node.spells_many.1 hrest y hy)⟩
  · intro h
    cases t with
    | nil => exact h.elim
    | cons x rest =>
      exact ⟨[x], rest, rfl, ⟨x, rfl, covers_identifierStart.2 h.1⟩,
        Node.spells_many.2 fun y hy => covers_identifierRest.2 (h.2 y hy)⟩

theorem spells_blanks : (Node.ofList blanks).Spells t ↔ IsBlankRun t := by
  refine Node.spells_many.trans (forall₂_congr fun x _ => ?_)
  rw [CharSet.covers_iff]
  simp only [List.mem_singleton, exists_eq_left, CharItem.covers_category_iff]
  rfl

/-- The built-in pattern accepts the lines of declarations. -/
theorem javaScript_accepts_iff {line : Text} :
    Profile.javaScript.expression.accepts line = true ↔ ∃ d : Declaration, d.line = line := by
  have hplain : (Node.ofList declarationNodes).isPlain = true := by decide +kernel
  rw [javaScript_expression, Node.accepts_start, Node.accepts_iff hplain]
  simp only [declarationNodes, List.append_assoc, Node.spells_ofList_append, spells_identifier,
    spells_blanks, Node.spells_word]
  constructor
  · rintro ⟨_, ⟨rest, rfl⟩, name, _, rfl, hname, w₁, _, rfl, hw₁, _, _, rfl, rfl, w₂, _, rfl, hw₂,
      _, _, rfl, rfl, w₃, _, rfl, hw₃, _, _, rfl, rfl, w₄, _, rfl, hw₄, parameter, _, rfl,
      hparameter, w₅, _, rfl, hw₅, rfl⟩
    refine ⟨⟨name, w₁, w₂, w₃, w₄, parameter, w₅, rest, hname, hparameter, hw₁, hw₂, hw₃, hw₄,
      hw₅⟩, ?_⟩
    simp only [Declaration.line, List.append_assoc]
  · rintro ⟨d, rfl⟩
    refine ⟨_, ⟨d.rest, ?_⟩, d.name, _, rfl, d.name_ok, _, _, rfl, d.beforeSign_blank, _, _, rfl,
      rfl, _, _, rfl, d.afterSign_blank, _, _, rfl, rfl, _, _, rfl, d.beforeParen_blank, _, _, rfl,
      rfl, _, _, rfl, d.beforeParameter_blank, _, _, rfl, d.parameter_ok, _, _, rfl,
      d.afterParameter_blank, rfl⟩
    simp only [Declaration.line, List.append_assoc]

/-! ## Unique pieces -/

theorem isWord_of_isBlank (h : Text.isBlank c = true) : Text.isWord c = false := by
  -- the blanks are finitely many
  have hcodes : ∀ n ∈ [0x09, 0x0A, 0x0B, 0x0C, 0x0D, 0x1C, 0x1D, 0x1E, 0x1F, 0x20, 0x85, 0xA0,
      0x1680, 0x2000, 0x2001, 0x2002, 0x2003, 0x2004, 0x2005, 0x2006, 0x2007, 0x2008, 0x2009,
      0x200A, 0x2028, 0x2029, 0x202F, 0x205F, 0x3000], Text.isWord (Char.ofNat n) = false := by
    decide +kernel
  rw [← Char.ofNat_toNat c]
  apply hcodes
  simp only [Text.isBlank, Bool.or_eq_true, Bool.and_eq_true, decide_eq_true_eq, beq_iff_eq] at h
  simp only [List.mem_cons, List.not_mem_nil, or_false]
  omega

/-- A run of characters of one kind, before a character of another kind, is unique. -/
theorem append_inj_of_span {p : Char → Prop} {a b x y : Text} (ha : ∀ c ∈ a, p c)
    (hb : ∀ c ∈ b, p c) (hx : ∀ c ∈ x.head?, ¬ p c) (hy : ∀ c ∈ y.head?, ¬ p c)
    (h : a ++ x = b ++ y) : a = b ∧ x = y := by
  rcases List.append_eq_append_iff.1 h with ⟨m, rfl, rfl⟩ | ⟨m, rfl, rfl⟩
  · cases m with
    | nil => exact ⟨(List.append_nil a).symm, rfl⟩
    | cons c m => exact absurd (hb c (by simp)) (hx c rfl)
  · cases m with
    | nil => exact ⟨List.append_nil b, rfl⟩
    | cons c m => exact absurd (ha c (by simp)) (hy c rfl)

theorem IsBlankRun.append_inj {v w x y : Text} (hv : IsBlankRun v) (hw : IsBlankRun w)
    (hx : ∀ c ∈ x.head?, Text.isBlank c = false) (hy : ∀ c ∈ y.head?, Text.isBlank c = false)
    (h : v ++ x = w ++ y) : v = w ∧ x = y :=
  append_inj_of_span hv hw (fun c hc => by simp [hx c hc]) (fun c hc => by simp [hy c hc]) h

theorem forall_head?_append {t : Text} {first : Char} (ht : t.head? = some first)
    (hblank : Text.isBlank first = false) (x : Text) :
    ∀ c ∈ (t ++ x).head?, Text.isBlank c = false := by
  intro c hc
  rw [List.head?_append, ht] at hc
  rwa [← Option.some.inj hc]

section Identifiers

variable {a b : Text} (ha : IsIdentifier further a) (hb : IsIdentifier further b)

include ha

theorem IsIdentifier.ne_nil : a ≠ [] := by
  rintro rfl
  exact ha

theorem IsIdentifier.forall_mem :
    ∀ x ∈ a, Text.isWord x = true ∨ x = '$' ∨ x ∈ further := by
  cases a with
  | nil => exact ha.elim
  | cons c rest =>
    refine List.forall_mem_cons.2 ⟨?_, ha.2⟩
    rcases ha.1 with hletter | rfl | rfl
    · have hascii : c.toNat < 0x80 := by
        rcases isAsciiLetter_iff.1 hletter with ⟨-, h⟩ | ⟨-, h⟩
        · exact Nat.lt_of_le_of_lt h (by decide)
        · exact Nat.lt_of_le_of_lt h (by decide)
      refine Or.inl ?_
      rw [Text.isWord, if_pos hascii, Text.isAsciiWord, hletter]
      rfl
    · exact Or.inl (by decide)
    · exact Or.inr (Or.inl rfl)

/-- There are no blanks in an identifier. -/
theorem IsIdentifier.not_blank (hfurther : further.any Text.isBlank = false) :
    ∀ x ∈ a, Text.isBlank x = false := by
  intro x hx
  rcases ha.forall_mem x hx with hword | rfl | hmem
  · cases hblank : Text.isBlank x with
    | false => rfl
    | true => exact absurd (isWord_of_isBlank hblank) (by simp [hword])
  · decide
  · simpa using List.any_eq_false.1 hfurther x hmem

theorem IsIdentifier.not_mem {stop : Char} (hword : Text.isWord stop = false) (hdollar : stop ≠ '$')
    (hfurther : stop ∉ further) : stop ∉ a := by
  intro hmem
  rcases ha.forall_mem stop hmem with h | h | h
  · rw [hword] at h
    cases h
  · exact hdollar h
  · exact hfurther h

include hb

/-- An identifier and blanks before a sign are unique. -/
theorem IsIdentifier.append_inj {v w x y : Text} {stop : Char} (hv : IsBlankRun v)
    (hw : IsBlankRun w) (hfurther : further.any Text.isBlank = false)
    (hword : Text.isWord stop = false) (hblank : Text.isBlank stop = false) (hdollar : stop ≠ '$')
    (hstop : stop ∉ further) (h : a ++ (v ++ stop :: x) = b ++ (w ++ stop :: y)) :
    a = b ∧ v = w ∧ x = y := by
  -- what follows an identifier starts with a blank or with the sign
  have hnext : ∀ {u z : Text}, IsBlankRun u → ∀ c ∈ (u ++ stop :: z).head?,
      ¬ (Text.isBlank c = false ∧ c ≠ stop) := by
    intro u z hu c hc
    cases u with
    | nil =>
      obtain rfl := Option.some.inj hc
      exact fun h => h.2 rfl
    | cons d u =>
      obtain rfl := Option.some.inj hc
      intro h
      rw [hu d List.mem_cons_self] at h
      cases h.1
  have hinside : ∀ {t : Text}, IsIdentifier further t →
      ∀ c ∈ t, Text.isBlank c = false ∧ c ≠ stop := by
    intro t ht c hc
    refine ⟨ht.not_blank hfurther c hc, ?_⟩
    rintro rfl
    exact ht.not_mem hword hdollar hstop hc
  obtain ⟨hab, h⟩ := append_inj_of_span (hinside ha) (hinside hb) (hnext hv) (hnext hw) h
  have hhead : ∀ z : Text, ∀ c ∈ (stop :: z).head?, Text.isBlank c = false := by
    intro z c hc
    rwa [← Option.some.inj hc]
  obtain ⟨hvw, h⟩ := hv.append_inj hw (hhead x) (hhead y) h
  exact ⟨hab, hvw, (List.cons.inj h).2⟩

end Identifiers

/-- The pieces of a line are unique. -/
theorem Declaration.line_injective : Function.Injective Declaration.line := by
  intro d e h
  simp only [line, List.append_assoc] at h
  have hkeyword : ∀ x, ∀ c ∈ (Text.lit "function" ++ x).head?, Text.isBlank c = false :=
    forall_head?_append rfl (by decide)
  have hparen : ∀ x, ∀ c ∈ (Text.lit "(" ++ x).head?, Text.isBlank c = false :=
    forall_head?_append rfl (by decide)
  have hparameter : ∀ (f : Declaration) (x : Text),
      ∀ c ∈ (f.parameter ++ x).head?, Text.isBlank c = false := by
    intro f
    obtain ⟨first, more, hfirst⟩ := List.exists_cons_of_ne_nil f.parameter_ok.ne_nil
    have hmem : first ∈ f.parameter := hfirst ▸ List.mem_cons_self
    exact forall_head?_append (by rw [hfirst]; rfl) (f.parameter_ok.not_blank rfl first hmem)
  -- the pieces are compared from the left
  obtain ⟨hname, hbeforeSign, h⟩ := d.name_ok.append_inj e.name_ok d.beforeSign_blank
    e.beforeSign_blank (by decide) (by decide) (by decide) (by decide) (by decide) h
  obtain ⟨hafterSign, h⟩ := d.afterSign_blank.append_inj e.afterSign_blank (hkeyword _)
    (hkeyword _) h
  obtain ⟨hbeforeParen, h⟩ := d.beforeParen_blank.append_inj e.beforeParen_blank (hparen _)
    (hparen _) (List.append_cancel_left h)
  obtain ⟨hbeforeParameter, h⟩ := d.beforeParameter_blank.append_inj e.beforeParameter_blank
    (hparameter d _) (hparameter e _) (List.append_cancel_left h)
  obtain ⟨hparameter, hafterParameter, hrest⟩ := d.parameter_ok.append_inj e.parameter_ok
    d.afterParameter_blank e.afterParameter_blank (by decide) (by decide) (by decide) (by decide)
    (by decide) h
  obtain ⟨_, _, _, _, _, _, _, _, _, _, _, _, _, _, _⟩ := d
  obtain ⟨_, _, _, _, _, _, _, _, _, _, _, _, _, _, _⟩ := e
  simp_all

/-! ## The names of stubs -/

theorem dropTrailingBlank_concat (init : Text) (last : Char) :
    dropTrailingBlank (init ++ [last]) =
      if last = ' ' ∨ last = '\t' then init else init ++ [last] := by
  simp [dropTrailingBlank]

theorem dropTrailingBlank_eq_nil_iff :
    dropTrailingBlank t = [] ↔ t = [] ∨ t = [' '] ∨ t = ['\t'] := by
  rcases List.eq_nil_or_concat' t with rfl | ⟨init, last, rfl⟩
  · exact iff_of_true rfl (Or.inl rfl)
  · rw [dropTrailingBlank_concat]
    split
    · rename_i hlast
      cases init with
      | nil => rcases hlast with rfl | rfl <;> simp
      | cons => simp
    · rename_i hlast
      rw [not_or] at hlast
      cases init <;> simp [hlast]

theorem mem_of_mem_dropTrailingBlank (h : c ∈ dropTrailingBlank t) : c ∈ t := by
  unfold dropTrailingBlank at h
  split at h
  · split at h
    · exact List.dropLast_subset t h
    · exact h
  · exact h

/-- Only the blanks after an identifier are cut. -/
theorem IsIdentifier.dropTrailingBlank_append {a : Text} (ha : IsIdentifier ['.'] a) (w : Text) :
    dropTrailingBlank (a ++ w) = a ++ dropTrailingBlank w := by
  rcases List.eq_nil_or_concat' w with rfl | ⟨init, last, rfl⟩
  · obtain ⟨init, last, rfl⟩ := (List.eq_nil_or_concat' a).resolve_left ha.ne_nil
    have hlast : Text.isBlank last = false := ha.not_blank (by decide) last (by simp)
    rw [List.append_nil, dropTrailingBlank_concat, if_neg]
    · simp [dropTrailingBlank]
    · rintro (rfl | rfl)
      · exact absurd hlast (by decide)
      · exact absurd hlast (by decide)
  · rw [← List.append_assoc, dropTrailingBlank_concat, dropTrailingBlank_concat]
    split
    · rfl
    · rw [List.append_assoc]

/-- The name of a stub is the name of its declaration with the blanks before the equals sign, less
one of these. -/
theorem stubName_line (d : Declaration) :
    stubName d.line = d.name ++ dropTrailingBlank d.beforeSign := by
  have hbefore : ∀ c ∈ d.name ++ d.beforeSign, decide (c ≠ '=') = true := by
    refine List.forall_mem_append.2 ⟨fun c hc => ?_, fun c hc => ?_⟩
    · refine decide_eq_true ?_
      rintro rfl
      exact d.name_ok.not_mem (by decide) (by decide) (by decide) hc
    · refine decide_eq_true ?_
      rintro rfl
      exact absurd (d.beforeSign_blank _ hc) (by decide)
  have hline : d.line.takeWhile (· ≠ '=') = d.name ++ d.beforeSign := by
    simp only [Declaration.line, List.append_assoc]
    rw [← List.append_assoc, List.takeWhile_append_of_pos hbefore]
    exact List.append_nil _
  rw [stubName, hline, d.name_ok.dropTrailingBlank_append]

/-- Names of stubs agree if the names of the declarations do and what is left of the blanks. -/
theorem stubName_line_eq_iff (d e : Declaration) :
    stubName d.line = stubName e.line ↔
      d.name = e.name ∧ dropTrailingBlank d.beforeSign = dropTrailingBlank e.beforeSign := by
  have hinside : ∀ f : Declaration, ∀ c ∈ f.name, Text.isBlank c = false := fun f =>
    f.name_ok.not_blank (by decide)
  have hnext : ∀ f : Declaration, ∀ c ∈ (dropTrailingBlank f.beforeSign).head?,
      ¬ Text.isBlank c = false := by
    intro f c hc
    have hmem := mem_of_mem_dropTrailingBlank (List.mem_of_mem_head? hc)
    simp [f.beforeSign_blank c hmem]
  rw [stubName_line, stubName_line]
  constructor
  · exact append_inj_of_span (hinside d) (hinside e) (hnext d) (hnext e)
  · rintro ⟨hname, hgap⟩
    rw [hname, hgap]

/-- The built-in convention takes a line for a declaration exactly if the line consists of the
pieces of one, and then in one way only.  The name of the stub is the declared name with the blanks
before the equals sign, less the last one if that is a space or a tab.  So two stubs have one name
exactly if they agree on these two pieces, and the name is the declared one exactly if there is no
blank before the equals sign, or one space, or one tab. -/
theorem javaScript_declares :
    (∀ line, Profile.javaScript.convention.declares line = true ↔
      ∃! d : Declaration, d.line = line) ∧
    (∀ d : Declaration, stubName d.line = d.name ++ dropTrailingBlank d.beforeSign) ∧
    (∀ d e : Declaration, stubName d.line = stubName e.line ↔
      d.name = e.name ∧ dropTrailingBlank d.beforeSign = dropTrailingBlank e.beforeSign) ∧
    ∀ d : Declaration, stubName d.line = d.name ↔
      d.beforeSign = [] ∨ d.beforeSign = [' '] ∨ d.beforeSign = ['\t'] := by
  refine ⟨fun line => javaScript_accepts_iff.trans ?_, stubName_line, stubName_line_eq_iff, ?_⟩
  · constructor
    · rintro ⟨d, hd⟩
      exact ⟨d, hd, fun e he => Declaration.line_injective (he.trans hd.symm)⟩
    · rintro ⟨d, hd, -⟩
      exact ⟨d, hd⟩
  · intro d
    rw [stubName_line, List.append_right_eq_self, dropTrailingBlank_eq_nil_iff]

/-- Of two spaces before the equals sign one stays in the name. -/
example :
    Profile.javaScript.convention.declares (Text.lit "V.a  = function ( ctx )\x7b") = true ∧
      stubName (Text.lit "V.a  = function ( ctx )\x7b") = Text.lit "V.a " := by
  decide +kernel

end StubGraft
