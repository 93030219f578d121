import StubGraft.Text.Blank
import StubGraft.Text.LetterCase
import StubGraft.Text.Word

/-!
# Patterns

The lines that declare stubs are described by a regular expression with captures,
references, look-around and possessive repetition.

Main notions:

* `CharSet`: a set of characters;
* `Assertion`: a condition on a place in a text;
* `Node`: an expression;
* `Node.width`: the least and greatest number of characters that an expression takes.
-/

namespace StubGraft.Pattern

/-- How upper and lower case are told apart. -/
inductive CaseRule where
  /-- They differ. -/
  | exact
  /-- The letters of ASCII agree with their other case. -/
  | ascii
  /-- All letters agree with their other cases. -/
  | all
  deriving DecidableEq, Repr

/-- A code point in lower case, for ASCII letters only. -/
def asciiLower (n : Nat) : Nat := if 0x41 ≤ n ∧ n ≤ 0x5A then n + 32 else n

/-- The code points that agree with a given one. -/
def CaseRule.variants (rule : CaseRule) (n : Nat) : List Nat :=
  match rule with
  | .exact => [n]
  | .ascii =>
    let small := asciiLower n
    if 0x61 ≤ small ∧ small ≤ 0x7A then [small, small - 32] else [n]
  | .all => Text.caseVariants n

/-- The lower-case form that a rule compares by. -/
def CaseRule.lower (rule : CaseRule) (n : Nat) : Nat :=
  match rule with
  | .exact => n
  | .ascii => asciiLower n
  | .all => Text.lower n

/-- A class of characters with a name. -/
inductive CharClass where
  /-- Decimal digits. -/
  | digit
  /-- Blanks. -/
  | blank
  /-- Letters, numbers and the low line. -/
  | word
  deriving DecidableEq, Repr

/-- Whether a character belongs to a category, in ASCII only or in all of Unicode. -/
def CharClass.covers (category : CharClass) (ascii : Bool) (c : Char) : Bool :=
  match category with
  | .digit => if ascii then Text.isAsciiDigit c else Text.isDigit c
  | .blank => if ascii then Text.isAsciiBlank c else Text.isBlank c
  | .word => if ascii then Text.isAsciiWord c else Text.isWord c

/-- A member of a set of characters. -/
inductive CharItem where
  /-- One code point. -/
  | code (n : Nat)
  /-- The code points from one to another. -/
  | range (low high : Nat)
  /-- The characters that belong, or do not belong, to a category. -/
  | category (kind : CharClass) (ascii negated : Bool)
  deriving DecidableEq, Repr

/-- Whether a character belongs to a member of a set. -/
def CharItem.covers (item : CharItem) (rule : CaseRule) (c : Char) : Bool :=
  match item with
  | .code n => (rule.variants c.toNat).contains n
  | .range low high => (rule.variants c.toNat).any fun n => low ≤ n && n ≤ high
  | .category kind ascii negated => kind.covers ascii c != negated

/-- A set of characters. -/
structure CharSet where
  /-- The members. -/
  items : List CharItem
  /-- Whether the characters outside of the members are meant. -/
  negated : Bool
  /-- How case is told apart. -/
  rule : CaseRule
  deriving DecidableEq, Repr

/-- Whether a character belongs to a set. -/
def CharSet.covers (set : CharSet) (c : Char) : Bool :=
  (set.items.any fun item => item.covers set.rule c) != set.negated

/-- A condition on a place in a text. -/
inductive Assertion where
  /-- The start of the text. -/
  | start
  /-- The start of a line. -/
  | lineStart
  /-- The end of the text. -/
  | finish
  /-- The end of the text, or before a line feed that ends it. -/
  | lastLineEnd
  /-- The end of a line. -/
  | lineEnd
  /-- Between a word character and another or none; never in an empty text. -/
  | boundary (ascii : Bool)
  /-- Not at a boundary; never in an empty text. -/
  | noBoundary (ascii : Bool)
  deriving DecidableEq, Repr

/-- Which repetitions are tried first. -/
inductive RepeatMode where
  /-- As many as possible. -/
  | greedy
  /-- As few as possible. -/
  | lazy
  /-- As many as possible, and no others. -/
  | possessive
  deriving DecidableEq, Repr

/-- An expression. -/
inductive Node where
  /-- Nothing. -/
  | empty
  /-- One character of a set. -/
  | one (set : CharSet)
  /-- No character, where a condition holds. -/
  | place (assertion : Assertion)
  /-- One expression after the other. -/
  | seq (first second : Node)
  /-- One expression, or else the other. -/
  | alt (first second : Node)
  /-- An expression repeated from `least` up to `most` times, or without bound. -/
  | repeated (least : Nat) (most : Option Nat) (mode : RepeatMode) (body : Node)
  /-- An expression whose text is captured under a number, or not captured. -/
  | group (index : Option Nat) (body : Node)
  /-- An expression of which only the first way to match counts. -/
  | atomic (body : Node)
  /-- No character, where an expression matches, or does not, from `back` characters before. -/
  | look (back : Nat) (negated : Bool) (body : Node)
  /-- The text captured under a number. -/
  | reference (index : Nat) (rule : CaseRule)
  /-- One expression if a number has captured a text, else the other. -/
  | conditional (index : Nat) (present absent : Node)
  deriving DecidableEq, Repr

/-- The least and the greatest number of characters that an expression takes. -/
structure Width where
  /-- The least number. -/
  least : Nat
  /-- The greatest number. -/
  most : Nat
  deriving DecidableEq, Repr

namespace Width

/-- What stands for a number without bound. -/
def unbounded : Nat := Nat.pow 2 64

/-- The width with both numbers cut at the bound. -/
def capped (least most : Nat) : Width := ⟨min least unbounded, min most unbounded⟩

end Width

/-- The width of an expression, given the widths of the groups. -/
def Node.width (groups : Nat → Width) : Node → Width
  | .empty => ⟨0, 0⟩
  | .one _ => ⟨1, 1⟩
  | .place _ => ⟨0, 0⟩
  | .seq first second =>
    let a := first.width groups
    let b := second.width groups
    .capped (a.least + b.least) (a.most + b.most)
  | .alt first second =>
    let a := first.width groups
    let b := second.width groups
    ⟨min a.least b.least, max a.most b.most⟩
  | .repeated least most _ body =>
    let a := body.width groups
    let top :=
      match most with
      | some n => a.most * n
      | none => if a.most = 0 then 0 else Width.unbounded
    .capped (a.least * least) top
  | .group _ body => body.width groups
  | .atomic body => body.width groups
  | .look _ _ _ => ⟨0, 0⟩
  | .reference index _ => groups index
  | .conditional _ present absent =>
    let a := present.width groups
    let b := absent.width groups
    ⟨min a.least b.least, max a.most b.most⟩

end StubGraft.Pattern
