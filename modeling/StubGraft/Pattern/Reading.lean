import StubGraft.Pattern.Basic
import StubGraft.Pattern.Error

/-!
# The tokens of a pattern

The text of a pattern is cut into tokens: a character, or a backslash with the character
after it.  One token is looked at ahead, so a backslash that ends the pattern is reported
as soon as the token before it is taken.

Main notions:

* `Token`, `tokens`: the pieces of a pattern;
* `Flags`: what the letters in `(?i)` and the like turn on;
* `Environment`: what a reading takes from its surroundings;
* `Reading`: what is known while a pattern is read;
* `Reader`: taking tokens, opening and closing groups.
-/

namespace StubGraft.Pattern

/-! ## Tokens -/

/-- A piece of a pattern. -/
inductive Token where
  /-- A character. -/
  | char (c : Char)
  /-- A backslash and the character after it. -/
  | escape (c : Char)
  /-- A backslash with nothing after it. -/
  | dangling
  deriving DecidableEq, Repr

/-- The text of a token. -/
def Token.text : Token → Text
  | .char c => [c]
  | .escape c => ['\\', c]
  | .dangling => ['\\']

/-- The tokens of a text with their positions. -/
def tokens (position : Nat) : Text → List (Nat × Token)
  | [] => []
  | ['\\'] => [(position, .dangling)]
  | '\\' :: c :: r => (position, .escape c) :: tokens (position + 2) r
  | c :: r => (position, .char c) :: tokens (position + 1) r

/-! ## Flags -/

/-- What letters turn on. -/
structure Flags where
  /-- Case makes no difference. -/
  ignoreCase : Bool
  /-- The anchors stand at every line. -/
  multiline : Bool
  /-- A dot stands for a line feed too. -/
  dotAll : Bool
  /-- Blanks and comments are left out. -/
  verbose : Bool
  /-- The categories are those of ASCII. -/
  ascii : Bool
  /-- The categories are those of Unicode. -/
  unicode : Bool
  /-- A flag of the whole pattern without effect on its meaning. -/
  template : Bool
  deriving DecidableEq, Repr

namespace Flags

/-- Nothing is turned on. -/
def none : Flags := ⟨false, false, false, false, false, false, false⟩

/-- The letters that are flags. -/
def letters : List Char := ['i', 'L', 'm', 's', 'x', 'a', 't', 'u']

/-- The flags with that of a letter turned on. -/
def add (flags : Flags) (letter : Char) : Flags :=
  if letter = 'i' then { flags with ignoreCase := true }
  else if letter = 'm' then { flags with multiline := true }
  else if letter = 's' then { flags with dotAll := true }
  else if letter = 'x' then { flags with verbose := true }
  else if letter = 'a' then { flags with ascii := true }
  else if letter = 'u' then { flags with unicode := true }
  else if letter = 't' then { flags with template := true }
  else flags

/-- The flags that two sets combine to, field by field. -/
def zip (f : Bool → Bool → Bool) (a b : Flags) : Flags where
  ignoreCase := f a.ignoreCase b.ignoreCase
  multiline := f a.multiline b.multiline
  dotAll := f a.dotAll b.dotAll
  verbose := f a.verbose b.verbose
  ascii := f a.ascii b.ascii
  unicode := f a.unicode b.unicode
  template := f a.template b.template

/-- The flags inside a group that turns some on and some off; turning on one of the two alphabets
turns off the other. -/
def within (flags on off : Flags) : Flags :=
  let base :=
    if on.ascii || on.unicode then { flags with ascii := false, unicode := false } else flags
  zip (fun a b => a && !b) (zip (· || ·) base on) off

/-- How case is told apart. -/
def caseRule (flags : Flags) : CaseRule :=
  if !flags.ignoreCase then .exact else if flags.ascii then .ascii else .all

end Flags

/-! ## The state of a reading -/

/-- What a reading takes from its surroundings. -/
structure Environment where
  /-- The character with a name, if there is one. -/
  characterNamed : Text → Option Char
  /-- Whether the stack that is left suffices to read a pattern. -/
  fits : Text → Bool

/-- No character has a name, and the stack suffices for every pattern. -/
def Environment.plain : Environment := ⟨fun _ => none, fun _ => true⟩

/-- What is known while a pattern is read. -/
structure Reading where
  /-- The characters that have names. -/
  characterNamed : Text → Option Char
  /-- The tokens that follow. -/
  rest : List (Nat × Token)
  /-- The length of the whole pattern. -/
  finish : Nat
  /-- The widths of the groups, in order; an open group has none yet. -/
  groups : List (Option Width)
  /-- The numbers of the named groups. -/
  names : List (Text × Nat)
  /-- Inside a look-behind, the number of the first group that it may hold. -/
  lookbehind : Option Nat
  /-- The groups that conditions are on, and where. -/
  conditions : List (Nat × Nat)
  /-- The flags of the whole pattern. -/
  flags : Flags
  /-- Whether a look-behind has no fixed width. -/
  looseLookbehind : Bool

/-- The width of a closed group. -/
def Reading.groupWidth (reading : Reading) (index : Nat) : Width :=
  ((reading.groups[index - 1]?).getD none).getD ⟨0, 0⟩

/-- A reading that may end in a fault. -/
abbrev Reader := StateT Reading (Except Fault)

namespace Reader

/-- Ends in a fault at a position. -/
def fail {α : Type} (problem : Problem) (position : Nat) : Reader α :=
  throw (.invalid problem (some position))

/-- The position of the next token. -/
def here : Reader Nat := do
  let reading ← get
  match reading.rest with
  | [] => return reading.finish
  | (position, _) :: _ => return position

/-- Ends in a fault at the next token. -/
def failHere {α : Type} (problem : Problem) : Reader α := do fail problem (← here)

/-- The next token. -/
def peek : Reader (Option Token) := do
  return (← get).rest.head?.map Prod.snd

/-- Whether the next token is a character. -/
def sees (c : Char) : Reader Bool := do
  return (← peek) == some (.char c)

/-- Ends in a fault if the next token is a backslash alone. -/
def lookPast : Reader Unit := do
  match (← get).rest with
  | (position, .dangling) :: _ => fail .danglingEscape position
  | _ => return

/-- Takes the next token. -/
def take : Reader (Option Token) := do
  let token ← peek
  modify fun reading => { reading with rest := reading.rest.tail }
  lookPast
  return token

/-- Takes the next token if it is the given character. -/
def accept (c : Char) : Reader Bool := do
  if ← sees c then
    let _ ← take
    return true
  else
    return false

/-- Takes up to `n` characters of a kind. -/
def takeChars (kind : Char → Bool) : Nat → Reader Text
  | 0 => return []
  | n + 1 => do
    match ← peek with
    | some (.char c) =>
      if kind c then
        let _ ← take
        return c :: (← takeChars kind n)
      else return []
    | _ => return []

/-- Takes all characters of a kind that follow. -/
def takeAll (kind : Char → Bool) : Reader Text := do
  takeChars kind (← get).rest.length

/-- Takes tokens up to a closing character; `start` is the position of the first of them. -/
def takeName (closer : Char) (what : String) (start : Nat) (seen : Text) : Nat → Reader Text
  | 0 => failHere (.unterminatedName closer)
  | n + 1 => do
    match ← take with
    | none =>
      if seen.isEmpty then failHere (.missingName what) else fail (.unterminatedName closer) start
    | some token =>
      if token = .char closer then
        if seen.isEmpty then fail (.missingName what) start else return seen
      else takeName closer what start (seen ++ token.text) n

/-- A name up to a closing character, and its position. -/
def nameUntil (closer : Char) (what : String) : Reader (Text × Nat) := do
  let start ← here
  let name ← takeName closer what start [] ((← get).rest.length + 1)
  return (name, start)

/-! ## Groups and references -/

/-- Whether a group is there and closed. -/
def isClosed (index : Nat) : Reader Bool := do
  match (← get).groups[index - 1]? with
  | some (some _) => return index ≠ 0
  | _ => return false

/-- A look-behind refers only to groups that were closed before it. -/
def checkLookbehind (index : Nat) : Reader Unit := do
  match (← get).lookbehind with
  | none => return
  | some first =>
    if !(← isClosed index) then failHere .openGroup
    if first ≤ index then failHere .sameLookbehind

/-- Opens a group, with a name or without; `start` is the position of the name. -/
def openGroup (name : Option Text) (start : Nat) : Reader Nat := do
  let reading ← get
  let index := reading.groups.length + 1
  match name with
  | none => set { reading with groups := reading.groups ++ [none] }
  | some name =>
    match reading.names.find? fun entry => entry.1 = name with
    | some (_, earlier) => fail (.repeatedName name index earlier) start
    | none =>
      set { reading with
        groups := reading.groups ++ [none]
        names := reading.names ++ [(name, index)] }
  return index

/-- The width of an expression. -/
def widthOf (node : Node) : Reader Width := do
  return node.width (← get).groupWidth

/-- Closes a group. -/
def closeGroup (index : Nat) (body : Node) : Reader Unit := do
  let width ← widthOf body
  modify fun reading => { reading with groups := reading.groups.set (index - 1) (some width) }

end Reader
end StubGraft.Pattern
