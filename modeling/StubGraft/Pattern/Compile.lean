import StubGraft.Decimal.DigitLimit
import StubGraft.Pattern.Reading

/-!
# Compiling patterns

A pattern is read by recursive descent: alternatives, sequences, and in them escapes, sets
of characters, repetitions and groups.  How deeply groups may nest is up to the stack that is
left, and so to the environment of the reading, as are the names of characters.

Main statement of use: `compile` gives the expression of a pattern, or the first fault in it.
-/

namespace StubGraft.Pattern

/-- The number of repetitions that is too great. -/
def maxRepeat : Nat := 4294967295

/-- The number of a group that is too great. -/
def maxGroups : Nat := 1073741823

/-- The expression of a list of expressions, one after the other. -/
def Node.ofList : List Node → Node
  | [] => .empty
  | [node] => node
  | node :: nodes => .seq node (ofList nodes)

/-- Whether an expression is a condition on a place. -/
def Node.isPlace : Node → Bool
  | .place _ => true
  | _ => false

/-- Whether an expression is a repetition. -/
def Node.isRepeated : Node → Bool
  | .repeated .. => true
  | _ => false

namespace Reader

/-! ## Escapes -/

/-- Whether a character is an octal digit. -/
def isOctal (c : Char) : Bool := '0' ≤ c && c ≤ '7'

/-- Whether a character is a hexadecimal digit. -/
def isHex (c : Char) : Bool := (Text.hexDigit? c).isSome

/-- The number that digits write in a base. -/
def numberIn (base : Nat) (digits : Text) : Nat :=
  digits.foldl (fun n c => base * n + (Text.hexDigit? c).getD 0) 0

/-- The control characters and the backslash that letters stand for. -/
def controlEscape? (c : Char) : Option Nat :=
  if c = 'a' then some 7
  else if c = 'b' then some 8
  else if c = 'f' then some 12
  else if c = 'n' then some 10
  else if c = 'r' then some 13
  else if c = 't' then some 9
  else if c = 'v' then some 11
  else if c = '\\' then some 92
  else none

/-- The category that a letter stands for, and whether its complement is meant. -/
def categoryEscape? (ascii : Bool) (c : Char) : Option CharItem :=
  if c = 'd' then some (.category .digit ascii false)
  else if c = 'D' then some (.category .digit ascii true)
  else if c = 's' then some (.category .blank ascii false)
  else if c = 'S' then some (.category .blank ascii true)
  else if c = 'w' then some (.category .word ascii false)
  else if c = 'W' then some (.category .word ascii true)
  else none

/-- The condition that a letter stands for. -/
def placeEscape? (ascii : Bool) (c : Char) : Option Assertion :=
  if c = 'A' then some .start
  else if c = 'b' then some (.boundary ascii)
  else if c = 'B' then some (.noBoundary ascii)
  else if c = 'Z' then some .finish
  else none

/-- Reads an escape by a fixed number of hexadecimal digits. -/
def hexEscape (start : Nat) (letter : Char) (count : Nat) : Reader Nat := do
  let digits ← takeChars isHex count
  let escape := '\\' :: letter :: digits
  if digits.length ≠ count then fail (.incompleteEscape escape) start
  let n := numberIn 16 digits
  if 0x10FFFF < n then fail (.badEscape escape) start
  return n

/-- Reads an escape by the name of a character. -/
def nameEscape (start : Nat) : Reader Nat := do
  if !(← accept '{') then failHere .missingBrace
  let (name, _) ← nameUntil '}' "character name"
  match (← get).characterNamed name with
  | some c => return c.toNat
  | none => fail (.unknownCharacter name) start

/-- Reads an escape by code, if the letter starts one. -/
def codeEscape? (start : Nat) (c : Char) : Reader (Option Nat) := do
  if c = 'x' then return some (← hexEscape start c 2)
  else if c = 'u' then return some (← hexEscape start c 4)
  else if c = 'U' then return some (← hexEscape start c 8)
  else if c = 'N' then return some (← nameEscape start)
  else return none

/-- Reads an escape inside a set of characters. -/
def setEscape (flags : Flags) (start : Nat) (c : Char) : Reader CharItem := do
  match controlEscape? c with
  | some n => return .code n
  | none =>
    match categoryEscape? flags.ascii c with
    | some item => return item
    | none =>
      match ← codeEscape? start c with
      | some n => return .code n
      | none =>
        if isOctal c then
          let digits := c :: (← takeChars isOctal 2)
          let n := numberIn 8 digits
          if 0xFF < n then fail (.octalRange ('\\' :: digits)) start
          return .code n
        else if Text.isAsciiDigit c || Text.isAsciiLetter c then
          fail (.badEscape ['\\', c]) start
        else return .code c.toNat

/-- Reads a reference to a group. -/
def reference (flags : Flags) (start : Nat) (digits : Text) : Reader Node := do
  let index := Text.toNat digits
  if (← get).groups.length < index then fail (.unknownGroup index) (start + 1)
  if !(← isClosed index) then fail .openGroup start
  checkLookbehind index
  return .reference index flags.caseRule

/-- One character given by its code. -/
def literal (flags : Flags) (n : Nat) : Node := .one ⟨[.code n], false, flags.caseRule⟩

/-- Reads an escape that starts with a digit: three octal digits are a character, else it refers to
a group. -/
def digitEscape (flags : Flags) (start : Nat) (c : Char) : Reader Node := do
  if c = '0' then
    return literal flags (numberIn 8 (← takeChars isOctal 2))
  else
    match ← takeChars Text.isAsciiDigit 1 with
    | [] => reference flags start [c]
    | second =>
      let digits := c :: second
      if digits.all isOctal then
        match ← takeChars isOctal 1 with
        | [] => reference flags start digits
        | third =>
          let digits := digits ++ third
          let n := numberIn 8 digits
          if 0xFF < n then fail (.octalRange ('\\' :: digits)) start
          return literal flags n
      else reference flags start digits

/-- Reads an escape outside of a set of characters. -/
def escape (flags : Flags) (start : Nat) (c : Char) : Reader Node := do
  match placeEscape? flags.ascii c with
  | some assertion => return .place assertion
  | none =>
    match categoryEscape? flags.ascii c with
    | some item => return .one ⟨[item], false, flags.caseRule⟩
    | none =>
      match controlEscape? c with
      | some n => return literal flags n
      | none =>
        match ← codeEscape? start c with
        | some n => return literal flags n
        | none =>
          if Text.isAsciiDigit c then digitEscape flags start c
          else if Text.isAsciiLetter c then fail (.badEscape ['\\', c]) start
          else return literal flags c.toNat

/-! ## Sets of characters -/

/-- Reads one end of a range, or a member of its own. -/
def setItem (flags : Flags) (start : Nat) : Token → Reader CharItem
  | .char c => return .code c.toNat
  | .escape c => setEscape flags start c
  | .dangling => fail .danglingEscape start

/-- Reads the members of a set up to its bracket; a bracket as the first member stands for itself.
`start` is the position of the opening bracket. -/
def setItems (flags : Flags) (start : Nat) (items : List CharItem) : Nat → Reader (List CharItem)
  | 0 => fail .unterminatedSet start
  | n + 1 => do
    let place ← here
    match ← take with
    | none => fail .unterminatedSet start
    | some token =>
      if token = .char ']' ∧ items ≠ [] then return items
      let low ← setItem flags place token
      if ← accept '-' then
        let highPlace ← here
        match ← take with
        | none => fail .unterminatedSet start
        | some last =>
          if last = .char ']' then return items ++ [low, .code '-'.toNat]
          let high ← setItem flags highPlace last
          let bad : Reader CharItem := do
            let width := token.text.length + 1 + last.text.length
            fail (.badRange token.text last.text) ((← here) - width)
          let range ←
            match low, high with
            | .code a, .code b => if b < a then bad else pure (CharItem.range a b)
            | _, _ => bad
          setItems flags start (items ++ [range]) n
      else setItems flags start (items ++ [low]) n

/-- Reads a set of characters after its opening bracket at `start`. -/
def charSet (flags : Flags) (start : Nat) : Reader Node := do
  let negated ← accept '^'
  let items ← setItems flags start [] ((← get).rest.length + 1)
  return .one ⟨items, negated, flags.caseRule⟩

/-! ## Repetitions -/

/-- The number that the bound of a repetition writes. -/
def bound (digits : Text) : Reader Nat := do
  if maxIntegerDigits < digits.length then
    throw (.invalid (.unreadableBound (tooManyDigitsMessage digits.length)) none)
  let n := Text.toNat digits
  if maxRepeat ≤ n then throw .repetitionTooLarge
  return n

/-- Reads the bounds of a repetition after its brace at `start`; what is no pair of bounds is left
alone. -/
def bounds? (start : Nat) : Reader (Option (Nat × Option Nat)) := do
  if ← sees '}' then return none
  let rest := (← get).rest
  let low ← takeAll Text.isAsciiDigit
  let high ← if ← accept ',' then takeAll Text.isAsciiDigit else pure low
  if !(← accept '}') then
    modify fun reading => { reading with rest := rest }
    return none
  let least ← if low.isEmpty then pure 0 else bound low
  if high.isEmpty then return some (least, none)
  let most ← bound high
  if most < least then fail .repeatOrder (start + 1)
  return some (least, some most)

/-- Repeats the latest of the expressions, which are in reverse; `start` is the position of the
repetition. -/
def repetition (start : Nat) (least : Nat) (most : Option Nat) (items : List Node) :
    Reader (List Node) := do
  match items with
  | [] => fail .nothingToRepeat start
  | item :: earlier =>
    if item.isPlace then fail .nothingToRepeat start
    if item.isRepeated then fail .multipleRepeat start
    let mode ←
      if ← accept '?' then pure RepeatMode.lazy
      else if ← accept '+' then pure RepeatMode.possessive
      else pure RepeatMode.greedy
    return .repeated least most mode item :: earlier

/-! ## Flags -/

/-- Ends in a fault for a token that is no flag: a letter is an unknown flag, all else is out of
place. -/
def failFlag {α : Type} (token : Token) (otherwise : Problem) : Reader α := do
  let place := (← here) - token.text.length
  match token with
  | .char c => fail (if Text.isNameStart c && c ≠ '_' then .unknownFlag else otherwise) place
  | _ => fail otherwise place

/-- Reads the flags that are turned on, the first of which is given, and the character after them.
-/
def flagsOn (on : Flags) (letter : Char) : Nat → Reader (Flags × Char)
  | 0 => failHere .missingFlagEnd
  | n + 1 => do
    if letter = 'L' then failHere .localeFlag
    let on := on.add letter
    if (letter = 'a' ∨ letter = 'u') ∧ on.ascii ∧ on.unicode then failHere .incompatibleFlags
    match ← take with
    | none => failHere .missingFlagEnd
    | some (.char c) =>
      if c = ')' ∨ c = '-' ∨ c = ':' then return (on, c)
      else if c ∈ Flags.letters then flagsOn on c n
      else failFlag (.char c) .missingFlagEnd
    | some token => failFlag token .missingFlagEnd

/-- Reads the flags that are turned off, the first of which is given, up to the colon. -/
def flagsOff (off : Flags) (letter : Char) : Nat → Reader Flags
  | 0 => failHere .missingColon
  | n + 1 => do
    if letter = 'L' ∨ letter = 'a' ∨ letter = 'u' then failHere .fixedFlagOff
    let off := off.add letter
    match ← take with
    | none => failHere .missingColon
    | some (.char c) =>
      if c = ':' then return off
      else if c ∈ Flags.letters then flagsOff off c n
      else failFlag (.char c) .missingColon
    | some token => failFlag token .missingColon

/-- Ends in a fault at the token before the next one. -/
def failBefore {α : Type} (problem : Problem) : Reader α := do fail problem ((← here) - 1)

/-- Reads flags from a letter or a minus sign on: those of a group, or none if they are for the
whole pattern, where they are entered. -/
def groupFlags? (letter : Char) : Reader (Option (Flags × Flags)) := do
  let count := (← get).rest.length + 1
  let (on, closer) ← if letter = '-' then pure (Flags.none, '-') else flagsOn .none letter count
  if closer = ')' then
    modify fun reading => { reading with flags := Flags.zip (· || ·) reading.flags on }
    return none
  if on.template then failBefore .globalFlagOn
  let off ←
    if closer = '-' then
      match ← take with
      | none => failHere .missingFlag
      | some (.char c) =>
        if c ∈ Flags.letters then flagsOff .none c count else failFlag (.char c) .missingFlag
      | some token => failFlag token .missingFlag
    else pure Flags.none
  if off.template then failBefore .globalFlagOff
  if Flags.zip (· && ·) on off ≠ .none then failBefore .flagOnAndOff
  return some (on, off)

/-! ## Groups, sequences and alternatives -/

/-- Passes over a comment in a group that starts at `start`. -/
def comment (start : Nat) : Nat → Reader Unit
  | 0 => fail .unterminatedComment start
  | n + 1 => do
    match ← take with
    | none => fail .unterminatedComment start
    | some token => if token = .char ')' then return else comment start n

/-- Passes over a comment up to the end of its line. -/
def lineComment : Nat → Reader Unit
  | 0 => return
  | n + 1 => do
    match ← take with
    | none => return
    | some token => if token = .char '\n' then return else lineComment n

/-- Takes the parenthesis that closes a group opened at `start`. -/
def closeParen (start : Nat) : Reader Unit := do
  if !(← accept ')') then fail .unterminatedGroup start

/-- A name of a group has to be an identifier. -/
def checkName (name : Text) (start : Nat) : Reader Unit := do
  if !Text.isName name then fail (.badName name) start

/-- The number of a named group. -/
def namedGroup (name : Text) (start : Nat) : Reader Nat := do
  match (← get).names.find? fun entry => entry.1 = name with
  | none => fail (.unknownName name) start
  | some (_, index) => return index

/-- Reads a reference by name. -/
def namedReference (flags : Flags) : Reader Node := do
  let (name, start) ← nameUntil ')' "group name"
  checkName name start
  let index ← namedGroup name start
  if !(← isClosed index) then fail .openGroup start
  checkLookbehind index
  return .reference index flags.caseRule

/-- Reads the group that a condition is on. -/
def condition : Reader Nat := do
  let (name, start) ← nameUntil ')' "group name"
  let index ←
    if Text.isName name then namedGroup name start
    else if !name.all Text.isAsciiDigit then fail (.badName name) start
    else
      let index := Text.toNat name
      if index = 0 then fail .badGroupNumber start
      if maxGroups ≤ index then fail (.unknownGroup index) start
      modify fun reading => { reading with conditions := reading.conditions ++ [(index, start)] }
      pure index
  checkLookbehind index
  return index

mutual

/-- Reads alternatives; `nested` tells whether they stand in a group, `first` whether they stand at
the start of the pattern. -/
def alternatives (fuel : Nat) (nested first : Bool) (flags : Flags) : Reader Node := do
  match fuel with
  | 0 => failHere .unexpectedEnd
  | fuel + 1 =>
    let branch ← sequence fuel (first && !nested) flags []
    if ← accept '|' then
      let reading ← get
      let flags := if nested then flags else reading.flags
      return .alt branch (← alternatives fuel nested false flags)
    else return branch

/-- Reads a sequence up to a bar, a closing parenthesis or the end; `items` holds what has been
read, in reverse. -/
def sequence (fuel : Nat) (first : Bool) (flags : Flags) (items : List Node) : Reader Node := do
  match fuel with
  | 0 => failHere .unexpectedEnd
  | fuel + 1 =>
    let start ← here
    if (← peek).isNone || (← sees '|') || (← sees ')') then return Node.ofList items.reverse
    match ← take with
    | none | some .dangling => return Node.ofList items.reverse
    | some (.escape c) =>
      let node ← escape flags start c
      sequence fuel first flags (node :: items)
    | some (.char c) =>
      if flags.verbose && Text.isAsciiBlank c then sequence fuel first flags items
      else if flags.verbose && c == '#' then
        lineComment ((← get).rest.length + 1)
        sequence fuel first flags items
      else if c = '[' then
        let node ← charSet flags start
        sequence fuel first flags (node :: items)
      else if c = '?' then sequence fuel first flags (← repetition start 0 (some 1) items)
      else if c = '*' then sequence fuel first flags (← repetition start 0 none items)
      else if c = '+' then sequence fuel first flags (← repetition start 1 none items)
      else if c = '{' then
        match ← bounds? start with
        | none => sequence fuel first flags (literal flags c.toNat :: items)
        | some (least, most) => sequence fuel first flags (← repetition start least most items)
      else if c = '.' then
        let hidden := if flags.dotAll then [] else [CharItem.code 10]
        sequence fuel first flags (.one ⟨hidden, true, .exact⟩ :: items)
      else if c = '^' then
        sequence fuel first flags (.place (if flags.multiline then .lineStart else .start) :: items)
      else if c = '$' then
        let node := Node.place (if flags.multiline then .lineEnd else .lastLineEnd)
        sequence fuel first flags (node :: items)
      else if c = '(' then
        match ← group fuel start (first && items.isEmpty) flags with
        | (none, flags) => sequence fuel first flags items
        | (some node, flags) => sequence fuel first flags (node :: items)
      else sequence fuel first flags (literal flags c.toNat :: items)

/-- Reads a group after its parenthesis at `start`: an expression or nothing, and the flags that
hold after it. -/
def group (fuel : Nat) (start : Nat) (first : Bool) (flags : Flags) :
    Reader (Option Node × Flags) := do
  match fuel with
  | 0 => failHere .unexpectedEnd
  | fuel + 1 =>
    if !(← accept '?') then
      return (some (← captured fuel start none start flags), flags)
    match ← take with
    | none => failHere .unexpectedEnd
    | some (.char 'P') =>
      if ← accept '<' then
        let (name, place) ← nameUntil '>' "group name"
        checkName name place
        return (some (← captured fuel start (some name) place flags), flags)
      else if ← accept '=' then
        return (some (← namedReference flags), flags)
      else
        match ← take with
        | none => failHere .unexpectedEnd
        | some token => fail (.unknownExtension ('P' :: token.text)) (start + 1)
    | some (.char ':') =>
      let body ← alternatives fuel true false flags
      closeParen start
      return (some (.group none body), flags)
    | some (.char '>') =>
      let body ← alternatives fuel true false flags
      closeParen start
      return (some (.atomic body), flags)
    | some (.char '#') =>
      comment start ((← get).rest.length + 1)
      return (none, flags)
    | some (.char '=') => return (some (← lookAhead fuel start false flags), flags)
    | some (.char '!') => return (some (← lookAhead fuel start true flags), flags)
    | some (.char '<') =>
      match ← take with
      | none => failHere .unexpectedEnd
      | some (.char '=') => return (some (← lookBehind fuel start false flags), flags)
      | some (.char '!') => return (some (← lookBehind fuel start true flags), flags)
      | some token => fail (.unknownExtension ('<' :: token.text)) (start + 1)
    | some (.char '(') =>
      let index ← condition
      let present ← sequence fuel false flags []
      let absent ←
        if ← accept '|' then
          let absent ← sequence fuel false flags []
          if ← sees '|' then failHere .thirdBranch
          pure absent
        else pure .empty
      closeParen start
      return (some (.conditional index present absent), flags)
    | some (.char c) =>
      if c ∈ Flags.letters ∨ c = '-' then
        match ← groupFlags? c with
        | none =>
          if !first then fail .lateFlags start
          return (none, (← get).flags)
        | some (on, off) =>
          let body ← alternatives fuel true false (flags.within on off)
          closeParen start
          return (some (.group none body), flags)
      else fail (.unknownExtension [c]) (start + 1)
    | some token => fail (.unknownExtension token.text) (start + 1)

/-- Reads the body of a group that is captured. -/
def captured (fuel : Nat) (start : Nat) (name : Option Text) (place : Nat) (flags : Flags) :
    Reader Node := do
  match fuel with
  | 0 => failHere .unexpectedEnd
  | fuel + 1 =>
    let index ← openGroup name place
    let body ← alternatives fuel true false flags
    closeParen start
    closeGroup index body
    return .group (some index) body

/-- Reads the body of a look-ahead. -/
def lookAhead (fuel : Nat) (start : Nat) (negated : Bool) (flags : Flags) : Reader Node := do
  match fuel with
  | 0 => failHere .unexpectedEnd
  | fuel + 1 =>
    let body ← alternatives fuel true false flags
    closeParen start
    return .look 0 negated body

/-- Reads the body of a look-behind. -/
def lookBehind (fuel : Nat) (start : Nat) (negated : Bool) (flags : Flags) : Reader Node := do
  match fuel with
  | 0 => failHere .unexpectedEnd
  | fuel + 1 =>
    let outer := (← get).lookbehind
    modify fun reading =>
      { reading with lookbehind := outer.or (some (reading.groups.length + 1)) }
    let body ← alternatives fuel true false flags
    modify fun reading => { reading with lookbehind := outer }
    closeParen start
    let width ← widthOf body
    if width.least ≠ width.most then
      modify fun reading => { reading with looseLookbehind := true }
    return .look width.least negated body

end

/-- Reads a whole pattern.  Of any five nested calls one takes a token, so the fuel never runs out.
-/
def whole : Reader Node := do
  lookPast
  let node ← alternatives (5 * (← get).rest.length + 10) false true .none
  let reading ← get
  if reading.flags.ascii && reading.flags.unicode then throw (.invalid .asciiAndUnicode none)
  if reading.rest ≠ [] then failHere .unbalancedGroup
  match reading.conditions.find? fun entry => reading.groups.length < entry.1 with
  | some (index, place) => fail (.unknownGroup index) place
  | none =>
    if reading.looseLookbehind then throw (.invalid .variableLookbehind none)
    return node

end Reader

/-- The expression of a pattern, or the first fault in it, unless the stack does not suffice to read
it. -/
def compile (environment : Environment) (source : Text) : Except Fault Node :=
  if environment.fits source then
    let start : Reading :=
      ⟨environment.characterNamed, tokens 0 source, source.length, [], [], none, [], .none, false⟩
    (Reader.whole.run start).map Prod.fst
  else .error .tooDeep

end StubGraft.Pattern
