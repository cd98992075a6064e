import ClassPurge.Number.Spelled
import ClassPurge.Pattern.Basic
import ClassPurge.Pattern.Error
import ClassPurge.Text.Identifier
import ClassPurge.Text.Named

/-!
Reading a pattern. The pattern is taken a token at a time, a token being one character or a
backslash with the character after it; a backslash with nothing after it is a fault as soon as
it comes up.
-/

namespace ClassPurge.Pattern

inductive Tok
  | char (c : Char)
  | escaped (c : Char)
  deriving DecidableEq, Repr

def Tok.text : Tok → Text
  | char c => [c]
  | escaped c => ['\\', c]

/-- A group that has been opened; it has a width once it is closed. -/
structure GroupInfo where
  name : Option Text
  width : Option Width

structure ReadState where
  rest : Text
  size : Nat
  modes : Modes
  /-- Classes have been asked not to be kept to ASCII. -/
  unicode : Bool
  groups : List GroupInfo
  /-- The number of groups, the whole pattern counted, where the outermost look-behind began. -/
  lookBehind : Option Nat
  /-- Groups that conditions name by number, and where. -/
  conditions : List (Nat × Nat)
  /-- Look-behinds that cannot be looked up, and where. -/
  badBehinds : List (Nat × Fault)

abbrev Reader := StateT ReadState (Except Error)

namespace Reader

def offset : Reader Nat := do
  let s ← get
  return s.size - s.rest.length

/-- Fails at the place `back` characters before the current one. -/
def fail {α : Type} (f : Fault) (back : Nat := 0) : Reader α := do
  let i ← offset
  throw ⟨f, some (i - back)⟩

def moveTo (rest : Text) : Reader Unit := do
  if rest == ['\\'] then
    throw ⟨.backslashAtEnd, some ((← get).size - 1)⟩
  modify fun s => { s with rest := rest }

def peek : Reader (Option Tok) := do
  match (← get).rest with
  | [] => return none
  | '\\' :: c :: _ => return some (.escaped c)
  | c :: _ => return some (.char c)

def next : Reader (Option Tok) := do
  let t ← peek
  if let some t := t then moveTo ((← get).rest.drop t.text.length)
  return t

def accept (c : Char) : Reader Bool := do
  if (← peek) == some (.char c) then
    let _ ← next
    return true
  return false

/-- Takes up to `n` characters that `p` marks. -/
def takeUpTo (p : Char → Bool) : Nat → Reader Text
  | 0 => return []
  | n + 1 => do
    match ← peek with
    | some (.char c) =>
      if p c then
        let _ ← next
        return c :: (← takeUpTo p n)
      else return []
    | _ => return []

def takeAll (p : Char → Bool) : Reader Text := do takeUpTo p (← get).rest.length

/-- Skips to behind the next token `c`; answers whether there was one. -/
def skipPast (c : Char) : Nat → Reader Bool
  | 0 => return false
  | n + 1 => do
    match ← next with
    | none => return false
    | some t => if t == .char c then return true else skipPast c n

def untilFrom (terminator : Char) (what : String) : Nat → Text → Reader Text
  | 0, _ => fail .exhausted
  | n + 1, acc => do
    match ← next with
    | none =>
      if acc.isEmpty then fail (.missingName what)
      else fail (.unterminatedName terminator) acc.length
    | some t =>
      if t == .char terminator then
        if acc.isEmpty then fail (.missingName what) 1 else return acc
      else untilFrom terminator what n (acc ++ t.text)

/-- The text up to `terminator`, which is taken too. -/
def upTo (terminator : Char) (what : String) : Reader Text := do
  untilFrom terminator what ((← get).rest.length + 1) []

end Reader

open Reader

def isOctal (c : Char) : Bool := '0' ≤ c && c ≤ '7'

def isHex (c : Char) : Bool := c.isDigit || ('a' ≤ c && c ≤ 'f') || ('A' ≤ c && c ≤ 'F')

def digitValue (c : Char) : Nat :=
  if c.isDigit then c.toNat - 0x30
  else if 'a' ≤ c then c.toNat - 0x57
  else c.toNat - 0x37

def number (base : Nat) (t : Text) : Nat := t.foldl (fun n c => n * base + digitValue c) 0

inductive Escape
  | code (n : Nat)
  | category (k : Category) (negated : Bool)
  | anchor (a : Anchor)
  | back (index : Nat)

def category? : Char → Option (Category × Bool)
  | 'd' => some (.digit, false)
  | 'D' => some (.digit, true)
  | 's' => some (.blank, false)
  | 'S' => some (.blank, true)
  | 'w' => some (.word, false)
  | 'W' => some (.word, true)
  | _ => none

/-- Control characters with a letter of their own. -/
def control? : Char → Option Nat
  | 'a' => some 0x7
  | 'f' => some 0xc
  | 'n' => some 0xa
  | 'r' => some 0xd
  | 't' => some 0x9
  | 'v' => some 0xb
  | '\\' => some 0x5c
  | _ => none

def readHex (c : Char) (digits : Nat) : Reader Nat := do
  let ds ← takeUpTo isHex digits
  let escape := '\\' :: c :: ds
  if ds.length ≠ digits then fail (.incompleteEscape escape) escape.length
  let n := number 16 ds
  if n > 0x10ffff then fail (.badEscape escape) escape.length
  return n

def readNamed : Reader Nat := do
  if !(← accept '{') then fail .missingBrace
  let name ← upTo '}' "character name"
  match Text.named? name with
  | some c => return c.toNat
  | none => fail (.unknownCharacterName name) (name.length + 4)

/-- Escapes that mean the same inside and outside of sets. -/
def readCommonEscape (c : Char) : Reader Nat := do
  match c with
  | 'x' => readHex c 2
  | 'u' => readHex c 4
  | 'U' => readHex c 8
  | 'N' => readNamed
  | _ => if c.isAlphanum then fail (.badEscape ['\\', c]) 2 else return c.toNat

def readSetEscape (c : Char) : Reader Escape := do
  if c == 'b' then return .code 8
  if let some n := control? c then return .code n
  if let some (k, negated) := category? c then return .category k negated
  if isOctal c then
    let ds := c :: (← takeUpTo isOctal 2)
    let n := number 8 ds
    if n > 0o377 then fail (.octalTooLarge ('\\' :: ds)) (ds.length + 1)
    return .code n
  return .code (← readCommonEscape c)

/-- Fails if the group `index` may not be referred to inside the look-behind being read. -/
def checkLookBehind (index : Nat) : Reader Unit := do
  let s ← get
  if let some start := s.lookBehind then
    if (s.groups[index - 1]?.bind GroupInfo.width).isNone then fail .openGroup
    if index ≥ start then fail .sameLookBehind

/-- A reference to a group by number, or an octal code of three digits. -/
def readReference (c : Char) : Reader Escape := do
  let more ← match ← peek with
    | some (.char d) =>
      if d.isDigit then do
        let _ ← next
        match ← peek with
        | some (.char e) =>
          if isOctal c && isOctal d && isOctal e then
            let _ ← next
            pure [d, e]
          else pure [d]
        | _ => pure [d]
      else pure []
    | _ => pure []
  let ds := c :: more
  if ds.length == 3 then
    let n := number 8 ds
    if n > 0o377 then fail (.octalTooLarge ('\\' :: ds)) 4
    return .code n
  let index := number 10 ds
  match (← get).groups[index - 1]? with
  | none => fail (.noSuchGroup index) ds.length
  | some g =>
    if g.width.isNone then fail .openGroup (ds.length + 1)
    checkLookBehind index
    return .back index

def readEscape (c : Char) : Reader Escape := do
  match c with
  | 'A' => return .anchor .textStart
  | 'Z' => return .anchor .textEnd
  | 'b' => return .anchor (.boundary (← get).modes.ascii)
  | 'B' => return .anchor (.noBoundary (← get).modes.ascii)
  | _ =>
    if let some (k, negated) := category? c then return .category k negated
    if let some n := control? c then return .code n
    if c == '0' then return .code (number 8 (c :: (← takeUpTo isOctal 2)))
    if c.isDigit then readReference c
    else return .code (← readCommonEscape c)

/-! ### Sets -/

def Escape.item : Escape → Item
  | code n => .char n
  | category k negated => .category k negated
  | anchor _ | back _ => .char 0

def Escape.code? : Escape → Option Nat
  | code n => some n
  | _ => none

def readMember (t : Tok) : Reader Escape :=
  match t with
  | .char c => return .code c.toNat
  | .escaped c => readSetEscape c

def readMembers (start : Nat) : Nat → List Item → Reader (List Item)
  | 0, _ => fail .exhausted
  | fuel + 1, acc => do
    let unterminated {α : Type} : Reader α := throw ⟨.unterminatedSet, some start⟩
    match ← next with
    | none => unterminated
    | some t =>
      if t == .char ']' && !acc.isEmpty then return acc
      let a ← readMember t
      if !(← accept '-') then readMembers start fuel (acc ++ [a.item])
      else
        match ← next with
        | none => unterminated
        | some u =>
          if u == .char ']' then return acc ++ [a.item, .char 0x2d]
          let b ← readMember u
          let bad {α : Type} : Reader α :=
            fail (.badRange t.text u.text) (t.text.length + 1 + u.text.length)
          match a.code?, b.code? with
          | some m, some n => if n < m then bad else readMembers start fuel (acc ++ [.range m n])
          | _, _ => bad

def readSet (modes : Modes) : Reader Node := do
  let start := (← offset) - 1
  let negated ← accept '^'
  let items ← readMembers start ((← get).rest.length + 1) []
  return .one ⟨items.eraseDups, negated, modes.ignoreCase, modes.ascii⟩

/-! ### Repetitions -/

/-- More than this many repetitions cannot be asked for. -/
def repetitionLimit : Nat := 4294967295

/-- The number of repetitions that digits spell. -/
def readBound (ds : Text) : Reader Nat := do
  if ds.length > Spelled.sizeLimit then throw ⟨.longNumber ds.length, none⟩
  if number 10 ds ≥ repetitionLimit then throw ⟨.tooManyRepetitions, none⟩
  return number 10 ds

/-- The bounds between braces, the first of which has just been taken. No answer if these are no
bounds, and then nothing is taken. -/
def readBounds : Reader (Option (Nat × Option Nat)) := do
  let here := (← get).rest
  if (← peek) == some (.char '}') then return none
  let lo ← takeAll Char.isDigit
  let hi ← if ← accept ',' then takeAll Char.isDigit else pure lo
  if !(← accept '}') then
    moveTo here
    return none
  let least ← readBound lo
  let most ← if hi.isEmpty then pure none else some <$> readBound hi
  if most.any (· < least) then
    throw ⟨.leastAboveMost, some ((← get).size - here.length)⟩
  return some (least, most)

/-- The mark behind a quantifier, of which there is at most one. -/
def readGreed : Reader Greed := do
  if ← accept '?' then return .lazy
  if ← accept '+' then return .possessive
  return .greedy

def readRepetition (start least : Nat) (most : Option Nat) (item : Option Node) : Reader Node := do
  match item with
  | none | some (.anchor _) => throw ⟨.nothingToRepeat, some start⟩
  | some (.repeated ..) => throw ⟨.multipleRepeat, some start⟩
  | some n =>
    return .repeated (← readGreed) least most n

/-! ### Modes inside the pattern -/

/-- Modes turned on or off, and whether the class mode or the ignored template mode is named. -/
structure ModeSet where
  modes : Modes
  ascii : Bool
  unicode : Bool
  template : Bool

def ModeSet.none : ModeSet := ⟨.plain, false, false, false⟩

def isMode (c : Char) : Bool := ['i', 'L', 'm', 's', 'x', 'a', 't', 'u'].contains c

def ModeSet.add (s : ModeSet) : Char → ModeSet
  | 'i' => { s with modes.ignoreCase := true }
  | 'm' => { s with modes.multiLine := true }
  | 's' => { s with modes.dotAll := true }
  | 'x' => { s with modes.verbose := true }
  | 'a' => { s with ascii := true, modes.ascii := true }
  | 'u' => { s with unicode := true }
  | 't' => { s with template := true }
  | _ => s

def Modes.union (a b : Modes) : Modes :=
  ⟨a.ignoreCase || b.ignoreCase, a.multiLine || b.multiLine, a.dotAll || b.dotAll,
    a.verbose || b.verbose, a.ascii || b.ascii⟩

def Modes.minus (a b : Modes) : Modes :=
  ⟨a.ignoreCase && !b.ignoreCase, a.multiLine && !b.multiLine, a.dotAll && !b.dotAll,
    a.verbose && !b.verbose, a.ascii && !b.ascii⟩

def Modes.meets (a b : Modes) : Bool :=
  a.ignoreCase && b.ignoreCase || a.multiLine && b.multiLine || a.dotAll && b.dotAll ||
    a.verbose && b.verbose

/-- A fault at a token that is no mode: another letter, or something else. -/
def failMode {α : Type} (t : Tok) (other : Fault) : Reader α :=
  match t with
  | .char c => fail (if Text.isLetter c then .unknownMode else other) 1
  | .escaped _ => fail other 2

def readModesOn : Nat → Char → ModeSet → Reader (ModeSet × Char)
  | 0, _, _ => fail .exhausted
  | fuel + 1, c, acc => do
    if c == 'L' then fail .localeMode
    let acc := acc.add c
    if acc.ascii && acc.unicode then fail .mixedModes
    match ← next with
    | none => fail .missingModeEnd
    | some (.char d) =>
      if d == ')' || d == '-' || d == ':' then return (acc, d)
      if isMode d then readModesOn fuel d acc else failMode (.char d) .missingModeEnd
    | some t => failMode t .missingModeEnd

def readModesOff : Nat → Char → ModeSet → Reader ModeSet
  | 0, _, _ => fail .exhausted
  | fuel + 1, c, acc => do
    if c == 'a' || c == 'u' || c == 'L' then fail .typeModeOff
    let acc := acc.add c
    match ← next with
    | none => fail .missingColon
    | some (.char d) =>
      if d == ':' then return acc
      if isMode d then readModesOff fuel d acc else failMode (.char d) .missingColon
    | some t => failMode t .missingColon

/-- Modes for the whole pattern, or for one group. -/
inductive ModeChange
  | global (on : ModeSet)
  | scoped (on off : ModeSet)

def readModes (c : Char) : Reader ModeChange := do
  let fuel := (← get).rest.length + 1
  let (on, last) ← if c == '-' then pure (ModeSet.none, c) else readModesOn fuel c .none
  if last == ')' then return .global on
  if on.template then fail .globalModeOn 1
  let off ←
    if last == '-' then
      match ← next with
      | none => fail .missingMode
      | some (.char d) => if isMode d then readModesOff fuel d .none else failMode (.char d) .missingMode
      | some t => failMode t .missingMode
    else pure .none
  if off.template then fail .globalModeOff 1
  if on.modes.meets off.modes then fail .modeOnAndOff 1
  return .scoped on off

/-! ### Groups -/

def checkName (name : Text) : Reader Unit := do
  if !Text.isIdentifier name then fail (.badGroupName name) (name.length + 1)

def indexOf (name : Text) : Reader Nat := do
  match (← get).groups.findIdx? fun g => g.name == some name with
  | some i => return i + 1
  | none => fail (.unknownGroupName name) (name.length + 1)

def readNamedReference (modes : Modes) : Reader Node := do
  let name ← upTo ')' "group name"
  checkName name
  let index ← indexOf name
  if ((← get).groups[index - 1]?.bind GroupInfo.width).isNone then
    fail .openGroup (name.length + 1)
  checkLookBehind index
  return .back index modes.ignoreCase modes.ascii

def openGroup (name : Option Text) : Reader Nat := do
  let groups := (← get).groups
  let index := groups.length + 1
  if let some n := name then
    if let some i := groups.findIdx? fun g => g.name == some n then
      fail (.nameTaken n index (i + 1)) (n.length + 1)
  modify fun s => { s with groups := groups ++ [⟨name, none⟩] }
  return index

def closedWidths : Reader (List Width) :=
  return (← get).groups.map fun g => g.width.getD .zero

def closeGroup (index : Nat) (inner : Node) : Reader Unit := do
  let w := widthOf (← closedWidths) inner
  modify fun s => { s with groups := s.groups.modify (index - 1) fun g => { g with width := some w } }

/-- No pattern has as many groups as this. -/
def groupLimit : Nat := 1073741823

def readCondition : Reader Nat := do
  let name ← upTo ')' "group name"
  let index ←
    if Text.isIdentifier name then indexOf name
    else
      match Spelled.literal 10 name with
      | .error _ | .ok (.negSucc _) => fail (.badGroupName name) (name.length + 1)
      | .ok (.ofNat index) =>
        if index == 0 then fail .groupZero (name.length + 1)
        if index ≥ groupLimit then fail (.noSuchGroup index) (name.length + 1)
        let place := (← offset) - name.length - 1
        if (← get).conditions.all (·.1 != index) then
          modify fun s => { s with conditions := s.conditions ++ [(index, place)] }
        pure index
  checkLookBehind index
  return index

def widthBehind (groups : List Width) (inner : Node) : Except Fault Nat :=
  let (least, most) := (widthOf groups inner).bounds
  if least ≥ repetitionLimit + 1 then .error .longLookBehind
  else if least ≠ most then .error .variableLookBehind
  else .ok least

def seqOf (ns : List Node) : Node :=
  match ns with
  | [] => .empty
  | [n] => n
  | n :: ns => ns.foldl .seq n

def Node.items : Node → List Node
  | .empty => []
  | .seq a b => a.items ++ b.items
  | .plain n => n.items
  | n => [n]

/-- Whether two items are spelled alike, which is not looked into where an item has parts. -/
def Node.alike : Node → Node → Bool
  | .one s, .one t => s = t
  | .any _, .any _ => true
  | .anchor a, .anchor b => a = b
  | .back i .., .back j .. => i == j
  | _, _ => false

/-- What all alternatives begin with, and what is left of each. -/
def commonStart : List Node → List (List Node) → List Node × List (List Node)
  | n :: ns, rest =>
    if rest.all fun r => (r.head?).any n.alike then
      let (start, left) := commonStart ns (rest.map List.tail)
      (n :: start, left)
    else ([], (n :: ns) :: rest)
  | [], rest => ([], [] :: rest)

/-- The members of an alternative that is one set. -/
def members? : List Node → Option (List Item)
  | [.one ⟨items, false, _, _⟩] => some items
  | _ => none

def oneOf : List (List Node) → Node
  | [] => .empty
  | [ns] => seqOf ns
  | ns :: rest => .alt (seqOf ns) (oneOf rest)

/-- The choice between alternatives. What they begin with is taken out, and if each of the rest is
a set then so is the choice. -/
def choice (modes : Modes) (first : List Node) (rest : List (List Node)) : Node :=
  if rest.isEmpty then seqOf first
  else
    let (start, left) := commonStart first rest
    let node : Node :=
      match left.mapM members? with
      | some items => .one ⟨items.flatten.eraseDups, false, modes.ignoreCase, modes.ascii⟩
      | none => oneOf left
    seqOf (start ++ [node])

def expectClose (start : Nat) : Reader Unit := do
  if !(← accept ')') then throw ⟨.unterminatedGroup, some start⟩

def isPatternBlank (c : Char) : Bool :=
  c == ' ' || c == '\t' || c == '\n' || c == '\r' || c == '\x0b' || c == '\x0c'

mutual

def readAlternatives (fuel : Nat) (modes : Modes) (nested : Bool) : Reader Node :=
  match fuel with
  | 0 => fail .exhausted
  | fuel + 1 => do
    let first ← readItems fuel modes (!nested) []
    let s ← get
    let modes := if nested then modes else s.modes
    let rest ← readOthers fuel modes
    return choice modes (first.flatMap Node.items) (rest.map fun r => r.flatMap Node.items)

def readOthers (fuel : Nat) (modes : Modes) : Reader (List (List Node)) :=
  match fuel with
  | 0 => fail .exhausted
  | fuel + 1 => do
    if ← accept '|' then
      let items ← readItems fuel modes false []
      return items :: (← readOthers fuel modes)
    return []

def readItems (fuel : Nat) (modes : Modes) (first : Bool) (acc : List Node) : Reader (List Node) :=
  match fuel with
  | 0 => fail .exhausted
  | fuel + 1 => do
    let one (n : Nat) : Node := .one ⟨[.char n], false, modes.ignoreCase, modes.ascii⟩
    match ← peek with
    | none => return acc
    | some t =>
      if t == .char '|' || t == .char ')' then return acc
      let start ← offset
      let _ ← next
      match t with
      | .escaped c =>
        let node : Node := match ← readEscape c with
          | .code n => one n
          | .category k negated => .one ⟨[.category k negated], false, modes.ignoreCase, modes.ascii⟩
          | .anchor (.boundary _) => .anchor (.boundary modes.ascii)
          | .anchor (.noBoundary _) => .anchor (.noBoundary modes.ascii)
          | .anchor a => .anchor a
          | .back i => .back i modes.ignoreCase modes.ascii
        readItems fuel modes first (acc ++ [node])
      | .char c =>
        if modes.verbose && isPatternBlank c then readItems fuel modes first acc
        else if modes.verbose && c == '#' then do
          let _ ← skipPast '\n' ((← get).rest.length + 1)
          readItems fuel modes first acc
        else
          match c with
          | '[' => do
            let node ← readSet modes
            readItems fuel modes first (acc ++ [node])
          | '.' => readItems fuel modes first (acc ++ [.any modes.dotAll])
          | '^' =>
            readItems fuel modes first
              (acc ++ [.anchor (if modes.multiLine then .lineStart else .textStart)])
          | '$' =>
            readItems fuel modes first
              (acc ++ [.anchor (if modes.multiLine then .lineEnd else .lastLineEnd)])
          | '*' => do
            let node ← readRepetition start 0 none acc.getLast?
            readItems fuel modes first (acc.dropLast ++ [node])
          | '+' => do
            let node ← readRepetition start 1 none acc.getLast?
            readItems fuel modes first (acc.dropLast ++ [node])
          | '?' => do
            let node ← readRepetition start 0 (some 1) acc.getLast?
            readItems fuel modes first (acc.dropLast ++ [node])
          | '{' => do
            match ← readBounds with
            | none => readItems fuel modes first (acc ++ [one c.toNat])
            | some (least, most) =>
              let node ← readRepetition start least most acc.getLast?
              readItems fuel modes first (acc.dropLast ++ [node])
          | '(' => do
            let (change, node) ← readGroup fuel modes (first && acc.isEmpty) start
            readItems fuel (change.getD modes) first (acc ++ node.toList)
          | _ => readItems fuel modes first (acc ++ [one c.toNat])

/-- The group whose parenthesis opened at `start`: the modes that it sets for what follows, and
the item that it is, if it is one. -/
def readGroup (fuel : Nat) (modes : Modes) (first : Bool) (start : Nat) :
    Reader (Option Modes × Option Node) :=
  match fuel with
  | 0 => fail .exhausted
  | fuel + 1 => do
    let capture (name : Option Text) : Reader (Option Modes × Option Node) := do
      let index ← openGroup name
      let inner ← readAlternatives fuel modes true
      expectClose start
      closeGroup index inner
      return (none, some (.group index inner))
    let plain (modes : Modes) (wrap : Node → Node) : Reader (Option Modes × Option Node) := do
      let inner ← readAlternatives fuel modes true
      expectClose start
      return (none, some (wrap inner))
    let look (behind negated : Bool) : Reader (Option Modes × Option Node) := do
      let outer := (← get).lookBehind
      if behind && outer.isNone then
        modify fun s => { s with lookBehind := some (s.groups.length + 1) }
      let inner ← readAlternatives fuel modes true
      if behind && outer.isNone then modify fun s => { s with lookBehind := none }
      expectClose start
      if behind then
        match widthBehind (← closedWidths) inner with
        | .ok w => return (none, some (.behind negated w inner))
        | .error f =>
          modify fun s => { s with badBehinds := (start, f) :: s.badBehinds }
          return (none, some (.behind negated 0 inner))
      return (none, some (.ahead negated inner))
    if !(← accept '?') then capture none
    else
      match ← next with
      | none => fail .unexpectedEnd
      | some t =>
        match t with
        | .char 'P' =>
          if ← accept '<' then
            let name ← upTo '>' "group name"
            checkName name
            capture (some name)
          else if ← accept '=' then return (none, some (← readNamedReference modes))
          else
            match ← next with
            | none => fail .unexpectedEnd
            | some u => fail (.unknownExtension ('?' :: 'P' :: u.text)) (u.text.length + 2)
        | .char ':' => plain modes .plain
        | .char '#' =>
          if ← skipPast ')' ((← get).rest.length + 1) then return (none, none)
          else throw ⟨.unterminatedComment, some start⟩
        | .char '=' => look false false
        | .char '!' => look false true
        | .char '<' =>
          match ← next with
          | none => fail .unexpectedEnd
          | some (.char '=') => look true false
          | some (.char '!') => look true true
          | some u => fail (.unknownExtension ('?' :: '<' :: u.text)) (u.text.length + 2)
        | .char '(' =>
          let index ← readCondition
          let yes ← readItems fuel modes false []
          let no ← if ← accept '|' then do
              let no ← readItems fuel modes false []
              if (← peek) == some (.char '|') then fail .thirdBranch
              pure no
            else pure []
          expectClose start
          return (none, some (.conditional index (seqOf yes) (seqOf no)))
        | .char '>' => plain modes .atomic
        | .char c =>
          if isMode c || c == '-' then
            match ← readModes c with
            | .global on =>
              modify fun s =>
                { s with modes := s.modes.union on.modes, unicode := s.unicode || on.unicode }
              if !first then throw ⟨.lateModes, some start⟩
              return (some (modes.union on.modes), none)
            | .scoped on off =>
              let base := if on.unicode then { modes with ascii := false } else modes
              plain ((base.union on.modes).minus off.modes) .scoped
          else fail (.unknownExtension ['?', c]) 2
        | .escaped _ => fail (.unknownExtension ('?' :: t.text)) (t.text.length + 1)

end

end ClassPurge.Pattern
