import ClassPurge.Yaml.Fault

/-!
A place in a text, with its line and column, and the scalars that can begin at it.
-/

namespace ClassPurge.Yaml

def isBreak (c : Char) : Bool := [0x0a, 0x0d, 0x85, 0x2028, 0x2029].contains c.toNat

/-- The break as it counts in a scalar: two kinds stay, all others are line feeds. -/
def breakText (c : Char) : Char := if 0x2028 ≤ c.toNat then c else '\n'

/-- Whether a word ends before this: before blanks, tabs, breaks and the end of the text. -/
def endsWord : Option Char → Bool
  | none => true
  | some c => c == ' ' || c == '\t' || isBreak c

structure Cursor where
  rest : Text
  index : Nat
  line : Nat
  column : Nat
  deriving DecidableEq, Repr

namespace Cursor

def ofText (t : Text) : Cursor := ⟨t, 0, 0, 0⟩

def peek (c : Cursor) : Option Char := c.rest.head?

def ahead (c : Cursor) (n : Nat) : Option Char := c.rest[n]?

def step (c : Cursor) : Cursor :=
  match c.rest with
  | [] => c
  | d :: r =>
    if isBreak d then ⟨r, c.index + 1, c.line + 1, 0⟩
    else ⟨r, c.index + 1, c.line, if d == '\ufeff' then c.column else c.column + 1⟩

def forward : Nat → Cursor → Cursor
  | 0, c => c
  | n + 1, c => forward n c.step

def skipWhile (p : Char → Bool) (c : Cursor) : Cursor := c.forward (c.rest.takeWhile p).length

def skipBlanks (c : Cursor) : Cursor := c.skipWhile (· == ' ')

def atBreak (c : Cursor) : Bool := c.peek.any isBreak

/-- Whether a line of three hyphens or three dots begins here, which parts documents. -/
def atMarker (c : Cursor) : Bool :=
  let mark := c.rest.take 3
  (mark == ['-', '-', '-'] || mark == ['.', '.', '.']) && endsWord (c.ahead 3)

/-! ### Breaks inside scalars -/

/-- The breaks from here on with the characters between them left out that `p` marks, and whether
a marker of documents was met. -/
def breaks (p : Char → Bool) : Nat → Cursor → Text × Cursor × Bool
  | 0, c => ([], c, false)
  | n + 1, c =>
    let c := c.skipWhile p
    match c.peek with
    | some d =>
      if isBreak d then
        if c.step.atMarker then ([breakText d], c.step, true)
        else
          let (bs, c, m) := breaks p n c.step
          (breakText d :: bs, c, m)
      else ([], c, false)
    | none => ([], c, false)

def folded (first : Char) (more : Text) : Text :=
  if first != '\n' then first :: more else if more.isEmpty then [' '] else more

/-! ### Plain scalars -/

def isFlowMark (c : Char) : Bool := [',', '?', '[', ']', '{', '}'].contains c

/-- How many characters of a plain scalar stand here before the next blank. -/
def plainLength (flow : Bool) : Text → Nat
  | [] => 0
  | c :: r =>
    let colonEnds := endsWord r.head? || (flow && r.head?.any fun d => d != '?' && isFlowMark d)
    if endsWord (some c) || (c == ':' && colonEnds) || (flow && isFlowMark c) then 0
    else plainLength flow r + 1

/-- What the blanks and breaks behind a word stand for, and whether there is a break. Nothing is
the end of the scalar. -/
def plainSpaces (c : Cursor) : Text × Cursor × Bool :=
  let d := c.skipBlanks
  match d.peek with
  | some b =>
    if isBreak b then
      if d.step.atMarker then ([], d.step, true)
      else
        let (more, e, marker) := breaks (· == ' ') d.rest.length d.step
        (if marker then [] else folded (breakText b) more, e, true)
    else (List.replicate (c.rest.length - d.rest.length) ' ', d, false)
  | none => (List.replicate (c.rest.length - d.rest.length) ' ', d, false)

/-- The plain scalar that goes on here behind `spaces`, and whether the last thing behind it is a
break. Outside brackets its lines are indented by at least `indent`. -/
def plainFrom (flow : Bool) (indent : Int) : Nat → Text → Bool → Cursor → Text × Cursor × Bool
  | 0, _, b, c => ([], c, b)
  | n + 1, spaces, b, c =>
    let size := if c.peek == some '#' then 0 else plainLength flow c.rest
    if size = 0 then ([], c, b)
    else
      let word := c.rest.take size
      let (next, d, b) := plainSpaces (c.forward size)
      if next.isEmpty || d.peek == some '#' || (!flow && (d.column : Int) < indent) then
        (spaces ++ word, d, b)
      else
        let (t, d, b) := plainFrom flow indent n next b d
        (spaces ++ word ++ t, d, b)

def plain (flow : Bool) (indent : Int) (c : Cursor) : Text × Cursor × Bool :=
  plainFrom flow indent c.rest.length [] false c

/-! ### Quoted scalars -/

def hexValue? (c : Char) : Option Nat :=
  if c.isDigit then some (c.toNat - 0x30)
  else if 'a' ≤ c && c ≤ 'f' then some (c.toNat - 0x61 + 10)
  else if 'A' ≤ c && c ≤ 'F' then some (c.toNat - 0x41 + 10)
  else none

def escapeOf? (c : Char) : Option Char :=
  match c with
  | '0' => some '\x00'
  | 'a' => some '\x07'
  | 'b' => some '\x08'
  | 't' | '\t' => some '\t'
  | 'n' => some '\n'
  | 'v' => some '\x0b'
  | 'f' => some '\x0c'
  | 'r' => some '\r'
  | 'e' => some '\x1b'
  | ' ' | '"' | '\\' | '/' => some c
  | 'N' => some '\u0085'
  | '_' => some '\u00a0'
  | 'L' => some '\u2028'
  | 'P' => some '\u2029'
  | _ => none

def escapeDigits? (c : Char) : Option Nat :=
  match c with
  | 'x' => some 2
  | 'u' => some 4
  | 'U' => some 8
  | _ => none

def hexNumber (ds : List Nat) : Nat := ds.foldl (fun n d => n * 16 + d) 0

/-- The second half of a character that is spelled in two, if it comes next. -/
def lowHalf? (c : Cursor) : Option (Nat × Cursor) :=
  match c.rest with
  | '\\' :: 'u' :: r =>
    let ds := (r.take 4).filterMap hexValue?
    let n := hexNumber ds
    if ds.length = 4 ∧ 0xdc00 ≤ n ∧ n ≤ 0xdfff then some (n, c.forward 6) else none
  | _ => none

/-- The character of a code point. A half without the other half is lost. -/
def character (n : Nat) : Except Stop Char :=
  if 0x7fffffff < n then .error (.crash .hugeCharacter)
  else if 0x10ffff < n then .error (.crash .noCharacter)
  else if 0xd800 ≤ n ∧ n ≤ 0xdfff then .ok '\ufffd'
  else .ok (Char.ofNat n)

def joined (n : Nat) (c : Cursor) : Except Stop (Text × Cursor) := do
  match lowHalf? c with
  | some (low, d) =>
    if 0xd800 ≤ n ∧ n ≤ 0xdbff then
      return ([Char.ofNat (0x10000 + (n - 0xd800) * 0x400 + (low - 0xdc00))], d)
    else return ([← character n], c)
  | none => return ([← character n], c)

/-- The escape behind a backslash. A break there is passed over with the blanks around it. -/
def escape (c : Cursor) : Except Stop (Text × Cursor) :=
  match c.peek with
  | none => .error (.fault .badEscape)
  | some d =>
    match escapeOf? d, escapeDigits? d with
    | some e, _ => .ok ([e], c.step)
    | none, some n =>
      let ds := (c.step.rest.take n).filterMap hexValue?
      if ds.length = n then joined (hexNumber ds) (c.step.forward n)
      else .error (.fault .badEscape)
    | none, none =>
      if isBreak d then
        if c.step.atMarker then .error (.fault .markerInQuote)
        else
          let (bs, e, marker) := breaks (fun x => x == ' ' || x == '\t') c.rest.length c.step
          if marker then .error (.fault .markerInQuote) else .ok (bs, e)
      else .error (.fault .badEscape)

def quotedFrom (q : Char) : Nat → Cursor → Except Stop (Text × Cursor)
  | 0, _ => .error (.fault .exhausted)
  | n + 1, c => do
    match c.peek with
    | none => .error (.fault .unclosedQuote)
    | some d =>
      if d == q then
        if q == '\'' && c.ahead 1 == some '\'' then
          let (t, e) ← quotedFrom q n (c.forward 2)
          return ('\'' :: t, e)
        else return ([], c.step)
      else if d == '\\' && q == '"' then
        let (s, e) ← escape c.step
        let (t, e) ← quotedFrom q n e
        return (s ++ t, e)
      else if endsWord (some d) then
        let e := c.skipWhile fun x => x == ' ' || x == '\t'
        match e.peek with
        | none => .error (.fault .unclosedQuote)
        | some b =>
          if isBreak b then
            if e.step.atMarker then .error (.fault .markerInQuote)
            let (bs, e, marker) := breaks (fun x => x == ' ' || x == '\t') e.rest.length e.step
            if marker then .error (.fault .markerInQuote)
            let (t, e) ← quotedFrom q n e
            return (folded (breakText b) bs ++ t, e)
          else
            let (t, f) ← quotedFrom q n e
            return (c.rest.take (c.rest.length - e.rest.length) ++ t, f)
      else
        let (t, e) ← quotedFrom q n c.step
        return (d :: t, e)

def quoted (q : Char) (c : Cursor) : Except Stop (Text × Cursor) :=
  quotedFrom q (c.rest.length + 1) c.step

/-! ### Block scalars -/

inductive Chomp
  | strip
  | clip
  | keep
  deriving DecidableEq, Repr

def blockMarks (c : Cursor) : Except Fault (Chomp × Option Nat × Cursor) :=
  let chompOf (d : Option Char) : Option Chomp :=
    match d with
    | some '+' => some .keep
    | some '-' => some .strip
    | _ => none
  let sizeOf (d : Option Char) : Option Nat :=
    match d with
    | some d => if d.isDigit then some (d.toNat - 0x30) else none
    | none => none
  let (chomp, size, n) :=
    match chompOf c.peek, sizeOf c.peek with
    | some h, _ => (h, sizeOf (c.ahead 1), if (sizeOf (c.ahead 1)).isSome then 2 else 1)
    | none, some k =>
      match chompOf (c.ahead 1) with
      | some h => (h, some k, 2)
      | none => (Chomp.clip, some k, 1)
    | none, none => (Chomp.clip, none, 0)
  let c := c.forward n
  if size == some 0 || !(endsWord c.peek) || c.peek == some '\t' then .error .badBlockHeader
  else .ok (chomp, size, c)

def restOfLine (c : Cursor) : Except Fault Cursor :=
  let c := c.skipBlanks
  let c := if c.peek == some '#' then c.skipWhile fun d => !isBreak d else c
  if c.peek.all isBreak then .ok c.step else .error .badBlockHeader

def blockIndent : Nat → Nat → Cursor → Text × Nat × Cursor
  | 0, widest, c => ([], widest, c)
  | n + 1, widest, c =>
    match c.peek with
    | some d =>
      if d == ' ' then blockIndent n (max widest c.step.column) c.step
      else if isBreak d then
        let (bs, w, e) := blockIndent n widest c.step
        (breakText d :: bs, w, e)
      else ([], widest, c)
    | none => ([], widest, c)

def blockBreaks (indent : Nat) : Nat → Cursor → Text × Cursor
  | 0, c => ([], c)
  | n + 1, c =>
    let blanks := (c.rest.takeWhile (· == ' ')).length
    let c := c.forward (min blanks (indent - c.column))
    match c.peek with
    | some d =>
      if isBreak d then
        let (bs, e) := blockBreaks indent n c.step
        (breakText d :: bs, e)
      else ([], c)
    | none => ([], c)

/-- The lines of a block scalar from here on, behind `breaks`. -/
def blockLines (folding : Bool) (chomp : Chomp) (indent : Nat) : Nat → Text → Text → Cursor →
    Text × Cursor
  | 0, _, _, c => ([], c)
  | n + 1, last, breaks, c =>
    if c.column = indent && c.peek.isSome then
      let line := c.rest.takeWhile fun d => !isBreak d
      let e := c.forward line.length
      let lineEnd : Text := e.peek.toList.map breakText
      let (bs, f) := blockBreaks indent (e.rest.length + 1) e.step
      let opens (d : Option Char) : Bool := d.any fun x => x == ' ' || x == '\t'
      let glue : Text :=
        if f.column = indent && f.peek.isSome then
          if folding && lineEnd == ['\n'] && !opens c.peek && !opens f.peek then
            if bs.isEmpty then [' '] else []
          else lineEnd
        else []
      let (t, f) := blockLines folding chomp indent n lineEnd bs f
      (breaks ++ line ++ glue ++ t, f)
    else
      match chomp with
      | .strip => ([], c)
      | .clip => (last, c)
      | .keep => (last ++ breaks, c)

def block (folding : Bool) (outer : Int) (c : Cursor) : Except Fault (Text × Cursor) := do
  let (chomp, size, c) ← blockMarks c.step
  let c ← restOfLine c
  let least := max (outer + 1) 1 |>.toNat
  match size with
  | some k =>
    let indent := least + k - 1
    let (bs, c) := blockBreaks indent (c.rest.length + 1) c
    return blockLines folding chomp indent (c.rest.length + 1) [] bs c
  | none =>
    let (bs, widest, c) := blockIndent (c.rest.length + 1) 0 c
    return blockLines folding chomp (max least widest) (c.rest.length + 1) [] bs c

end Cursor

end ClassPurge.Yaml
