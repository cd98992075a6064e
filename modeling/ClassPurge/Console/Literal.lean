import ClassPurge.Console.Literal.Value

/-!
Values as they are written behind the name of a tag: constants, and tuples, sets and maps of
them. Expressions of any kind are read, and only then asked for their values. What cannot be read
is read a second time, closely, to tell what is wrong with it.
-/

namespace ClassPurge.Console.Literal

abbrev Parse := StateT (List Item) (OptionT (Except Fault))

namespace Parse

def complain {α : Type} (f : Fault) : Parse α := fun _ => OptionT.mk (.error f)

def lift {α : Type} (e : Except Fault α) : Parse α := fun s => OptionT.mk (e.map fun a => some (a, s))

/-- The next token. Asking for one that cannot be read is a fault. -/
def peek : Parse Token := do
  match ← get with
  | [] => return .ends
  | i :: _ =>
    match i.token with
    | .stops f => complain f
    | t => return t

def next : Parse Unit := modify fun s => s.drop 1

/-- Takes the sign if it comes next, and says whether it did. -/
def take? (s : String) : Parse Bool := do
  if (← peek) == .sign s then
    next
    return true
  else return false

def need (s : String) : Parse Unit := do
  if !(← take? s) then failure

/-- The answer of `p`, if it has one; otherwise nothing is taken. -/
def maybe {α : Type} (p : Parse α) : Parse (Option α) := (some <$> p) <|> pure none

def sees {α : Type} (p : Parse α) : Parse Bool := do
  let here ← get
  let found ← maybe p
  set here
  return found.isSome

def name : Parse Text := do
  match ← peek with
  | .name t =>
    next
    return t
  | _ => failure

/-- The sign among `ss` that comes next. -/
def oneOf (ss : List String) : Parse String := do
  match ← peek with
  | .sign s =>
    if ss.contains s then
      next
      return s
    else failure
  | _ => failure

def texts : Nat → Parse (List (Text × Text))
  | 0 => failure
  | n + 1 => do
    match ← peek with
    | .text letters body =>
      next
      return (letters, body) :: ((← maybe (texts n)).getD [])
    | _ => failure

/-- A name that stands before a text, or that can also be a word of its own. -/
def startsOther (here : List Item) : Bool :=
  match here.map Item.token with
  | .name w :: rest =>
    ["match", "case", "_"].contains w.string ||
      match rest with
      | .text _ _ :: _ => true
      | _ => false
  | _ => false

def bareName? (here : List Item) : Option Text :=
  match here.map Item.token with
  | .name w :: rest => if rest.head? != some (.sign "(") then some w else none
  | _ => none

/-- Words of commands that are functions by now. -/
def isOldCommand (w : Text) : Bool := ["print", "exec"].contains w.string

/-- How many brackets are open behind the last token between two places. -/
def levelBetween (here there : List Item) : Nat :=
  ((here.take (here.length - there.length)).getLast?.map Item.level).getD 0

def isTarget (t : Term) : Bool := ["name", "attribute", "tuple", "starred"].contains t.family

def operators : List (List String) :=
  [["|"], ["^"], ["&"], ["<<", ">>"], ["+", "-"], ["*", "/", "//", "%", "@"]]

/-- A sign that compares, of one word or two. -/
def comparing : Parse Unit := do
  let s ← oneOf ["==", "!=", "<", "<=", ">", ">=", "in", "not", "is"]
  if s == "not" then need "in"
  if s == "is" then
    let _ ← take? "not"

inductive Argument
  | plain
  | starred
  | named
  | unpacked
  deriving DecidableEq

def Argument.isNamed : Argument → Bool
  | named | unpacked => true
  | _ => false

def Argument.mayFollow (before : List Argument) : Argument → Bool
  | plain => !before.any isNamed
  | starred => !before.contains .unpacked
  | _ => true

mutual

/-- An expression, perhaps with a condition. Whether it is read closely itself, and whether its
parts are, are two things: parts that have been read before are not looked at again. -/
def expressionOf (itself closely : Bool) : Nat → Parse Term
  | 0 => failure
  | n + 1 => do
    let here ← get
    match ← maybe (disjunction closely n) with
    | none => lambda closely n
    | some a =>
      let there ← get
      if itself then
        if !startsOther here then
          match ← maybe (expressionOf false false n) with
          | some _ =>
            let level := levelBetween there (← get)
            if level != 0 && !a.name.any isOldCommand then complain .missingComma
          | none => pure ()
          set there
        let unfinished : Parse Unit := do
          need "if"
          let _ ← disjunction true n
          match ← peek with
          | .sign s => if s == "else" || s == ":" then failure
          | _ => pure ()
        if ← sees unfinished then complain .missingElse
        if let some w := bareName? here then
          set (here.drop 1)
          if (← sees (starExpressions (startsOther here) n)) && isOldCommand w then
            complain (.missingParentheses w)
          set there
      let condition : Parse Term := do
        need "if"
        let _ ← disjunction closely n
        need "else"
        let _ ← expressionOf closely closely n
        return .loosely "conditional expression"
      condition <|> pure a

def starExpressions (closely : Bool) : Nat → Parse Unit
  | 0 => failure
  | n + 1 => do
    if ← take? "*" then
      let _ ← binary closely operators n
    else
      let _ ← expressionOf true closely n
    if ← take? "," then
      let _ ← maybe (starExpressions closely n)

def lambda (closely : Bool) : Nat → Parse Term
  | 0 => failure
  | n + 1 => do
    need "lambda"
    parameters closely n
    need ":"
    let _ ← expressionOf closely closely n
    return .loosely "lambda"

def parameters (closely : Bool) : Nat → Parse Unit
  | 0 => failure
  | n + 1 => do
    let one : Parse Unit := do
      if ← take? "*" then
        let _ ← maybe name
      else if ← take? "**" then
        let _ ← name
      else if ← take? "/" then pure ()
      else
        let _ ← name
        if ← take? "=" then
          let _ ← expressionOf closely closely n
    match ← maybe one with
    | none => pure ()
    | some _ => if ← take? "," then parameters closely n

/-- A value that may be given a name. -/
def named (closely : Bool) : Nat → Parse Term
  | 0 => failure
  | n + 1 => do
    let here ← get
    let naming : Parse Unit := do
      let _ ← name
      need ":="
    if ← sees naming then
      naming
      let _ ← expressionOf closely closely n
      return .loosely "named expression"
    let e ← expressionOf closely closely n
    let there ← get
    let signs : Parse Unit := do
      let _ ← oneOf ["=", ":="]
    if closely then
      let misnamed : Parse Unit := do
        need ":="
        let _ ← expressionOf true true n
      if ← sees misnamed then complain (.notNamed e.family)
      let equal : Parse Unit := do
        need "="
        let _ ← binary true operators n
        if ← sees signs then failure
      if e.name.isSome && here.length == there.length + 1 then
        if ← sees equal then complain .maybeEqual
      if !e.loose && (← sees (need "=")) then
        set here
        let lists := ["tuple", "generator expression", "True", "False", "None"]
        let first := ((← maybe (atom false n)).map fun a => a.family).getD ""
        set there
        if !lists.contains first then
          if ← sees equal then complain (.notAssignable e.family)
    if ← sees (need ":=") then failure
    return e

def starItem (closely : Bool) : Nat → Parse Term
  | 0 => failure
  | n + 1 => do
    if ← take? "*" then
      let _ ← binary closely operators n
      return .other "starred"
    else named closely n

def starItems (closely : Bool) : Nat → Parse (List Term)
  | 0 => failure
  | n + 1 => do
    let first ← starItem closely n
    if ← take? "," then return first :: ((← maybe (starItems closely n)).getD [])
    else return [first]

/-- Operands with a word between them. -/
def disjunction (closely : Bool) : Nat → Parse Term
  | 0 => failure
  | n + 1 => do
    let first ← conjunction closely n
    let more : Parse Term := do
      need "or"
      let _ ← disjunction closely n
      return .loosely "expression"
    more <|> pure first

def conjunction (closely : Bool) : Nat → Parse Term
  | 0 => failure
  | n + 1 => do
    let first ← inversion closely n
    let more : Parse Term := do
      need "and"
      let _ ← conjunction closely n
      return .loosely "expression"
    more <|> pure first

def inversion (closely : Bool) : Nat → Parse Term
  | 0 => failure
  | n + 1 => do
    if ← take? "not" then
      let _ ← inversion closely n
      return .loosely "expression"
    else
      let first ← binary closely operators n
      match ← maybe (comparisons closely n) with
      | some _ => return .loosely "comparison"
      | none => return first

def comparisons (closely : Bool) : Nat → Parse Unit
  | 0 => failure
  | n + 1 => do
    comparing
    let _ ← binary closely operators n
    let _ ← maybe (comparisons closely n)

/-- Operands with signs between them, from some level of binding on. -/
def binary (closely : Bool) (levels : List (List String)) : Nat → Parse Term
  | 0 => failure
  | n + 1 => do
    match levels with
    | [] => factor closely n
    | ss :: levels => moreOperands closely ss levels (← binary closely levels n) n

def moreOperands (closely : Bool) (ss : List String) (levels : List (List String)) (a : Term) :
    Nat → Parse Term
  | 0 => failure
  | n + 1 => do
    let operand : Parse Term := do
      let s ← oneOf ss
      return .combined s a (← binary closely levels n)
    match ← maybe operand with
    | some b => moreOperands closely ss levels b n
    | none => return a

def factor (closely : Bool) : Nat → Parse Term
  | 0 => failure
  | n + 1 => do
    match ← maybe (oneOf ["+", "-", "~"]) with
    | some s => return .signed s (← factor closely n)
    | none =>
      let isAwaited ← take? "await"
      let base ← primary closely (← atom closely n) n
      let base : Term := if isAwaited then .other "await expression" else base
      let power : Parse Term := do
        need "**"
        let _ ← factor closely n
        return .other "expression"
      power <|> pure base

def primary (closely : Bool) (a : Term) : Nat → Parse Term
  | 0 => failure
  | n + 1 => do
    let member : Parse Term := do
      need "."
      let _ ← name
      return .other "attribute"
    let called : Parse Term := do
      need "("
      if ← take? ")" then return .call a true
      arguments closely [] n
      need ")"
      return .other "function call"
    match ← maybe (member <|> called) with
    | some b => primary closely b n
    | none => return a

/-- An expression that may be given a name, without a look at what else stands there. -/
def passed (closely : Bool) : Nat → Parse Unit
  | 0 => failure
  | n + 1 => do
    let naming : Parse Unit := do
      let _ ← name
      need ":="
    if ← sees naming then
      naming
      let _ ← expressionOf closely closely n
    else
      let _ ← expressionOf closely closely n
      if ← sees (need ":=") then failure

def clauses (closely : Bool) : Nat → Parse Unit
  | 0 => failure
  | n + 1 => do
    let _ ← take? "async"
    need "for"
    let here ← get
    let bound : Parse Unit := do
      targets closely n
      need "in"
    match ← maybe bound with
    | some _ =>
      let _ ← disjunction closely n
      conditions closely n
      let _ ← maybe (clauses closely n)
    | none =>
      if closely then
        set here
        let ts ← starItems true n
        if let some t := ts.find? fun t => !isTarget t && t.family != "comparison" then
          complain (.constantAssigned t.family.toList)
      failure

def targets (closely : Bool) : Nat → Parse Unit
  | 0 => failure
  | n + 1 => do
    let _ ← take? "*"
    let t ← binary closely operators n
    if !isTarget t then failure
    if ← take? "," then
      let _ ← maybe (targets closely n)

def conditions (closely : Bool) : Nat → Parse Unit
  | 0 => failure
  | n + 1 => do
    if ← take? "if" then
      let _ ← disjunction closely n
      conditions closely n

def argument (closely : Bool) : Nat → Parse Argument
  | 0 => failure
  | n + 1 => do
    if ← take? "*" then
      let _ ← expressionOf closely closely n
      return .starred
    else if ← take? "**" then
      let _ ← expressionOf closely closely n
      return .unpacked
    else
      let keyword : Parse Argument := do
        let _ ← name
        need "="
        let _ ← expressionOf closely closely n
        return .named
      let plain : Parse Argument := do
        let here ← get
        passed closely n
        if ← sees (need "=") then
          if closely then
            match here.map Item.token with
            | .sign s :: .sign "=" :: _ => complain (.constantAssigned s.toList)
            | .name _ :: .sign "=" :: _ => failure
            | _ => complain .assignedArgument
          failure
        return .plain
      keyword <|> plain

def arguments (closely : Bool) (before : List Argument) : Nat → Parse Unit
  | 0 => failure
  | n + 1 => do
    let a ← argument closely n
    if !a.mayFollow before then
      if closely then
        complain (if a = .starred then .starAfterUnpacking
          else if before.contains .unpacked then .afterUnpacking else .afterKeyword)
      failure
    let generated ← maybe (clauses closely n)
    if generated.isSome then
      if a != .plain then failure
      if !before.isEmpty || !(← sees (need ")")) then
        if closely && (!before.isEmpty || (← peek) == .sign ",") then complain .bareGenerator
        failure
    else if ← take? "," then
      if !(← sees (need ")")) then arguments closely (a :: before) n

def atom (closely : Bool) : Nat → Parse Term
  | 0 => failure
  | n + 1 => do
    match ← peek with
    | .name t =>
      next
      return .ofName t
    | .number imaginary t =>
      next
      lift (Term.ofNumber imaginary t)
    | .text _ _ => lift (Term.ofTexts (← texts (n + 1)))
    | .sign s =>
      if ["True", "False", "None", "..."].contains s then
        next
        return .constant (if s == "..." then "ellipsis" else s)
      else if s == "(" then
        next
        inParentheses closely n
      else if s == "\x7b" then
        next
        inBraces closely n
      else failure
    | _ => failure

def inParentheses (closely : Bool) : Nat → Parse Term
  | 0 => failure
  | n + 1 => do
    if ← take? ")" then return .tuple []
    let here ← get
    match ← maybe (starItem closely n) with
    | some first =>
      let tuple : Parse Term := do
        need ","
        let rest := (← maybe (starItems closely n)).getD []
        need ")"
        return .tuple (first :: rest)
      let group : Parse Term := do
        if first.family == "starred" then failure
        need ")"
        return { first with loose := false }
      let generator : Parse Term := do
        if first.family == "starred" then failure
        clauses closely n
        need ")"
        return .other "generator expression"
      let starred : Parse Term := do
        if !closely || first.family != "starred" then failure
        set (here.drop 1)
        let _ ← expressionOf true true n
        if ← sees (need ")") then complain .starredHere
        if ← sees (clauses true n) then complain .starredComprehension
        failure
      tuple <|> group <|> starred <|> generator
    | none =>
      if ← take? "yield" then
        if ← take? "from" then
          let _ ← expressionOf closely closely n
        else
          let _ ← maybe (starItems closely n)
        need ")"
        return .other "yield expression"
      else
        if closely then
          need "**"
          let _ ← expressionOf true true n
          if ← sees (need ")") then complain .doubleStarredHere
        failure

def pair (closely : Bool) : Nat → Parse (Option Term × Term)
  | 0 => failure
  | n + 1 => do
    if ← take? "**" then return (none, ← binary closely operators n)
    else
      let k ← expressionOf closely closely n
      need ":"
      return (some k, ← expressionOf closely closely n)

def pairs (closely : Bool) : Nat → Parse (List (Option Term × Term))
  | 0 => failure
  | n + 1 => do
    let first ← pair closely n
    let more : Parse (List (Option Term × Term)) := do
      need ","
      pairs closely n
    return first :: ((← maybe more).getD [])

def badValue (closely : Bool) : Nat → Parse Unit
  | 0 => failure
  | n + 1 => do
    let starred : Parse Unit := do
      need "*"
      let _ ← binary closely operators n
    let _ ← expressionOf closely closely n
    need ":"
    if ← sees starred then complain .starredValue
    let closes : Parse Unit := do
      let _ ← oneOf ["\x7d", ","]
    if ← sees closes then complain .noValue

def badPair (closely : Bool) : Nat → Parse Unit
  | 0 => failure
  | n + 1 => do
    let key : Parse Unit := do
      let _ ← expressionOf closely closely n
      if ← sees (need ":") then failure
    if ← sees key then complain .noColon
    badValue closely n

def entries (closely : Bool) : Nat → Parse Term
  | 0 => failure
  | n + 1 => do
    let filled : Parse Term := do
      let es ← pairs closely n
      let _ ← take? ","
      need "\x7d"
      return .map es
    let behindOthers : Parse Unit := do
      let _ ← pairs closely n
      need ","
      badPair closely n
    match ← maybe filled with
    | some t => return t
    | none =>
      let _ ← sees behindOthers
      let _ ← sees (badValue closely n)
      failure

/-- What stands in braces, with the closing one. What is no map is always read closely. -/
def inBraces (closely : Bool) : Nat → Parse Term
  | 0 => failure
  | n + 1 => do
    if ← take? "\x7d" then return .map []
    let keyed : Parse Unit := do
      if !(← sees (need "**")) then
        let _ ← expressionOf closely closely n
        need ":"
    let items : Parse Term := do
      let ts ← starItems true n
      need "\x7d"
      return .set ts
    let mapped : Parse Term := do
      let (k, _) ← pair true n
      if k.isNone then
        if ← sees (clauses true n) then complain .doubleStarredComprehension
        failure
      clauses true n
      need "\x7d"
      return .other "dict comprehension"
    let collected : Parse Term := do
      let _ ← named true n
      clauses true n
      need "\x7d"
      return .other "set comprehension"
    if ← sees keyed then entries closely n <|> mapped
    else items <|> collected

end

/-- A whole text: expressions, with commas between them. -/
def whole (closely : Bool) (n : Nat) : Parse Term := do
  let rec more (ts : List Term) : Nat → Parse (List Term)
    | 0 => return ts
    | k + 1 => do
      let another : Parse Term := do
        need ","
        expressionOf closely closely n
      match ← maybe another with
      | some t => more (t :: ts) k
      | none => return ts
  let first ← expressionOf closely closely n
  let ts ← more [first] n
  let comma ← take? ","
  if (← peek) == .lineEnd then next
  if (← peek) != .ends then failure
  return if ts.length = 1 && !comma then first else .tuple ts.reverse

end Parse

def kindOf (t : Text) : Except Fault Kind := do
  let is ← items t
  let fuel := 40 * (is.length + 2)
  match ← (Parse.whole false fuel |>.run is).run with
  | some (term, _) => term.value
  | none =>
    let _ ← (Parse.whole true fuel |>.run is).run
    throw .invalid

def check (t : Text) : Except Fault Unit := do
  let _ ← kindOf t

end ClassPurge.Console.Literal
