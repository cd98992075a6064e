import ClassPurge.Css.Comment
import ClassPurge.Css.Declaration

/-!
The rules of a stylesheet. A rule is a statement, which begins with `@` and ends at a semicolon
outside parentheses, or a prelude and a block in braces. Between rules stand only blanks and
comments. Reading stops at the first place where no rule can be read; the rules before it stand.
-/

namespace ClassPurge.Css

/-- One construct of the top level, with its offsets in the text, the second exclusive. -/
structure Rule where
  selector : Text
  body : Text
  start : Nat
  stop : Nat
  hasBlock : Bool
  nested : Bool
  deriving DecidableEq, Repr

def isAtSelector (selector : Text) : Bool := selector.head? == some '@'

def Rule.isAt (r : Rule) : Bool := isAtSelector r.selector

inductive Terminator
  | brace
  | semicolon
  deriving DecidableEq, Repr

def Terminator.char : Terminator → Char
  | brace => '{'
  | semicolon => ';'

/-- The tokens of a prelude, what ends it, and the tokens after that. Only a statement may end at
a semicolon. -/
def splitPrelude? (statement : Bool) (parens : Nat) :
    List Token → Option (List Token × Terminator × List Token)
  | [] => none
  | .unclosed _ :: _ => none
  | t :: ts =>
    if t = .char '{' then some ([], .brace, ts)
    else if t = .char '}' then none
    else if t = .char ';' ∧ statement ∧ parens = 0 then some ([], .semicolon, ts)
    else (splitPrelude? statement (parensAfterToken parens t) ts).map fun (p, e, r) => (t :: p, e, r)

/-- The tokens of a block and those after the brace that closes it, with `depth` braces open
inside the block. -/
def splitBlock? (depth : Nat) : List Token → Option (List Token × List Token)
  | [] => none
  | .unclosed _ :: _ => none
  | t :: ts =>
    if t = .char '}' then
      match depth with
      | 0 => some ([], ts)
      | d + 1 => (splitBlock? d ts).map fun (b, r) => (t :: b, r)
    else
      (splitBlock? (if t = .char '{' then depth + 1 else depth) ts).map fun (b, r) => (t :: b, r)

theorem splitPrelude?_eq {statement : Bool} {parens : Nat} {ts p r : List Token} {e : Terminator}
    (h : splitPrelude? statement parens ts = some (p, e, r)) : ts = p ++ .char e.char :: r := by
  fun_induction splitPrelude? statement parens ts generalizing p with
  | case1 => simp at h
  | case2 => simp at h
  | case3 =>
    simp only [Option.some.injEq, Prod.mk.injEq] at h
    obtain ⟨rfl, rfl, rfl⟩ := h
    simp [Terminator.char]
  | case4 => simp at h
  | case5 =>
    rename_i hs
    simp only [Option.some.injEq, Prod.mk.injEq] at h
    obtain ⟨rfl, rfl, rfl⟩ := h
    simp [hs.1, Terminator.char]
  | case6 _ _ _ _ _ _ _ ih =>
    obtain ⟨⟨p', e', r'⟩, hp, he⟩ := Option.map_eq_some_iff.mp h
    simp only [Prod.mk.injEq] at he
    obtain ⟨rfl, rfl, rfl⟩ := he
    simp [ih hp]

theorem splitBlock?_eq {depth : Nat} {ts b r : List Token}
    (h : splitBlock? depth ts = some (b, r)) : ts = b ++ .char '}' :: r := by
  fun_induction splitBlock? depth ts generalizing b with
  | case1 => simp at h
  | case2 => simp at h
  | case3 => simp_all
  | case4 _ _ _ ih =>
    obtain ⟨⟨b', r'⟩, hb, he⟩ := Option.map_eq_some_iff.mp h
    simp only [Prod.mk.injEq] at he
    obtain ⟨rfl, rfl⟩ := he
    simp [ih hb]
  | case5 _ _ _ _ _ ih =>
    obtain ⟨⟨b', r'⟩, hb, he⟩ := Option.map_eq_some_iff.mp h
    simp only [Prod.mk.injEq] at he
    obtain ⟨rfl, rfl⟩ := he
    simp [ih hb]

/-- The rule that begins with the first token, which stands at `start`, and the tokens after it. -/
def readRule? (start : Nat) (ts : List Token) : Option (Rule × List Token) := do
  let (prelude, terminator, r) ← splitPrelude? (ts.head? == some (.char '@')) 0 ts
  match terminator with
  | .semicolon =>
    let whole := spell prelude ++ [';']
    return (⟨whole.strip, [], start, start + whole.length, false, false⟩, r)
  | .brace =>
    let (block, r) ← splitBlock? 0 r
    let size := (spell prelude).length + (spell block).length + 2
    return (⟨(spell (dropComments prelude)).strip, (spell (dropComments block)).strip,
      start, start + size, true, block.any Token.isOpenBrace⟩, r)

theorem readRule?_length {start : Nat} {ts r : List Token} {rule : Rule}
    (h : readRule? start ts = some (rule, r)) : r.length < ts.length := by
  unfold readRule? at h
  simp only [Option.bind_eq_bind, Option.bind_eq_some_iff] at h
  obtain ⟨⟨p, e, r'⟩, hp, h⟩ := h
  have := congrArg List.length (splitPrelude?_eq hp)
  simp only [List.length_append, List.length_cons] at this
  cases e with
  | semicolon =>
    simp only [Option.pure_def, Option.some.injEq, Prod.mk.injEq] at h
    obtain ⟨_, rfl⟩ := h
    omega
  | brace =>
    simp only [Option.bind_eq_some_iff, Option.pure_def, Option.some.injEq, Prod.mk.injEq] at h
    obtain ⟨⟨b, r''⟩, hb, _, rfl⟩ := h
    have := congrArg List.length (splitBlock?_eq hb)
    simp only [List.length_append, List.length_cons] at this ⊢
    omega

/-- The rules of a text, and the offset at which reading stopped if it did not reach the end. -/
structure Parsed where
  rules : List Rule
  stopped : Option Nat
  deriving DecidableEq, Repr

def parseFrom (start : Nat) (ts : List Token) : Parsed :=
  let start := start + (spell (ts.takeWhile Token.isTrivia)).length
  match _hd : ts.dropWhile Token.isTrivia with
  | [] => ⟨[], none⟩
  | t :: r =>
    match _h : readRule? start (t :: r) with
    | none => ⟨[], some start⟩
    | some (rule, r') =>
      let p := parseFrom rule.stop r'
      ⟨rule :: p.rules, p.stopped⟩
  termination_by ts.length
  decreasing_by
    have h1 := readRule?_length _h
    have h2 := (List.dropWhile_suffix Token.isTrivia (l := ts)).length_le
    rw [_hd] at h2
    omega

def parse (css : Text) : Parsed := parseFrom 0 (tokens css)

def parseRules (css : Text) : List Rule := (parse css).rules

def Rule.source (r : Rule) (css : Text) : Text := css.slice r.start r.stop

/-- What follows the last of `rules` in the text they were read from. -/
def afterRules (rules : List Rule) (css : Text) : Text :=
  css.drop ((rules.getLast?.map Rule.stop).getD 0)

/-- A rule with blocks inside its block is written as it stands in `source`, stripped; any other
one declaration a line. -/
def layOut (selector body : Text) (nested : Bool) (source : Text) : Text :=
  if nested then source.strip
  else
    match splitDeclarations body with
    | [] => selector ++ [' ', '{', '}']
    | ds => selector ++ [' ', '{', '\n'] ++
        Text.join ['\n'] (ds.map fun d => ' ' :: ' ' :: d ++ [';']) ++ ['\n', '}']

def Rule.format (r : Rule) (css : Text) : Text := layOut r.selector r.body r.nested (r.source css)

/-! ### Single steps from an offset -/

def offsetOf (t r : Text) : Nat := t.length - r.length

/-- The offset after the string whose opening quote stands at `i`; `some none` if it does not
close, `none` if nothing stands at `i`. -/
def stringEndAt? (t : Text) (i : Nat) : Option (Option Nat) :=
  match t.drop i with
  | [] => none
  | q :: r => some ((afterString? q r).map (offsetOf t))

/-- The offset after the comment that begins at `i`. -/
def commentEndAt (t : Text) (i : Nat) : Nat := offsetOf t (afterComment (t.drop (i + 2)))

/-- The offset after the blanks and comments from `i` on. -/
def triviaEndAt (t : Text) (i : Nat) : Nat :=
  i + (spell ((tokens (t.drop i)).takeWhile Token.isTrivia)).length

/-- What ends the prelude that begins at `i`, and where. -/
def preludeEndAt? (t : Text) (i : Nat) : Option (Terminator × Nat) :=
  let ts := tokens (t.drop i)
  (splitPrelude? (ts.head? == some (.char '@')) 0 ts).map fun (p, e, _) => (e, i + (spell p).length)

/-- Where the block whose brace opens at `i` closes, and whether it has blocks inside. -/
def blockEndAt? (t : Text) (i : Nat) : Option (Nat × Bool) :=
  (splitBlock? 0 (tokens (t.drop (i + 1)))).map fun (b, _) =>
    (i + 1 + (spell b).length, b.any Token.isOpenBrace)

def ruleAt? (t : Text) (i : Nat) : Option Rule :=
  (readRule? i (tokens (t.drop i))).map Prod.fst

end ClassPurge.Css
