import ClassPurge.Text.Blank

/-!
Stylesheet text as a stream of tokens: a string, a comment, or one other character. A string
runs to the next quote of its kind that no backslash escapes. A comment runs to its first end
mark, or to the end of the text. A quote whose string never closes takes the rest of the text
with it. The token texts, joined, are the text that was read.
-/

namespace ClassPurge.Css

def isQuote (c : Char) : Bool := c == '"' || c == '\''

/-- What follows the string whose opening quote `q` has just been read. A backslash takes the
next character with it. -/
def afterString? (q : Char) : Text → Option Text
  | [] => none
  | ['\\'] => none
  | '\\' :: _ :: r => afterString? q r
  | c :: r => if c == q then some r else afterString? q r

/-- What follows the comment whose opening mark has just been read. -/
def afterComment : Text → Text
  | [] => []
  | '*' :: '/' :: r => r
  | _ :: r => afterComment r

theorem afterString?_length {q : Char} {t r : Text} (h : afterString? q t = some r) :
    r.length < t.length := by
  fun_induction afterString? q t with
  | case1 => simp at h
  | case2 => simp at h
  | case3 _ _ ih => have := ih h; simp only [List.length_cons]; omega
  | case4 c t =>
    simp only [Option.some.injEq] at h
    simp [h]
  | case5 _ _ _ _ _ ih => have := ih h; simp only [List.length_cons]; omega

theorem afterComment_length (t : Text) : (afterComment t).length ≤ t.length := by
  fun_induction afterComment t with
  | case1 => simp
  | case2 => simp only [List.length_cons]; omega
  | case3 _ _ _ ih => simp only [List.length_cons]; omega

inductive Token
  | string (text : Text)
  | comment (text : Text)
  | unclosed (text : Text)
  | char (c : Char)
  deriving DecidableEq, Repr

namespace Token

def text : Token → Text
  | string t | comment t | unclosed t => t
  | char c => [c]

def isComment : Token → Bool
  | comment _ => true
  | _ => false

/-- Blanks between rules: space, tab, and the line ends; and comments. -/
def isTrivia : Token → Bool
  | comment _ => true
  | char c => c == ' ' || c == '\t' || c == '\r' || c == '\n' || c == '\x0c'
  | _ => false

def isOpenBrace : Token → Bool
  | char c => c == '{'
  | _ => false

end Token

/-- The tokens of a text; comments are seen as such only if `comments` is on. -/
def scan (comments : Bool) : Text → List Token
  | [] => []
  | c :: r =>
    if isQuote c then
      match _h : afterString? c r with
      | none => [.unclosed (c :: r)]
      | some r' => .string (Text.upTo (c :: r) r') :: scan comments r'
    else if comments && c == '/' && r.head? == some '*' then
      .comment (Text.upTo (c :: r) (afterComment r.tail)) :: scan comments (afterComment r.tail)
    else .char c :: scan comments r
  termination_by t => t.length
  decreasing_by
    · have := afterString?_length _h
      simp only [List.length_cons]; omega
    · have := afterComment_length r.tail
      simp only [List.length_cons, List.length_tail] at *; omega
    · simp

def tokens (t : Text) : List Token := scan true t

/-- The tokens of text in which comments mean nothing. -/
def quoteTokens (t : Text) : List Token := scan false t

def spell (ts : List Token) : Text := ts.flatMap Token.text

@[simp] theorem spell_nil : spell [] = [] := rfl

@[simp] theorem spell_cons (t : Token) (ts : List Token) :
    spell (t :: ts) = t.text ++ spell ts := rfl

@[simp] theorem spell_append (ts us : List Token) : spell (ts ++ us) = spell ts ++ spell us := by
  simp [spell]

theorem afterString?_suffix {q : Char} {t r : Text} (h : afterString? q t = some r) : r <:+ t := by
  fun_induction afterString? q t with
  | case1 => simp at h
  | case2 => simp at h
  | case3 c r ih => exact (ih h).trans ⟨['\\', c], rfl⟩
  | case4 c t =>
    simp only [Option.some.injEq] at h
    exact ⟨[c], by simp [h]⟩
  | case5 c t _ _ _ ih => exact (ih h).trans ⟨[c], rfl⟩

theorem afterComment_suffix (t : Text) : afterComment t <:+ t := by
  fun_induction afterComment t with
  | case1 => exact ⟨[], rfl⟩
  | case2 r => exact ⟨['*', '/'], rfl⟩
  | case3 c r _ ih => exact ih.trans ⟨[c], rfl⟩

/-- Nothing of the text is lost. -/
theorem spell_scan (comments : Bool) (t : Text) : spell (scan comments t) = t := by
  fun_induction scan comments t with
  | case1 => rfl
  | case2 c r => simp [Token.text]
  | case3 c r _ r' h ih =>
    have hs : r' <:+ c :: r := (afterString?_suffix h).trans ⟨[c], rfl⟩
    simp [Token.text, ih, Text.upTo_append hs]
  | case4 c r _ _ ih =>
    have hs : afterComment r.tail <:+ c :: r :=
      (afterComment_suffix _).trans ((List.tail_suffix r).trans ⟨[c], rfl⟩)
    simp [Token.text, ih, Text.upTo_append hs]
  | case5 c r _ _ ih => simp [Token.text, ih]

@[simp] theorem spell_tokens (t : Text) : spell (tokens t) = t := spell_scan true t

@[simp] theorem spell_quoteTokens (t : Text) : spell (quoteTokens t) = t := spell_scan false t

end ClassPurge.Css
