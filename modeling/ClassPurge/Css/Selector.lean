import ClassPurge.Css.Comment
import ClassPurge.Text.Word

/-!
Class names in selectors: a dot, an optional hyphen, a letter, an underscore or an escaped
character, then name characters and escaped characters. A backslash escapes any one character,
and the name is read without it. Strings in a selector are passed over.
-/

namespace ClassPurge.Css

/-- The longest run of name characters and escaped characters, and what follows it. -/
def nameRest : Text → Text × Text
  | [] => ([], [])
  | ['\\'] => ([], ['\\'])
  | '\\' :: c :: r => let (n, s) := nameRest r; (c :: n, s)
  | c :: r => if Text.isName c then let (n, s) := nameRest r; (c :: n, s) else ([], c :: r)

def isNameStart (c : Char) : Bool := c.isAlpha || c == '_'

/-- The name whose first character is a letter, an underscore or escaped. -/
def nameCore? : Text → Option (Text × Text)
  | '\\' :: c :: r => let (n, s) := nameRest r; some (c :: n, s)
  | c :: r => if isNameStart c then let (n, s) := nameRest r; some (c :: n, s) else none
  | [] => none

/-- The class name that follows a dot, and what follows the name. -/
def className? : Text → Option (Text × Text)
  | '-' :: r => (nameCore? r).map fun (n, s) => ('-' :: n, s)
  | t => nameCore? t

theorem nameRest_length (t : Text) : (nameRest t).2.length ≤ t.length := by
  fun_induction nameRest t <;> simp_all <;> omega

theorem nameCore?_length {t n r : Text} (h : nameCore? t = some (n, r)) :
    r.length ≤ t.length := by
  unfold nameCore? at h
  split at h
  · simp only [Option.some.injEq, Prod.mk.injEq] at h
    rename_i u
    have := nameRest_length u
    simp only [← h.2, List.length_cons]; omega
  · split at h
    · simp only [Option.some.injEq, Prod.mk.injEq] at h
      rename_i u _ _
      have := nameRest_length u
      simp only [← h.2, List.length_cons]; omega
    · simp at h
  · simp at h

theorem className?_length {t n r : Text} (h : className? t = some (n, r)) :
    r.length ≤ t.length := by
  unfold className? at h
  split at h
  · obtain ⟨⟨n', r'⟩, hn, he⟩ := Option.map_eq_some_iff.mp h
    have := nameCore?_length hn
    simp only [Prod.mk.injEq] at he
    simp only [← he.2, List.length_cons]; omega
  · exact nameCore?_length h

def classesIn : Text → List Text
  | [] => []
  | c :: r =>
    if c == '.' then
      match _h : className? r with
      | some (n, r') => n :: classesIn r'
      | none => classesIn r
    else classesIn r
  termination_by t => t.length
  decreasing_by
    · have := className?_length _h
      simp only [List.length_cons]; omega
    all_goals simp

/-- Closed strings become empty ones; a quote that opens no closed string is an ordinary
character. -/
def blankStrings : Text → Text
  | [] => []
  | c :: r =>
    if isQuote c then
      match _h : afterString? c r with
      | some r' => emptyString ++ blankStrings r'
      | none => c :: blankStrings r
    else c :: blankStrings r
  termination_by t => t.length
  decreasing_by
    · have := afterString?_length _h
      simp only [List.length_cons]; omega
    all_goals simp

/-- The class names that a selector refers to, each once, in order of first mention. -/
def selectorClasses (selector : Text) : List Text := (classesIn (blankStrings selector)).eraseDups

/-! ### Text that is no list of rules -/

/-- The most characters that an address in `url(…)` may have to be left out. -/
def addressLimit : Nat := 2048

/-- What follows the address at the beginning of `t`: the letters `url` in any case, and a pair
of parentheses with none inside. -/
def afterAddress? : Text → Option Text
  | u :: r :: l :: '(' :: t =>
    if u.toLower == 'u' && r.toLower == 'r' && l.toLower == 'l' then
      match Text.cut? (fun c => c == '(' || c == ')') t with
      | some (a, d, b) => if a.length ≤ addressLimit && d == ')' then some b else none
      | none => none
    else none
  | _ => none

theorem afterAddress?_length {t r : Text} (h : afterAddress? t = some r) :
    r.length < t.length := by
  unfold afterAddress? at h
  split at h
  · split at h
    · split at h
      · split at h
        · rename_i hc _
          obtain ⟨_, he⟩ := Text.eq_of_cut? hc
          simp only [Option.some.injEq] at h
          subst h
          simp only [he, List.length_cons, List.length_append]; omega
        · simp at h
      · simp at h
    · simp at h
  · simp at h

def dropAddresses : Text → Text
  | [] => []
  | c :: r =>
    match _h : afterAddress? (c :: r) with
    | some r' => dropAddresses r'
    | none => c :: dropAddresses r
  termination_by t => t.length
  decreasing_by
    · have := afterAddress?_length _h
      simpa using this
    · simp

/-- Class names in text that could not be read as rules, with repetitions. -/
def looseClasses (t : Text) : List Text := classesIn (dropAddresses (dropQuoted (stripComments t)))

end ClassPurge.Css
