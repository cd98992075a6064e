import ClassPurge.Css.Token

/-!
Comments taken out, and strings blanked out. A string that never closes shields the rest of the
text from the first, and is dropped with it by the second.
-/

namespace ClassPurge.Css

def dropComments (ts : List Token) : List Token := ts.filter fun t => !t.isComment

def stripComments (t : Text) : Text := spell (dropComments (tokens t))

/-- What a blanked-out string looks like. -/
def emptyString : Text := ['"', '"']

def blankTokens : List Token → Text
  | [] => []
  | .unclosed _ :: _ => []
  | .string _ :: ts => emptyString ++ blankTokens ts
  | t :: ts => t.text ++ blankTokens ts

def dropQuoted (t : Text) : Text := blankTokens (quoteTokens t)

end ClassPurge.Css
