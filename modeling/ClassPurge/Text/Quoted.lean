import ClassPurge.Text.Printable

/-!
Texts quoted for messages. Single quotes are used unless the text holds a single quote and no
double quote. What cannot be shown is written as an escape with two, four or eight hexadecimal
digits, the fewest that do.
-/

namespace ClassPurge.Text

/-- The digits of `n` in base sixteen, small letters, padded with zeros to `width`. -/
def hex (width n : Nat) : Text :=
  let ds := Nat.toDigits 16 n
  List.replicate (width - ds.length) '0' ++ ds

/-- How `c` is written between the quotes `q`. -/
def quoteChar (q c : Char) : Text :=
  if c == q || c == '\\' then ['\\', c]
  else if c == '\t' then ['\\', 't']
  else if c == '\n' then ['\\', 'n']
  else if c == '\r' then ['\\', 'r']
  else if isPrintable c then [c]
  else if c.toNat < 0x100 then '\\' :: 'x' :: hex 2 c.toNat
  else if c.toNat < 0x10000 then '\\' :: 'u' :: hex 4 c.toNat
  else '\\' :: 'U' :: hex 8 c.toNat

def quoted (t : Text) : Text :=
  let q := if t.contains '\'' && !t.contains '"' then '"' else '\''
  q :: t.flatMap (quoteChar q) ++ [q]

end ClassPurge.Text

namespace ClassPurge

/-- A string quoted for a message. -/
def quote (s : String) : String := String.ofList (Text.quoted s.toList)

end ClassPurge
