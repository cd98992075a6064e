import ClassPurge.Text.Quoted

/-!
Strict decoding of bytes. A fault names the bytes that cannot be read: a byte that starts
nothing, a sequence broken off by a byte that does not continue it, or a sequence cut off by the
end. Sequences that are longer than needed, or that spell half of a pair, are broken off.
-/

namespace ClassPurge

abbrev Bytes := List UInt8

namespace Bytes

inductive Fault
  | badStart
  | badContinuation
  | cutOff
  deriving DecidableEq, Repr

def Fault.reason : Fault → String
  | .badStart => "invalid start byte"
  | .badContinuation => "invalid continuation byte"
  | .cutOff => "unexpected end of data"

/-- The bytes from `start` on, `count` many, the first of them `byte`, cannot be read. -/
structure DecodeError where
  fault : Fault
  byte : UInt8
  start : Nat
  count : Nat
  deriving DecidableEq, Repr

def DecodeError.message (e : DecodeError) : String :=
  let place :=
    if e.count == 1 then s!"byte 0x{String.ofList (Text.hex 2 e.byte.toNat)} in position {e.start}"
    else s!"bytes in position {e.start}-{e.start + e.count - 1}"
  s!"'utf-8' codec can't decode {place}: {e.fault.reason}"

/-- The second bytes that may follow the first byte `b` of a sequence of more than one. -/
def secondRange (b : UInt8) : Nat × Nat :=
  match b.toNat with
  | 0xe0 => (0xa0, 0xbf)
  | 0xed => (0x80, 0x9f)
  | 0xf0 => (0x90, 0xbf)
  | 0xf4 => (0x80, 0x8f)
  | _ => (0x80, 0xbf)

/-- How many bytes follow the first byte `b`, and what `b` itself adds to the code point. -/
def lead? (b : UInt8) : Option (Nat × Nat) :=
  let n := b.toNat
  if n < 0x80 then some (0, n)
  else if n < 0xc2 then none
  else if n < 0xe0 then some (1, n - 0xc0)
  else if n < 0xf0 then some (2, n - 0xe0)
  else if n < 0xf5 then some (3, n - 0xf0)
  else none

/-- Reads `count` continuation bytes onto `acc`, the next of them within `lo` and `hi`. Answers
the code point and the rest, or the fault and how many bytes were good. -/
def follow (acc lo hi good : Nat) : Nat → Bytes → Except (Fault × Nat) (Nat × Bytes)
  | 0, r => .ok (acc, r)
  | _ + 1, [] => .error (.cutOff, good)
  | count + 1, b :: r =>
    if lo ≤ b.toNat ∧ b.toNat ≤ hi then
      follow (acc * 64 + (b.toNat - 0x80)) 0x80 0xbf (good + 1) count r
    else .error (.badContinuation, good)

theorem follow_length {acc lo hi good count : Nat} {r r' : Bytes} {n : Nat}
    (h : follow acc lo hi good count r = .ok (n, r')) : r'.length ≤ r.length := by
  induction count generalizing acc lo hi good r with
  | zero => simp only [follow, Except.ok.injEq, Prod.mk.injEq] at h; simp [h.2]
  | succ count ih =>
    cases r with
    | nil => simp [follow] at h
    | cons b r =>
      unfold follow at h
      split at h
      · have := ih h
        simp only [List.length_cons]; omega
      · simp at h

def decodeFrom (pos : Nat) : Bytes → Except DecodeError Text
  | [] => .ok []
  | b :: r =>
    match lead? b with
    | none => .error ⟨.badStart, b, pos, 1⟩
    | some (count, part) =>
      let (lo, hi) := secondRange b
      match _h : follow part lo hi 1 count r with
      | .error (.cutOff, _) => .error ⟨.cutOff, b, pos, r.length + 1⟩
      | .error (f, good) => .error ⟨f, b, pos, good⟩
      | .ok (n, r') => (decodeFrom (pos + count + 1) r').map (Char.ofNat n :: ·)
  termination_by bs => bs.length
  decreasing_by
    have := follow_length _h
    simp only [List.length_cons]; omega

/-- The text that the bytes spell. A byte order mark stays. -/
def decode (bs : Bytes) : Except DecodeError Text := decodeFrom 0 bs

def ofText (t : Text) : Bytes := (String.ofList t).toUTF8.toList

/-- Bytes quoted for a message: ASCII that can be shown as it is, the rest in hexadecimal. -/
def quoted (bs : Bytes) : Text :=
  let cs := bs.map fun b => Char.ofNat b.toNat
  let q := if cs.contains '\'' && !cs.contains '"' then '"' else '\''
  let shown (c : Char) : Text :=
    if c.toNat < 0x7f then Text.quoteChar q c else '\\' :: 'x' :: Text.hex 2 c.toNat
  'b' :: q :: cs.flatMap shown ++ [q]

end Bytes

namespace Text

/-- Line ends of all three kinds become line feeds. -/
def unifyLineEnds : Text → Text
  | [] => []
  | '\r' :: '\n' :: r => '\n' :: unifyLineEnds r
  | '\r' :: r => '\n' :: unifyLineEnds r
  | c :: r => c :: unifyLineEnds r

end Text

end ClassPurge
