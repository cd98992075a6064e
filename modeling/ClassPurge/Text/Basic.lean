/-!
Text as a list of characters, so that every count and offset is one of code points.
-/

namespace ClassPurge

abbrev Text := List Char

namespace Text

def string (t : Text) : String := String.ofList t

/-- The pieces between the characters that `p` marks; always at least one, possibly empty. -/
def splitOn (p : Char → Bool) : Text → List Text
  | [] => [[]]
  | c :: r =>
    if p c then [] :: splitOn p r
    else
      match splitOn p r with
      | [] => [[c]]
      | w :: ws => (c :: w) :: ws

theorem splitOn_ne_nil (p : Char → Bool) (t : Text) : splitOn p t ≠ [] := by
  cases t with
  | nil => simp [splitOn]
  | cons c r =>
    unfold splitOn
    split
    · simp
    · split <;> simp

/-- What comes before the first character that `p` marks, that character, and what follows it. -/
def cut? (p : Char → Bool) : Text → Option (Text × Char × Text)
  | [] => none
  | c :: r => if p c then some ([], c, r) else (cut? p r).map fun (a, d, b) => (c :: a, d, b)

theorem eq_of_cut? {p : Char → Bool} {t a b : Text} {d : Char} (h : cut? p t = some (a, d, b)) :
    p d = true ∧ t = a ++ d :: b := by
  induction t generalizing a with
  | nil => simp [cut?] at h
  | cons c r ih =>
    unfold cut? at h
    split at h
    · rename_i hc
      simp only [Option.some.injEq, Prod.mk.injEq] at h
      obtain ⟨rfl, rfl, rfl⟩ := h
      exact ⟨hc, rfl⟩
    · obtain ⟨⟨x, y, z⟩, hx, he⟩ := Option.map_eq_some_iff.mp h
      simp only [Prod.mk.injEq] at he
      obtain ⟨rfl, rfl, rfl⟩ := he
      obtain ⟨hd, rfl⟩ := ih hx
      exact ⟨hd, rfl⟩

def upTo (t r : Text) : Text := t.take (t.length - r.length)

theorem upTo_append {t r : Text} (h : r <:+ t) : upTo t r ++ r = t := by
  obtain ⟨p, rfl⟩ := h
  simp [upTo]

/-- What follows `w` if `t` begins with it. -/
def after? : Text → Text → Option Text
  | [], t => some t
  | _ :: _, [] => none
  | a :: w, c :: t => if a == c then after? w t else none

theorem eq_append_of_after? {w t r : Text} (h : after? w t = some r) : t = w ++ r := by
  fun_induction after? w t with
  | case1 => simp_all
  | case2 => simp at h
  | case3 a w c t hc ih => simp_all
  | case4 => simp at h

def hasPiece (w : Text) : Text → Bool
  | [] => w.isEmpty
  | c :: r => w.isPrefixOf (c :: r) || hasPiece w r

/-- The part of `t` between two offsets. An offset below zero counts from the end, and both are
moved into the text. -/
def slice (t : Text) (start stop : Int) : Text :=
  let place (i : Int) : Nat := min (if i < 0 then (i + t.length).toNat else i.toNat) t.length
  (t.drop (place start)).take (place stop - place start)

def join (sep : Text) : List Text → Text
  | [] => []
  | [t] => t
  | t :: ts => t ++ sep ++ join sep ts

end Text

/-- Closed code point ranges in increasing order. -/
abbrev Ranges := List (Nat × Nat)

namespace Ranges

def has (t : Ranges) (n : Nat) : Bool := t.any fun r => r.1 ≤ n && n ≤ r.2

end Ranges

end ClassPurge
