import ClassPurge.Console.EmojiNames
import ClassPurge.Text.Blank
import ClassPurge.Text.Case

/-!
Names between colons stand for pictures. A name may end in a choice between the plain and the
coloured form of its picture.
-/

namespace ClassPurge.Console

def pairUp : List Text → List (Text × Text)
  | a :: b :: r => (a, b) :: pairUp r
  | _ => []

def emojiTable : List (Text × Text) := pairUp (Text.words emojiNames.toList)

def emoji? (name : Text) : Option Text :=
  (emojiTable.find? fun e => e.1 == Text.lower name).map Prod.snd

/-- The choice of a form that ends a name, as the selector that is put behind the picture. -/
def formEnd? (t : Text) : Option (Text × Text) :=
  match Text.after? "-emoji:".toList t, Text.after? "-text:".toList t, t with
  | some r, _, _ => some (['\ufe0f'], r)
  | none, some r, _ => some (['\ufe0e'], r)
  | none, none, ':' :: r => some ([], r)
  | _, _, _ => none

/-- The shortest name up to a colon, the choice behind it, and what follows the colon. -/
def nameFrom (t : Text) : Option (Text × Text × Text) :=
  match formEnd? t with
  | some (form, r) => some ([], form, r)
  | none =>
    match t with
    | [] => none
    | c :: r => if Text.isBlank c then none else (nameFrom r).map fun (n, x) => (c :: n, x)

theorem nameFrom_length {t name form r : Text} (h : nameFrom t = some (name, form, r)) :
    r.length ≤ t.length := by
  induction t generalizing name form r with
  | nil =>
    unfold nameFrom at h
    simp [formEnd?, Text.after?] at h
  | cons c s ih =>
    unfold nameFrom at h
    split at h
    · rename_i f x hf
      simp only [Option.some.injEq, Prod.mk.injEq] at h
      obtain ⟨-, -, rfl⟩ := h
      unfold formEnd? at hf
      split at hf
      · rename_i y hy
        simp only [Option.some.injEq, Prod.mk.injEq] at hf
        obtain ⟨-, rfl⟩ := hf
        have := congrArg List.length (Text.eq_append_of_after? hy)
        simp only [List.length_append] at this; omega
      · rename_i y _ hy
        simp only [Option.some.injEq, Prod.mk.injEq] at hf
        obtain ⟨-, rfl⟩ := hf
        have := congrArg List.length (Text.eq_append_of_after? hy)
        simp only [List.length_append] at this; omega
      · rename_i y he
        simp only [Option.some.injEq, Prod.mk.injEq] at hf
        obtain ⟨-, rfl⟩ := hf
        simp_all
      · simp at hf
    · simp only at h
      split at h
      · simp at h
      · obtain ⟨⟨n, f, x⟩, hx, he⟩ := Option.map_eq_some_iff.mp h
        simp only [Prod.mk.injEq] at he
        obtain ⟨-, rfl, rfl⟩ := he
        have := ih hx
        simp only [List.length_cons]; omega

/-- A text with the pictures in place of their names. A name that has none stays. -/
def withEmoji : Text → Text
  | [] => []
  | c :: r =>
    if c = ':' then
      match _h : nameFrom r with
      | some (name, form, r') =>
        let shown := match emoji? name with
          | some e => e ++ form
          | none => ':' :: r.take (r.length - r'.length)
        shown ++ withEmoji r'
      | none => c :: withEmoji r
    else c :: withEmoji r
  termination_by t => t.length
  decreasing_by
    · have := nameFrom_length _h
      simp only [List.length_cons]; omega
    · simp
    · simp

end ClassPurge.Console
