import ClassPurge.Text.Blank
import ClassPurge.Text.Utf8
import Mathlib.Data.List.Infix
import Mathlib.Tactic.Common

/-!
Two texts with the same lines, which end in two characters in one of them and in one in the other.
They are read in step: what stands before a place in the one and before the same place in the other
are the same lines too.
-/

namespace ClassPurge.Extract

open Text

variable {α β : Type} {t u w r s : Text}

/-! ### The same lines -/

/-- The texts are the same, but for line ends of two characters in the first that have one in the
second. -/
inductive SameLines : Text → Text → Prop
  | nil : SameLines [] []
  | char {c : Char} {t u : Text} (hc : c ≠ '\r') (h : SameLines t u) : SameLines (c :: t) (c :: u)
  | lineEnd {t u : Text} (h : SameLines t u) : SameLines ('\r' :: '\n' :: t) ('\n' :: u)

/-- Every carriage return has a line feed behind it. -/
def PairsReturns (t : Text) : Prop := ∀ r, '\r' :: r <:+ t → r.head? = some '\n'

/-- A text with no part of a line end in it. -/
def Inline (t : Text) : Prop := ∀ c ∈ t, c ≠ '\r' ∧ c ≠ '\n'

instance (t : Text) : Decidable (Inline t) := List.decidableBAll _ t

instance (t : Text) : Decidable (PairsReturns t) :=
  decidable_of_iff (∀ s ∈ t.tails, s.head? = some '\r' → s.tail.head? = some '\n') <| by
    simp only [List.mem_tails]
    constructor
    · exact fun h r hr => h _ hr rfl
    · intro h s hs hhead
      obtain ⟨r, rfl⟩ := List.head?_eq_some_iff.mp hhead
      exact h r hs

lemma unifyLineEnds_of_not_mem (h : '\r' ∉ t) : t.unifyLineEnds = t := by
  fun_induction unifyLineEnds t with
  | case1 => rfl
  | case2 r ih => exact absurd List.mem_cons_self h
  | case3 r hr ih => exact absurd List.mem_cons_self h
  | case4 c r _ _ ih => rw [ih fun hr => h (List.mem_cons_of_mem _ hr)]

lemma sameLines_unify (h : PairsReturns t) : SameLines t t.unifyLineEnds := by
  fun_induction unifyLineEnds t with
  | case1 => exact .nil
  | case2 r ih =>
    have hr : r <:+ '\r' :: '\n' :: r := ⟨['\r', '\n'], rfl⟩
    exact .lineEnd (ih fun s hs => h s (hs.trans hr))
  | case3 r hr =>
    have hhead := h r (List.suffix_refl _)
    cases r with
    | nil => cases hhead
    | cons c r =>
      cases hhead
      exact absurd rfl (hr r)
  | case4 c r _ hc ih =>
    exact .char (fun h => hc h) (ih fun s hs => h s (hs.trans (List.suffix_cons _ _)))

lemma SameLines.append (h : SameLines t u) (h' : SameLines r s) : SameLines (t ++ r) (u ++ s) := by
  induction h with
  | nil => exact h'
  | char hc _ ih => exact .char hc ih
  | lineEnd _ ih => exact .lineEnd ih

lemma Inline.sameLines (h : Inline w) : SameLines w w := by
  induction w with
  | nil => exact .nil
  | cons c w ih =>
    obtain ⟨hc, hw⟩ := List.forall_mem_cons.mp h
    exact .char hc.1 (ih hw)

lemma SameLines.getLast?_eq (h : SameLines t u) : t.getLast? = u.getLast? := by
  induction h with
  | nil => rfl
  | @char c t u _ _ ih => rw [List.getLast?_cons, List.getLast?_cons, ih]
  | lineEnd _ ih => simp only [List.getLast?_cons, ih, Option.getD_some]

lemma SameLines.words_eq (h : SameLines t u) : words t = words u := by
  -- The first pieces are the same too: what comes before them may belong to them.
  have hpieces : ∃ w ts us, splitOn isBlank t = w :: ts ∧ splitOn isBlank u = w :: us ∧
      (ts.filter fun w => !w.isEmpty) = us.filter fun w => !w.isEmpty := by
    induction h with
    | nil => exact ⟨_, _, _, rfl, rfl, rfl⟩
    | @char c t u _ _ ih =>
      obtain ⟨w, ts, us, ht, hu, heq⟩ := ih
      rw [splitOn, splitOn, ht, hu]
      split
      · exact ⟨_, _, _, rfl, rfl, by rw [List.filter_cons, List.filter_cons, heq]⟩
      · exact ⟨_, _, _, rfl, rfl, heq⟩
    | lineEnd _ ih =>
      obtain ⟨w, ts, us, ht, hu, heq⟩ := ih
      refine ⟨[], [] :: w :: ts, w :: us, ?_, ?_, ?_⟩
      · rw [splitOn, if_pos (by decide), splitOn, if_pos (by decide), ht]
      · rw [splitOn, if_pos (by decide), hu]
      · rw [List.filter_cons_of_neg (by simp), List.filter_cons, List.filter_cons, heq]
  obtain ⟨w, ts, us, ht, hu, heq⟩ := hpieces
  rw [words, words, ht, hu, List.filter_cons, List.filter_cons, heq]

/-! ### Rests -/

/-- `r` and `s` are what is left of the two texts behind the same lines. -/
inductive Rest (t u r s : Text) : Prop
  | behind {p q : Text} (ht : t = p ++ r) (hu : u = q ++ s) (h : SameLines p q)
    (hrest : SameLines r s)

/-- `r` and `s` are what is left of the two texts behind a text in one line. -/
inductive RestInline (t u r s : Text) : Prop
  | behind {w : Text} (ht : t = w ++ r) (hu : u = w ++ s) (h : Inline w) (hrest : SameLines r s)

lemma Rest.sameLines (h : Rest t u r s) : SameLines r s := by
  obtain ⟨-, -, -, hrest⟩ := h
  exact hrest

lemma RestInline.sameLines (h : RestInline t u r s) : SameLines r s := by
  obtain ⟨-, -, -, hrest⟩ := h
  exact hrest

lemma RestInline.rest (h : RestInline t u r s) : Rest t u r s := by
  obtain ⟨ht, hu, h, hrest⟩ := h
  exact .behind ht hu h.sameLines hrest

lemma SameLines.restInline (h : SameLines t u) : RestInline t u t u :=
  .behind (w := []) rfl rfl (by simp [Inline]) h

lemma Rest.trans {r' s' : Text} (h : Rest t u r s) (h' : Rest r s r' s') : Rest t u r' s' := by
  obtain ⟨rfl, rfl, h, -⟩ := h
  obtain ⟨rfl, rfl, h', hrest⟩ := h'
  exact .behind (List.append_assoc _ _ _).symm (List.append_assoc _ _ _).symm (h.append h') hrest

lemma SameLines.rest_char {c : Char} (hc : c ≠ '\r') (h : SameLines t u) :
    Rest (c :: t) (c :: u) t u := .behind (p := [c]) rfl rfl (.char hc .nil) h

lemma RestInline.trans {r' s' : Text} (h : RestInline t u r s) (h' : RestInline r s r' s') :
    RestInline t u r' s' := by
  obtain ⟨rfl, rfl, h, -⟩ := h
  obtain ⟨rfl, rfl, h', hrest⟩ := h'
  exact .behind (List.append_assoc _ _ _).symm (List.append_assoc _ _ _).symm
    (List.forall_mem_append.mpr ⟨h, h'⟩) hrest

lemma RestInline.cons {c : Char} (hc : c ≠ '\r' ∧ c ≠ '\n') (h : RestInline t u r s) :
    RestInline (c :: t) (c :: u) r s := by
  obtain ⟨rfl, rfl, h, hrest⟩ := h
  exact .behind (w := c :: _) rfl rfl (List.forall_mem_cons.mpr ⟨hc, h⟩) hrest

lemma RestInline.upTo_eq (h : RestInline t u r s) : upTo t r = upTo u s := by
  obtain ⟨rfl, rfl, -, -⟩ := h
  simp [upTo]

lemma inline_of_kind {p : Char → Bool} {c : Char} (hr : p '\r' = false) (hn : p '\n' = false)
    (h : p c = true) : c ≠ '\r' ∧ c ≠ '\n' := by
  constructor
  · rintro rfl
    exact absurd h (by simp [hr])
  · rintro rfl
    exact absurd h (by simp [hn])

lemma SameLines.restInline_dropWhile {p : Char → Bool} (hr : p '\r' = false) (hn : p '\n' = false)
    (h : SameLines t u) : RestInline t u (t.dropWhile p) (u.dropWhile p) := by
  induction h with
  | nil => exact SameLines.nil.restInline
  | @char c t u hc h ih =>
    rw [List.dropWhile_cons, List.dropWhile_cons]
    split
    · rename_i hp
      exact ih.cons (inline_of_kind hr hn hp)
    · exact (SameLines.char hc h).restInline
  | lineEnd h =>
    rw [List.dropWhile_cons_of_neg (by simp [hr]), List.dropWhile_cons_of_neg (by simp [hn])]
    exact (SameLines.lineEnd h).restInline

lemma SameLines.rest_stripStart (h : SameLines t u) : Rest t u (stripStart t) (stripStart u) := by
  induction h with
  | nil => exact SameLines.nil.restInline.rest
  | @char c t u hc h ih =>
    rw [stripStart, stripStart, List.dropWhile_cons, List.dropWhile_cons]
    split
    · exact (h.rest_char hc).trans ih
    · exact (SameLines.char hc h).restInline.rest
  | lineEnd h ih =>
    exact Rest.trans (.behind (p := ['\r', '\n']) (q := ['\n']) rfl rfl (.lineEnd .nil) h) ih

/-! ### Answers that are alike -/

lemma eq_some_of_rel {R : α → β → Prop} {a : α} {y : Option β} (h : Option.Rel R (some a) y) :
    ∃ b, y = some b ∧ R a b := by
  cases h with
  | some h => exact ⟨_, rfl, h⟩

lemma eq_none_of_rel {R : α → β → Prop} {y : Option β} (h : Option.Rel R none y) : y = none := by
  cases h
  rfl

lemma rel_imp {R S : α → β → Prop} {x : Option α} {y : Option β} (h : Option.Rel R x y)
    (hRS : ∀ a b, R a b → S a b) : Option.Rel S x y := by
  cases h with
  | none => exact .none
  | some h => exact .some (hRS _ _ h)

lemma rel_map {γ δ : Type} {R : α → β → Prop} {S : γ → δ → Prop} {x : Option α} {y : Option β}
    {f : α → γ} {g : β → δ} (h : Option.Rel R x y) (hfg : ∀ a b, R a b → S (f a) (g b)) :
    Option.Rel S (x.map f) (y.map g) := by
  cases h with
  | none => exact .none
  | some h => exact .some (hfg _ _ h)

lemma rel_bind {γ δ : Type} {R : α → β → Prop} {S : γ → δ → Prop} {x : Option α} {y : Option β}
    {f : α → Option γ} {g : β → Option δ} (h : Option.Rel R x y)
    (hfg : ∀ a b, R a b → Option.Rel S (f a) (g b)) : Option.Rel S (x >>= f) (y >>= g) := by
  cases h with
  | none => exact .none
  | some h => exact hfg _ _ h

lemma rel_findSome? {γ : Type} {R : α → β → Prop} {f : γ → Option α} {g : γ → Option β}
    {l : List γ} (h : ∀ c ∈ l, Option.Rel R (f c) (g c)) :
    Option.Rel R (l.findSome? f) (l.findSome? g) := by
  induction l with
  | nil => exact .none
  | cons c l ih =>
    obtain ⟨hc, hl⟩ := List.forall_mem_cons.mp h
    rw [List.findSome?_cons, List.findSome?_cons]
    generalize f c = x, g c = y at hc
    cases hc with
    | none => exact ih hl
    | some h => exact .some h

lemma SameLines.after? (hw : Inline w) (h : SameLines t u) :
    Option.Rel (RestInline t u) (Text.after? w t) (Text.after? w u) := by
  induction w generalizing t u with
  | nil =>
    rw [Text.after?, Text.after?]
    exact .some h.restInline
  | cons a w ih =>
    obtain ⟨ha, hw⟩ := List.forall_mem_cons.mp hw
    cases h with
    | nil => exact .none
    | @char c t u hc h =>
      rw [Text.after?, Text.after?]
      split
      · rename_i heq
        obtain rfl := beq_iff_eq.mp heq
        exact rel_imp (ih hw h) fun _ _ => .cons ha
      · exact .none
    | lineEnd h =>
      rw [Text.after?, Text.after?, if_neg (by simpa using ha.1), if_neg (by simpa using ha.2)]
      exact .none

lemma after?_lineEnd {c : Char} (hw : Inline w) (hne : w ≠ []) (hc : c = '\r' ∨ c = '\n')
    (t : Text) : Text.after? w (c :: t) = none := by
  cases w with
  | nil => exact absurd rfl hne
  | cons a w =>
    obtain ⟨⟨hr, hn⟩, -⟩ := List.forall_mem_cons.mp hw
    rw [Text.after?, if_neg]
    rintro heq
    obtain rfl := beq_iff_eq.mp heq
    exact hc.elim hr hn

end ClassPurge.Extract
