import ClassPurge.Text.Basic
import Mathlib.Tactic.Common

/-!
Parts of a text: pieces on either side of what they lack, slices at offsets that count from the
beginning, what stands before and behind a character that is marked or between two of them, and
the texts that it was joined from.
-/

namespace ClassPurge

/-! ### Pieces of lists -/

section

variable {α : Type} {w a s b : List α}

/-- A beginning of a list ends before the first element that it lacks. -/
lemma isPrefix_of_append_cons {c : α} (hc : c ∉ w) (h : w <+: a ++ c :: b) : w <+: a := by
  have hleft : a <+: a ++ c :: b := List.prefix_append a _
  rcases List.prefix_or_prefix_of_prefix h hleft with hwa | ⟨u, rfl⟩
  · exact hwa
  · rw [List.prefix_append_right_inj] at h
    cases u with
    | nil => simp
    | cons d u =>
      obtain ⟨rfl, -⟩ := List.cons_prefix_cons.mp h
      exact absurd (List.mem_append_right a List.mem_cons_self) hc

/-- A piece of a list lies on one side of an element that it lacks. -/
lemma isInfix_append_cons {c : α} (hc : c ∉ w) :
    w <:+: a ++ c :: b ↔ w <:+: a ∨ w <:+: b := by
  constructor
  · intro h
    induction a with
    | nil =>
      rcases List.infix_cons_iff.mp h with hpre | hb
      · have hnil : w <+: [] := isPrefix_of_append_cons (a := []) hc hpre
        exact .inl hnil.isInfix
      · exact .inr hb
    | cons d a ih =>
      rcases List.infix_cons_iff.mp h with hpre | hrest
      · have hleft : w <+: d :: a := isPrefix_of_append_cons (a := d :: a) hc hpre
        exact .inl hleft.isInfix
      · rcases ih hrest with ha | hb
        · exact .inl (ha.trans (List.suffix_cons d a).isInfix)
        · exact .inr hb
  · rintro (ha | hb)
    · exact ha.trans (List.prefix_append a _).isInfix
    · exact hb.trans ((List.suffix_cons c b).trans (List.suffix_append a _)).isInfix

lemma isInfix_of_append_left (hs : ∀ c ∈ s, c ∉ w) (h : w <:+: s ++ b) : w <:+: b := by
  induction s with
  | nil => exact h
  | cons c s ih =>
    obtain ⟨hc, hs⟩ := List.forall_mem_cons.mp hs
    rcases (isInfix_append_cons (a := []) hc).mp h with hnil | hrest
    · exact hnil.trans List.nil_infix
    · exact ih hs hrest

/-- A piece of a list lies on one side of elements that it lacks. -/
lemma isInfix_of_separated (hs : ∀ c ∈ s, c ∉ w) (hne : s ≠ []) (h : w <:+: a ++ (s ++ b)) :
    w <:+: a ∨ w <:+: b := by
  obtain ⟨c, s, rfl⟩ := List.exists_cons_of_ne_nil hne
  obtain ⟨hc, hs⟩ := List.forall_mem_cons.mp hs
  rw [List.cons_append] at h
  rcases (isInfix_append_cons hc).mp h with ha | hrest
  · exact .inl ha
  · exact .inr (isInfix_of_append_left hs hrest)

/-- Elements at both ends that it lacks add nothing. -/
lemma isInfix_of_padded {t : List α} (ha : ∀ c ∈ a, c ∉ w) (hb : ∀ c ∈ b, c ∉ w)
    (h : w <:+: a ++ (t ++ b)) : w <:+: t := by
  have hright : w <:+: t ++ b := isInfix_of_append_left ha h
  by_cases hne : b = []
  · rwa [hne, List.append_nil] at hright
  · rw [← List.append_nil b] at hright
    rcases isInfix_of_separated hb hne hright with ht | hnil
    · exact ht
    · exact hnil.trans List.nil_infix

/-- A piece that begins with an element lies behind what lacks that element. -/
lemma isInfix_append_of_head {c : α} (hc : c ∉ a) : c :: w <:+: a ++ b ↔ c :: w <:+: b := by
  constructor
  · intro h
    induction a with
    | nil => exact h
    | cons d a ih =>
      obtain ⟨hcd, hca⟩ := not_or.mp (mt List.mem_cons.mpr hc)
      rcases List.infix_cons_iff.mp h with hpre | hrest
      · exact absurd (List.cons_prefix_cons.mp hpre).1 hcd
      · exact ih hca hrest
  · intro h
    exact h.trans (List.suffix_append a b).isInfix

/-- What ends at the first of its marks is what stands before it. -/
lemma isPrefix_append_cons {c : α} (hw : c ∉ w) (ha : c ∉ a) :
    w ++ [c] <+: a ++ c :: b ↔ w = a := by
  constructor
  · intro h
    have hwa : w <+: a := isPrefix_of_append_cons hw ((List.prefix_append w [c]).trans h)
    obtain ⟨u, rfl⟩ := hwa
    rw [List.append_assoc, List.prefix_append_right_inj] at h
    cases u with
    | nil => exact (List.append_nil w).symm
    | cons d u =>
      have hd : c = d := (List.cons_prefix_cons.mp h).1
      exact absurd (hd ▸ List.mem_append_right w List.mem_cons_self) ha
  · rintro rfl
    exact (List.prefix_append_right_inj w).mpr ⟨b, rfl⟩

end

/-- No character of the text is one that `p` marks. -/
def Avoids (p : Char → Bool) (t : Text) : Prop := ∀ x ∈ t, ¬ p x

instance (p : Char → Bool) (t : Text) : Decidable (Avoids p t) := List.decidableBAll _ t

namespace Text

lemma slice_eq (t : Text) (i j : Nat) : t.slice i j = (t.drop i).take (j - i) := by
  have hi : ¬ ((i : Int) < 0) := by omega
  have hj : ¬ ((j : Int) < 0) := by omega
  simp only [slice, if_neg hi, if_neg hj, Int.toNat_natCast]
  rcases Nat.le_total i t.length with h | h
  · rw [Nat.min_eq_left h, List.take_eq_take_iff, List.length_drop]
    omega
  · rw [List.drop_eq_nil_of_le h, Nat.min_eq_right h, List.drop_length, List.take_nil,
      List.take_nil]

lemma slice_of_drop {t a b : Text} {i : Nat} (h : t.drop i = a ++ b) :
    t.slice i (i + a.length : Nat) = a := by
  rw [slice_eq, h, Nat.add_sub_cancel_left, List.take_left]

lemma drop_of_drop {t a b : Text} {i : Nat} (h : t.drop i = a ++ b) :
    t.drop (i + a.length) = b := by
  rw [← List.drop_drop, h, List.drop_left]

lemma slice_end (t : Text) (i : Nat) : t.slice i t.length = t.drop i := by
  rw [slice_eq, List.take_of_length_le (by simp)]

lemma hasPiece_iff {w t : Text} : hasPiece w t = true ↔ w <:+: t := by
  induction t with
  | nil => simp [hasPiece]
  | cons x t ih => rw [hasPiece, Bool.or_eq_true, List.isPrefixOf_iff_prefix, ih,
      List.infix_cons_iff]

/-! ### Cut texts -/

lemma cut?_append {p : Char → Bool} {a : Text} {d : Char} (ha : ∀ x ∈ a, ¬ p x) (hd : p d)
    (b : Text) : cut? p (a ++ d :: b) = some (a, d, b) := by
  induction a with
  | nil => simp [cut?, hd]
  | cons c a ih =>
    obtain ⟨hc, ha⟩ := List.forall_mem_cons.mp ha
    simp [cut?, hc, ih ha]

lemma avoids_of_cut?_none {p : Char → Bool} {t : Text} (h : cut? p t = none) : Avoids p t := by
  induction t with
  | nil => exact fun _ hx => absurd hx List.not_mem_nil
  | cons c t ih =>
    rw [cut?] at h
    split at h
    · cases h
    · rename_i hc
      exact List.forall_mem_cons.mpr ⟨hc, ih (Option.map_eq_none_iff.mp h)⟩

lemma not_marked_of_cut? {p : Char → Bool} {t a b : Text} {d : Char}
    (h : cut? p t = some (a, d, b)) : ∀ x ∈ a, ¬ p x := by
  induction t generalizing a with
  | nil => simp [cut?] at h
  | cons c r ih =>
    rw [cut?] at h
    split at h
    · cases h
      exact fun _ hx => absurd hx List.not_mem_nil
    · rename_i hc
      obtain ⟨⟨x, y, z⟩, hx, he⟩ := Option.map_eq_some_iff.mp h
      cases he
      exact List.forall_mem_cons.mpr ⟨hc, ih hx⟩

/-- Each piece stands in the text, the first at its beginning. -/
lemma exists_splitOn (p : Char → Bool) (t : Text) :
    ∃ w ws, splitOn p t = w :: ws ∧ w <+: t ∧ ∀ v ∈ ws, v <:+: t := by
  induction t with
  | nil => exact ⟨[], [], rfl, List.prefix_rfl, by simp⟩
  | cons c t ih =>
    obtain ⟨w, ws, hsplit, hw, hws⟩ := ih
    have hrest : t <:+ c :: t := List.suffix_cons c t
    rw [splitOn, hsplit]
    split
    · refine ⟨[], w :: ws, rfl, List.nil_prefix, List.forall_mem_cons.mpr ⟨?_, fun v hv => ?_⟩⟩
      · exact hw.isInfix.trans hrest.isInfix
      · exact (hws v hv).trans hrest.isInfix
    · exact ⟨c :: w, ws, rfl, List.cons_prefix_cons.mpr ⟨rfl, hw⟩,
        fun v hv => (hws v hv).trans hrest.isInfix⟩

lemma isInfix_of_mem_splitOn {p : Char → Bool} {w t : Text} (h : w ∈ splitOn p t) : w <:+: t := by
  obtain ⟨v, ws, hsplit, hv, hws⟩ := exists_splitOn p t
  rw [hsplit] at h
  rcases List.mem_cons.mp h with rfl | hw
  · exact hv.isInfix
  · exact hws w hw

lemma avoids_of_mem_splitOn {p : Char → Bool} {w t : Text} (h : w ∈ splitOn p t) :
    Avoids p w := by
  induction t generalizing w with
  | nil =>
    obtain rfl : w = [] := by simpa [splitOn] using h
    simp [Avoids]
  | cons c t ih =>
    obtain ⟨v, ws, hsplit, -, -⟩ := exists_splitOn p t
    rw [hsplit] at ih
    rw [splitOn, hsplit] at h
    split at h
    · rcases List.mem_cons.mp h with rfl | hw
      · simp [Avoids]
      · exact ih hw
    · rename_i hc
      rcases List.mem_cons.mp h with rfl | hw
      · exact List.forall_mem_cons.mpr ⟨hc, ih List.mem_cons_self⟩
      · exact ih (List.mem_cons_of_mem v hw)

/-- A text up to the first character that is marked, and what follows it. -/
lemma splitOn_append {p : Char → Bool} {a : Text} {c : Char} (ha : Avoids p a) (hc : p c)
    (b : Text) : splitOn p (a ++ c :: b) = a :: splitOn p b := by
  induction a with
  | nil => rw [List.nil_append, splitOn, if_pos hc]
  | cons x a ih =>
    obtain ⟨hx, ha⟩ := List.forall_mem_cons.mp ha
    rw [List.cons_append, splitOn, if_neg hx, ih ha]

lemma splitOn_of_avoids {p : Char → Bool} {a : Text} (ha : Avoids p a) : splitOn p a = [a] := by
  induction a with
  | nil => rfl
  | cons x a ih =>
    obtain ⟨hx, ha⟩ := List.forall_mem_cons.mp ha
    rw [splitOn, if_neg hx, ih ha]

/-- The pieces but the last are those with a mark behind them, and before them unless they begin
the text. -/
lemma mem_dropLast_splitOn {w : Text} {c : Char} (hw : c ∉ w) (t : Text) :
    w ∈ (splitOn (· == c) t).dropLast ↔ c :: (w ++ [c]) <:+: c :: t := by
  by_cases ht : c ∈ t
  · obtain ⟨a, b, hsplit, ha⟩ := List.eq_append_cons_of_mem ht
    have hshorter : b.length < t.length := by simp [hsplit]; omega
    have havoids : Avoids (· == c) a := fun x hx hxc => ha (eq_of_beq hxc ▸ hx)
    have hpieces : (splitOn (· == c) t).dropLast = a :: (splitOn (· == c) b).dropLast := by
      rw [hsplit, splitOn_append havoids (beq_self_eq_true c),
        List.dropLast_cons_of_ne_nil (splitOn_ne_nil _ b)]
    calc w ∈ (splitOn (· == c) t).dropLast
        ↔ w = a ∨ c :: (w ++ [c]) <:+: c :: b := by
          rw [hpieces, List.mem_cons, mem_dropLast_splitOn hw b]
      _ ↔ w ++ [c] <+: t ∨ c :: (w ++ [c]) <:+: t := by
          rw [hsplit, isPrefix_append_cons hw ha, isInfix_append_of_head ha]
      _ ↔ c :: (w ++ [c]) <:+: c :: t := by
          rw [List.infix_cons_iff, List.cons_prefix_cons, and_iff_right rfl]
  · have havoids : Avoids (· == c) t := fun x hx hxc => ht (eq_of_beq hxc ▸ hx)
    rw [splitOn_of_avoids havoids]
    constructor
    · intro h
      cases h
    · intro h
      -- Two marks would have to stand where there is one.
      have hcount := h.sublist.count_le c
      rw [List.count_cons_self, List.count_append, List.count_cons_self, List.count_cons_self,
        List.count_eq_zero_of_not_mem ht] at hcount
      omega
termination_by t.length

/-! ### Joined texts -/

lemma join_cons (sep t : Text) (ts : List Text) :
    join sep (t :: ts) = t ++ ts.flatMap (sep ++ ·) := by
  induction ts generalizing t with
  | nil => simp [join]
  | cons u us ih => rw [join.eq_3 _ _ _ (by simp), ih, List.flatMap_cons]; simp

lemma join_append_cons (sep t : Text) (ts us : List Text) : join sep (ts ++ t :: us) =
    ts.flatMap (· ++ sep) ++ (t ++ us.flatMap (sep ++ ·)) := by
  induction ts with
  | nil => rw [List.nil_append, join_cons]; rfl
  | cons u ts ih =>
    rw [List.cons_append, join.eq_3 _ _ _ (by simp), ih, List.flatMap_cons]
    simp

lemma join_cons_of_ne_nil (sep t : Text) {ts : List Text} (h : ts ≠ []) :
    join sep (t :: ts) = t ++ sep ++ join sep ts := by
  obtain ⟨u, us, rfl⟩ := List.exists_cons_of_ne_nil h
  rfl

lemma avoids_join {p : Char → Bool} {sep : Text} {ts : List Text} (hsep : Avoids p sep)
    (hts : ∀ t ∈ ts, Avoids p t) : Avoids p (join sep ts) := by
  cases ts with
  | nil => simp [join, Avoids]
  | cons t ts =>
    obtain ⟨ht, hts⟩ := List.forall_mem_cons.mp hts
    rw [join_cons]
    refine List.forall_mem_append.mpr ⟨ht, fun c hc => ?_⟩
    obtain ⟨u, hu, hc⟩ := List.mem_flatMap.mp hc
    rcases List.mem_append.mp hc with hc | hc
    · exact hsep c hc
    · exact hts u hu c hc

lemma splitOn_join {p : Char → Bool} {c : Char} (hc : p c) {ts : List Text} (hne : ts ≠ [])
    (hts : ∀ t ∈ ts, Avoids p t) : splitOn p (join [c] ts) = ts := by
  induction ts with
  | nil => exact absurd rfl hne
  | cons t ts ih =>
    obtain ⟨ht, hts⟩ := List.forall_mem_cons.mp hts
    by_cases hnil : ts = []
    · rw [hnil]
      exact splitOn_of_avoids ht
    · rw [join_cons_of_ne_nil _ _ hnil, List.append_assoc, List.singleton_append,
        splitOn_append ht hc, ih hnil hts]

end Text

end ClassPurge
