import ClassPurge.Proofs.Css.Decomposition
import Mathlib.Data.List.Forall2

/-!
What stands inside strings and comments. The scans pass over it, so a stylesheet in which it is
exchanged, character for character, has its rules at the same places. Only the characters that
begin, end or escape something may not come or go.
-/

namespace ClassPurge.Css

/-- The character has no part in where a string or a comment begins or ends. -/
def isInert (c : Char) : Bool := !isQuote c && c != '\\' && c != '*' && c != '/'

/-- The place `i` of the token lies between the marks that begin and end it. -/
def Token.Encloses (i : Nat) : Token → Prop
  | .string t => 1 ≤ i ∧ i + 1 < t.length
  | .comment t => endMark <:+ t.drop 2 ∧ 2 ≤ i ∧ i + 2 < t.length
  | _ => False

instance (i : Nat) : (k : Token) → Decidable (k.Encloses i)
  | .string t => inferInstanceAs (Decidable (1 ≤ i ∧ i + 1 < t.length))
  | .comment t => inferInstanceAs (Decidable (endMark <:+ t.drop 2 ∧ 2 ≤ i ∧ i + 2 < t.length))
  | .unclosed _ | .char _ => .isFalse id

/-- The place `i` of what the tokens spell lies inside a closed string or a closed comment. -/
def Inside (i : Nat) : List Token → Prop
  | [] => False
  | k :: ts => if i < k.text.length then k.Encloses i else Inside (i - k.text.length) ts

instance decidableInside (i : Nat) : (ts : List Token) → Decidable (Inside i ts)
  | [] => .isFalse id
  | k :: ts =>
    have := decidableInside (i - k.text.length) ts
    inferInstanceAs (Decidable (if i < k.text.length then _ else _))

/-- The texts differ only inside the closed strings and comments of the first, and there only in
inert characters. -/
structure DiffersInside (s t : Text) : Prop where
  length : s.length = t.length
  inside : ∀ i x y, s[i]? = some x → t[i]? = some y → x ≠ y →
    Inside i (tokens s) ∧ isInert x ∧ isInert y

lemma differsInside_iff {s t : Text} : DiffersInside s t ↔ s.length = t.length ∧
    ∀ p ∈ (s.zip t).zipIdx, p.1.1 ≠ p.1.2 →
      Inside p.2 (tokens s) ∧ isInert p.1.1 ∧ isInert p.1.2 := by
  have hzip (i : Nat) (x y : Char) :
      ((x, y), i) ∈ (s.zip t).zipIdx ↔ s[i]? = some x ∧ t[i]? = some y := by
    rw [List.mem_zipIdx_iff_getElem?, List.getElem?_zip_eq_some]
  constructor
  · rintro ⟨hlength, h⟩
    refine ⟨hlength, ?_⟩
    rintro ⟨⟨x, y⟩, i⟩ hp hne
    obtain ⟨hx, hy⟩ := (hzip i x y).mp hp
    exact h i x y hx hy hne
  · rintro ⟨hlength, h⟩
    exact ⟨hlength, fun i x y hx hy hne => h ((x, y), i) ((hzip i x y).mpr ⟨hx, hy⟩) hne⟩

instance (s t : Text) : Decidable (DiffersInside s t) := decidable_of_iff _ differsInside_iff.symm

/-- The token with blanks for what stands in it. -/
def Token.shape : Token → Token
  | .string t => .string (t.map fun _ => ' ')
  | .comment t => .comment (t.map fun _ => ' ')
  | k => k

/-! ### Rules are read off the shapes -/

namespace Token

@[simp] lemma shape_eq_char {k : Token} {c : Char} : k.shape = .char c ↔ k = .char c := by
  cases k <;> simp [shape]

@[simp] lemma isUnclosed_shape {k : Token} : k.shape.IsUnclosed ↔ k.IsUnclosed := by
  cases k <;> rfl

@[simp] lemma isTrivia_shape (k : Token) : k.shape.isTrivia = k.isTrivia := by
  cases k <;> rfl

@[simp] lemma isOpenBrace_shape (k : Token) : k.shape.isOpenBrace = k.isOpenBrace := by
  cases k <;> rfl

@[simp] lemma length_text_shape (k : Token) : k.shape.text.length = k.text.length := by
  cases k <;> simp [shape, text]

end Token

@[simp] lemma parensAfterToken_shape (n : Nat) (k : Token) :
    parensAfterToken n k.shape = parensAfterToken n k := by
  cases k <;> rfl

@[simp] lemma length_spell_shape (ts : List Token) :
    (spell (ts.map Token.shape)).length = (spell ts).length := by
  induction ts with
  | nil => rfl
  | cons k ts ih => simp [ih]

lemma splitPrelude?_shape (statement : Bool) (n : Nat) (ts : List Token) :
    splitPrelude? statement n (ts.map Token.shape) = (splitPrelude? statement n ts).map
      fun (p, e, r) => (p.map Token.shape, e, r.map Token.shape) := by
  induction ts generalizing n with
  | nil => rfl
  | cons k ts ih =>
    by_cases hk : k.IsUnclosed
    · cases k <;> first | rfl | exact absurd hk id
    · rw [List.map_cons, splitPrelude?_cons hk, splitPrelude?_cons (by simpa using hk), ih]
      simp only [Token.shape_eq_char, parensAfterToken_shape]
      split_ifs
      · rfl
      · rfl
      · rfl
      · simp only [Option.map_map]
        rfl

lemma splitBlock?_shape (d : Nat) (ts : List Token) :
    splitBlock? d (ts.map Token.shape) = (splitBlock? d ts).map
      fun (b, r) => (b.map Token.shape, r.map Token.shape) := by
  induction ts generalizing d with
  | nil => rfl
  | cons k ts ih =>
    by_cases hk : k.IsUnclosed
    · cases k <;> first | rfl | exact absurd hk id
    · rw [List.map_cons, splitBlock?_cons hk, splitBlock?_cons (by simpa using hk)]
      simp only [Token.shape_eq_char, ih]
      split
      · cases d with
        | zero => rfl
        | succ d =>
          simp only [Option.map_map]
          rfl
      · simp only [Option.map_map]
        rfl

lemma readRule?_shape (start : Nat) (ts : List Token) :
    (readRule? start (ts.map Token.shape)).map (fun (r, u) => (r.extent, u)) =
      (readRule? start ts).map fun (r, u) => (r.extent, u.map Token.shape) := by
  have hhead : ((ts.map Token.shape).head? == some (.char '@')) =
      (ts.head? == some (.char '@')) := by
    cases ts with
    | nil => rfl
    | cons k ts =>
      rw [List.map_cons, List.head?_cons, List.head?_cons, Bool.eq_iff_iff]
      simp
  have hopen : Token.isOpenBrace ∘ Token.shape = Token.isOpenBrace :=
    funext Token.isOpenBrace_shape
  rw [readRule?, readRule?, hhead, splitPrelude?_shape]
  rcases splitPrelude? (ts.head? == some (.char '@')) 0 ts with _ | ⟨p, e, r⟩
  · rfl
  cases e with
  | semicolon => simp [Rule.extent]
  | brace =>
    simp only [Option.map_some, Option.bind_eq_bind, Option.bind_some, splitBlock?_shape]
    rcases splitBlock? 0 r with _ | ⟨b, u⟩
    · rfl
    · simp [Rule.extent, hopen]

/-- The rules are read one by one, and each behind the trivia before it. -/
lemma rules_parseFrom (n : Nat) (ts : List Token) : (parseFrom n ts).rules =
    match readRule? (n + (spell (ts.takeWhile Token.isTrivia)).length)
      (ts.dropWhile Token.isTrivia) with
    | none => []
    | some (rule, r) => rule :: (parseFrom rule.stop r).rules := by
  rw [parseFrom.eq_1]
  split
  · rename_i hnil
    rw [hnil]
    rfl
  · rename_i k us hcons
    rw [hcons]
    split
    · rename_i hnone
      rw [hnone]
    · rename_i hsome
      rw [hsome]

/-- **Where the rules are depends on the shapes alone.** -/
lemma extents_shape (n : Nat) (ts : List Token) :
    (parseFrom n (ts.map Token.shape)).rules.map Rule.extent =
      (parseFrom n ts).rules.map Rule.extent := by
  induction hl : ts.length using Nat.strongRecOn generalizing n ts with
  | _ l ih =>
    have htrivia : Token.isTrivia ∘ Token.shape = Token.isTrivia :=
      funext Token.isTrivia_shape
    have hread := readRule?_shape (n + (spell (ts.takeWhile Token.isTrivia)).length)
      (ts.dropWhile Token.isTrivia)
    rw [rules_parseFrom n (ts.map _), rules_parseFrom n ts, List.takeWhile_map, List.dropWhile_map,
      htrivia, length_spell_shape]
    cases hrule : readRule? (n + (spell (ts.takeWhile Token.isTrivia)).length)
        (ts.dropWhile Token.isTrivia) with
    | none =>
      rw [hrule, Option.map_none, Option.map_eq_none_iff] at hread
      rw [hread]
    | some p =>
      obtain ⟨rule, r⟩ := p
      rw [hrule, Option.map_some, Option.map_eq_some_iff] at hread
      obtain ⟨⟨rule', r'⟩, hrule', heq⟩ := hread
      obtain ⟨hextent, rfl⟩ := Prod.mk.inj heq
      have hstop : rule'.stop = rule.stop := congrArg Extent.stop hextent
      have hshort := readRule?_length hrule
      have hdrop := (List.dropWhile_suffix Token.isTrivia (l := ts)).length_le
      rw [hrule']
      simp only [List.map_cons, hextent, hstop]
      rw [ih r.length (by omega) rule.stop r rfl]

/-! ### Alike texts -/

/-- The characters are the same, or both inert. -/
def AlikeChar (x y : Char) : Prop := x = y ∨ (isInert x ∧ isInert y)

/-- Two texts that differ at most in inert characters. -/
def Alike (s t : Text) : Prop := List.Forall₂ AlikeChar s t

lemma AlikeChar.symm {x y : Char} (h : AlikeChar x y) : AlikeChar y x :=
  h.imp Eq.symm And.symm

lemma AlikeChar.eq {x y : Char} (h : AlikeChar x y) (hx : ¬ isInert x) : y = x :=
  h.elim Eq.symm fun h => absurd h.1 hx

lemma Alike.symm {s t : Text} (h : Alike s t) : Alike t s :=
  (List.Forall₂.imp (fun _ _ => AlikeChar.symm) h).flip

lemma Alike.eq {s t : Text} (h : Alike s t) (hs : ∀ x ∈ s, ¬ isInert x) : t = s := by
  induction h with
  | nil => rfl
  | cons hx _ ih =>
    obtain ⟨hi, hs⟩ := List.forall_mem_cons.mp hs
    rw [hx.eq hi, ih hs]

lemma Alike.cons_inv {x : Char} {s t : Text} (h : Alike (x :: s) t) (hx : ¬ isInert x) :
    ∃ u, t = x :: u ∧ Alike s u := by
  obtain ⟨y, u, hxy, hsu, rfl⟩ := List.forall₂_cons_left_iff.mp h
  exact ⟨u, by rw [hxy.eq hx], hsu⟩

lemma Alike.append_inv {a s t : Text} (h : Alike (a ++ s) t) :
    ∃ b u, t = b ++ u ∧ Alike a b ∧ Alike s u := by
  induction a generalizing t with
  | nil => exact ⟨[], t, rfl, .nil, h⟩
  | cons x a ih =>
    obtain ⟨y, u, hxy, hau, rfl⟩ := List.forall₂_cons_left_iff.mp h
    obtain ⟨b, v, rfl, hab, hsv⟩ := ih hau
    exact ⟨y :: b, v, rfl, .cons hxy hab, hsv⟩

lemma not_isInert_of_isQuote {q : Char} (hq : isQuote q) : ¬ isInert q := by
  simp [isInert, hq]

lemma not_isInert_endMark : ∀ x ∈ endMark, ¬ isInert x := by simp [endMark, isInert]

lemma StringBody.alike {q : Char} {b b' : Text} (hq : isQuote q) (hb : StringBody q b)
    (h : Alike b b') : StringBody q b' := by
  induction hb generalizing b' with
  | nil =>
    obtain rfl := List.forall₂_nil_left_iff.mp h
    exact .nil
  | char hcq hcs _ ih =>
    obtain ⟨c', u, hc, hu, rfl⟩ := List.forall₂_cons_left_iff.mp h
    rcases hc with rfl | ⟨-, hi⟩
    · exact .char hcq hcs (ih hu)
    · refine .char ?_ ?_ (ih hu)
      · rintro rfl
        exact not_isInert_of_isQuote hq hi
      · rintro rfl
        exact absurd hi (by decide)
  | escape _ ih =>
    obtain ⟨u, rfl, hu⟩ := h.cons_inv (by decide)
    obtain ⟨c', v, -, hv, rfl⟩ := List.forall₂_cons_left_iff.mp hu
    exact .escape (ih hv)

/-- A mark stands in one of two alike texts where it stands in the other. -/
lemma Alike.isInfix {m s t : Text} (h : Alike s t) (hm : ∀ x ∈ m, ¬ isInert x) (hs : m <:+: s) :
    m <:+: t := by
  obtain ⟨a, c, rfl⟩ := hs
  obtain ⟨u, c', rfl, hu, -⟩ := h.append_inv
  obtain ⟨a', m', rfl, -, hm'⟩ := hu.append_inv
  rw [hm'.eq hm]
  exact ⟨a', c', rfl⟩

/-! ### Texts in lockstep -/

section

variable {s t r : Text} {k : Token}

lemma DiffersInside.alike (h : DiffersInside s t) : Alike s t := by
  refine List.forall₂_iff_get.mpr ⟨h.length, fun i hs ht => ?_⟩
  by_cases heq : s.get ⟨i, hs⟩ = t.get ⟨i, ht⟩
  · exact .inl heq
  · exact .inr (h.inside i _ _ (List.getElem?_eq_getElem hs) (List.getElem?_eq_getElem ht) heq).2

lemma not_inside_cons {i : Nat} {ts : List Token} (hi : i < k.text.length) (hk : ¬ k.Encloses i) :
    ¬ Inside i (k :: ts) := by
  rwa [Inside, if_pos hi]

lemma inside_length_add {i : Nat} {ts : List Token} :
    Inside (k.text.length + i) (k :: ts) ↔ Inside i ts := by
  rw [Inside, if_neg (by omega), Nat.add_sub_cancel_left]

lemma DiffersInside.isPrefix (h : DiffersInside s t) (hk : ∀ i, ¬ k.Encloses i)
    {ts : List Token} (htokens : tokens s = k :: ts) : k.text <+: t := by
  have hs : s = k.text ++ spell ts := by
    rw [← spell_cons, ← htokens, spell_tokens]
  have hlength := h.length
  rw [hs, List.length_append] at hlength
  refine List.prefix_iff_getElem?.mpr fun i hi => ?_
  have hsi : s[i]? = some k.text[i] := by
    rw [hs, List.getElem?_append_left hi, List.getElem?_eq_getElem hi]
  have hit : i < t.length := by omega
  have hti : t[i]? = some t[i] := List.getElem?_eq_getElem hit
  by_contra hne
  rw [hti, Option.some.injEq] at hne
  have hinside := (h.inside i _ _ hsi hti fun heq => hne heq.symm).1
  rw [htokens] at hinside
  exact not_inside_cons hi (hk i) hinside

lemma DiffersInside.behind {u v : Text} (h : DiffersInside (k.text ++ r) (u ++ v))
    (hu : u.length = k.text.length) (htokens : tokens (k.text ++ r) = k :: tokens r) :
    DiffersInside r v := by
  have hlength := h.length
  simp only [List.length_append, hu] at hlength
  refine ⟨by omega, fun i x y hx hy hne => ?_⟩
  have hxi : (k.text ++ r)[k.text.length + i]? = some x := by
    rw [List.getElem?_append_right (by omega), Nat.add_sub_cancel_left, hx]
  have hyi : (u ++ v)[k.text.length + i]? = some y := by
    rw [← hu, List.getElem?_append_right (by omega), Nat.add_sub_cancel_left, hy]
  have hinside := h.inside _ x y hxi hyi hne
  rwa [htokens, inside_length_add] at hinside

/-- **Both texts begin with a token of the same shape.** -/
lemma DiffersInside.exists_lexes (h : DiffersInside s t) (hk : Lexes s k r) :
    ∃ k' v, Lexes t k' v ∧ k'.shape = k.shape ∧ DiffersInside r v := by
  have htokens := hk.tokens_eq
  have hs := hk.text_append
  obtain ⟨u, v, rfl, hu, hv⟩ := (hs ▸ h.alike).append_inv
  have hlength : u.length = k.text.length := hu.length_eq.symm
  have hbehind : DiffersInside r v := DiffersInside.behind (hs ▸ h) hlength (hs ▸ htokens)
  -- where nothing is enclosed the token itself comes again
  have hsame (hnone : ∀ i, ¬ k.Encloses i) : u = k.text :=
    (List.prefix_of_prefix_length_le (h.isPrefix hnone htokens) (List.prefix_append u v)
      hlength.ge).eq_of_length hlength.symm |>.symm
  cases hk with
  | @string q b r hq hb =>
    obtain ⟨w, rfl, hw⟩ := hu.cons_inv (not_isInert_of_isQuote hq)
    obtain ⟨b', e, rfl, hb', he⟩ := hw.append_inv
    obtain rfl := he.eq (by simpa using not_isInert_of_isQuote hq)
    refine ⟨.string (q :: (b' ++ [q])), v, ?_, ?_, hbehind⟩
    · simpa using Lexes.string hq (hb.alike hq hb')
    · simp [Token.shape, List.map_const', hb'.length_eq]
  | @comment b r hb =>
    obtain ⟨w, rfl, hw⟩ := hu.cons_inv (by decide)
    obtain ⟨z, rfl, hz⟩ := hw.cons_inv (by decide)
    obtain ⟨b', e, rfl, hb', he⟩ := hz.append_inv
    obtain rfl := he.eq not_isInert_endMark
    refine ⟨.comment ('/' :: '*' :: (b' ++ endMark)), v, ?_, ?_, hbehind⟩
    · have hstar : Alike (b' ++ ['*']) (b ++ ['*']) :=
        List.rel_append hb'.symm (.cons (.inl rfl) .nil)
      have hend : ¬ endMark <:+: b' ++ ['*'] := fun hm =>
        hb (hstar.isInfix not_isInert_endMark hm)
      simpa [endMark] using Lexes.comment (r := v) hend
    · simp [Token.shape, List.map_const', hb'.length_eq]
  | @openComment b hb =>
    obtain rfl := hsame fun i hi => hb hi.1.isInfix
    obtain rfl := List.forall₂_nil_left_iff.mp hv
    exact ⟨_, [], by simpa [Token.text] using Lexes.openComment hb, rfl, hbehind⟩
  | @char c r hq hc =>
    obtain rfl := hsame fun i hi => hi
    refine ⟨.char c, v, .char hq fun hslash hstar => hc hslash ?_, rfl, hbehind⟩
    obtain ⟨v, rfl⟩ := List.head?_eq_some_iff.mp hstar
    obtain ⟨w, rfl, -⟩ := hv.symm.cons_inv (by decide)
    rfl

/-- **The tokens of both texts have the same shapes.** -/
lemma DiffersInside.map_shape (h : DiffersInside s t) :
    (tokens s).map Token.shape = (tokens t).map Token.shape := by
  induction s using lexes_induction generalizing t with
  | nil =>
    obtain rfl : t = [] := List.eq_nil_of_length_eq_zero h.length.symm
    rfl
  | unclosed q r hq hr =>
    have htokens := scan_unclosed true hq hr
    have hsame : q :: r <+: t := h.isPrefix (k := .unclosed (q :: r)) (fun _ hi => hi) htokens
    rw [hsame.eq_of_length h.length]
  | token s k r hk ih =>
    obtain ⟨k', v, hk', hshape, hv⟩ := h.exists_lexes hk
    rw [hk.tokens_eq, hk'.tokens_eq, List.map_cons, List.map_cons, hshape, ih hv]

end

/-- **What stands inside strings and comments moves no rule.** -/
theorem extents_of_differsInside {s t : Text} (h : DiffersInside s t) :
    (parseRules s).map Rule.extent = (parseRules t).map Rule.extent := by
  rw [parseRules, parse, parseRules, parse, ← extents_shape, h.map_shape, extents_shape]

/-- Braces, a semicolon and an at-sign come and go in two strings and a comment, one of the strings
behind an escape. -/
theorem extents_of_differsInside_two_rules :
    let s : Text := ".a\x7bx:'b\\c'\x7d/*d*/@e('f');".toList
    let t : Text := ".a\x7bx:'\x7d\\\x7b'\x7d/*@*/@e(';');".toList
    DiffersInside s t ∧ (parseRules s).map Rule.extent = (parseRules t).map Rule.extent ∧
      (parseRules t).map Rule.extent = [⟨0, 11, true, false⟩, ⟨16, 24, false, false⟩] := by
  intro s t
  have h : DiffersInside s t := by decide +kernel
  exact ⟨h, extents_of_differsInside h, by decide +kernel⟩

end ClassPurge.Css
