import ClassPurge.Proofs.Css.Leading
import ClassPurge.Proofs.Css.PlainRules

/-!
A stylesheet as a tree of lines, which a semicolon ends, and of blocks in braces with preludes
before them. Its tokens are those of the texts in it, one behind the other, if strings close in each
text and none has a comment or a brace. Then the braces are those of the blocks.
-/

namespace ClassPurge.Css

/-- What stands at one level and in the blocks there. The blanks at the ends of a block are apart
from its content. -/
inductive Sheet
  | tail (text : Text)
  | line (text : Text) (rest : Sheet)
  | block (prelude opening : Text) (inner : Sheet) (closing : Text) (rest : Sheet)

/-- Strings close in the text, and it has no comments, and no braces outside strings. -/
structure IsPhrase (t : Text) : Prop where
  closed : Closed (tokens t)
  plain : Plain (tokens t)
  braceFree : BraceFree (tokens t)

instance (t : Text) : Decidable (IsPhrase t) :=
  decidable_of_iff (Closed (tokens t) ∧ Plain (tokens t) ∧ BraceFree (tokens t))
    ⟨fun ⟨hc, hp, hf⟩ => ⟨hc, hp, hf⟩, fun h => ⟨h.closed, h.plain, h.braceFree⟩⟩

namespace Sheet

def write : Sheet → Text
  | tail t => t
  | line t s => t ++ ';' :: s.write
  | block p a i b s => p ++ '{' :: (a ++ (i.write ++ (b ++ '}' :: s.write)))

def hasBlocks : Sheet → Bool
  | tail _ => false
  | line _ s => s.hasBlocks
  | block .. => true

/-- The selectors of the style rules in their order, each with the number of blocks around it when
the tree stands in `depth` of them. -/
def styles (depth : Nat) : Sheet → List (Nat × Text)
  | tail _ => []
  | line _ s => s.styles depth
  | block p _ i _ s =>
    (if isAtSelector p.strip then [] else [(depth, p.strip)]) ++
      (i.styles (depth + 1) ++ s.styles depth)

/-- The texts between the delimiters are phrases, and blanks stand only where they belong. -/
def Sound : Sheet → Prop
  | tail t => IsPhrase t
  | line t s => IsPhrase t ∧ s.Sound
  | block p a i b s =>
    IsPhrase p ∧ Text.AllBlank a ∧ i.Sound ∧ Text.Trimmed i.write ∧ Text.AllBlank b ∧ s.Sound

/-- The tokens of each text by itself. -/
def tokens : Sheet → List Token
  | tail t => Css.tokens t
  | line t s => Css.tokens t ++ .char ';' :: s.tokens
  | block p a i b s =>
    (Item.block (Css.tokens p) (Css.tokens a ++ (i.tokens ++ Css.tokens b))).tokens ++ s.tokens

lemma spell_tokens (s : Sheet) : spell s.tokens = s.write := by
  induction s with
  | tail t => exact Css.spell_tokens t
  | line t s ih => simp [tokens, write, Token.text, ih]
  | block p a i b s ihi ihs => simp [tokens, write, Item.tokens, Token.text, ihi, ihs]

end Sheet

/-! ### Phrases and blanks -/

/-- Only a comment may run on to the end of the text. -/
lemma Tokenizes.allSealed_dropComments {t r : Text} {ts : List Token} (h : Tokenizes t ts r) :
    AllSealed (dropComments ts) := by
  induction h with
  | nil => exact allSealed_nil
  | @cons t u r k ts hk _ ih =>
    by_cases hc : k.isComment
    · simpa [dropComments, hc] using ih
    · rw [dropComments, List.filter_cons_of_pos (by simpa using hc)]
      refine allSealed_cons.mpr ⟨?_, ih⟩
      cases hk with
      | string hq hb => exact .string hq hb
      | comment hb => exact .comment hb
      | openComment => exact absurd rfl hc
      | char hq _ => exact .char hq

lemma IsPhrase.solid {t : Text} (h : IsPhrase t) : Solid (tokens t) := by
  obtain ⟨r, hr, -⟩ := tokenizes_of_tokens_eq (List.append_nil (tokens t)).symm h.closed
  have hsealed := hr.allSealed_dropComments
  rw [h.plain.dropComments_eq] at hsealed
  exact solid_tokens hsealed

lemma Literal.isPhrase {t : Text} (h : Literal t) : IsPhrase t := by
  have hchar : ∀ k ∈ tokens t, ∃ x ∈ t, .char x = k := by
    rw [h.tokens_eq]
    exact fun k => List.mem_map.mp
  refine ⟨fun k hk hu => ?_, fun k hk hc => ?_, h.tokens_eq ▸ h.braceFree⟩
  · obtain ⟨x, -, rfl⟩ := hchar k hk
    exact hu
  · obtain ⟨x, -, rfl⟩ := hchar k hk
    cases hc

lemma plain_append {ts us : List Token} : Plain (ts ++ us) ↔ Plain ts ∧ Plain us :=
  List.forall_mem_append

lemma braceFree_append {ts us : List Token} :
    BraceFree (ts ++ us) ↔ BraceFree ts ∧ BraceFree us := List.forall_mem_append

lemma BraceFree.not_mem_open {ts : List Token} (h : BraceFree ts) : .char '{' ∉ ts :=
  fun hk => h _ hk (.inl rfl)

lemma Void.head?_ne {v : List Token} (h : Void v) : v.head? ≠ some (.char '*') := fun hk =>
  h.not_mem_char (by decide) (List.mem_of_mem_head? hk)

/-! ### Balanced braces -/

lemma balanced_append {ts us : List Token} {d : Nat} (ht : Balanced 0 ts) (hu : Balanced d us) :
    Balanced d (ts ++ us) := by
  have hts := ht.1
  refine ⟨?_, fun p hp => ?_⟩
  · have hus := hu.1
    rw [List.count_append, List.count_append]
    omega
  · obtain ⟨r, hr⟩ := hp
    rcases List.append_eq_append_iff.mp hr with ⟨q, rfl, -⟩ | ⟨q, rfl, rfl⟩
    · have hpart := ht.2 p (List.prefix_append p q)
      omega
    · have hpart := hu.2 q (List.prefix_append q r)
      rw [List.count_append, List.count_append]
      omega

lemma balanced_block {p b : List Token} (hp : BraceFree p) (hb : Balanced 0 b) :
    Balanced 0 (Item.block p b).tokens := by
  have hclose : Balanced 1 [.char '}'] := (balanced_cons (by simp)).mpr (balanced_nil.mpr rfl)
  have hopen : Balanced 0 (.char '{' :: (b ++ [.char '}'])) :=
    (balanced_cons (by simp)).mpr (balanced_append hb hclose)
  exact balanced_append (balanced_of_braceFree hp) hopen

lemma isBlock_of_phrase {p : Text} {b : List Token} (hp : IsPhrase p) (hb : Solid b)
    (hbal : Balanced 0 b) : IsBlock (tokens p) b := by
  have hrest : Solid (.char '{' :: (b ++ [.char '}'])) :=
    (hb.append_char (by decide) (by decide)).cons_char (by decide) (by decide)
  exact ⟨hp.solid.append hrest fun _ => by simp, hp.braceFree, hbal⟩

namespace Sheet

/-! ### The tokens of a tree -/

/-- The tokens are read back, and have no comments, and their braces are balanced. -/
structure Reads (ts : List Token) : Prop where
  solid : Solid ts
  plain : Plain ts
  balanced : Balanced 0 ts

lemma reads_phrase {t : Text} (h : IsPhrase t) : Reads (Css.tokens t) :=
  ⟨h.solid, h.plain, balanced_of_braceFree h.braceFree⟩

lemma Reads.padded {ts : List Token} (h : Reads ts) {a b : Text} (ha : Text.AllBlank a)
    (hb : Text.AllBlank b) : Reads (Css.tokens a ++ (ts ++ Css.tokens b)) := by
  have hbefore := reads_phrase (literal_of_allBlank ha).isPhrase
  have hbehind := reads_phrase (literal_of_allBlank hb).isPhrase
  have hva := (allBlank_tokens ha).void
  have hvb := (allBlank_tokens hb).void
  have hend : Solid (ts ++ Css.tokens b) := h.solid.append hbehind.solid fun _ => hvb.head?_ne
  exact ⟨hbefore.solid.append hend fun hl => absurd hl hva.getLast?_ne,
    plain_append.mpr ⟨hbefore.plain, plain_append.mpr ⟨h.plain, hbehind.plain⟩⟩,
    balanced_append hbefore.balanced (balanced_append h.balanced hbehind.balanced)⟩

lemma Sound.reads {s : Sheet} (h : s.Sound) : Reads s.tokens := by
  induction s with
  | tail t => exact reads_phrase h
  | line t s ih =>
    obtain ⟨ht, hs⟩ := h
    obtain ⟨hsolid, hplain, hbal⟩ := ih hs
    have hsemi : Solid (.char ';' :: s.tokens) := hsolid.cons_char (by decide) (by decide)
    exact ⟨ht.solid.append hsemi fun _ => by simp,
      plain_append.mpr ⟨ht.plain, List.forall_mem_cons.mpr ⟨by decide, hplain⟩⟩,
      balanced_append (balanced_of_braceFree ht.braceFree) ((balanced_cons (by simp)).mpr hbal)⟩
  | block p a i b s ihi ihs =>
    obtain ⟨hp, ha, hi, -, hb, hs⟩ := h
    obtain ⟨hsolid, hplain, hbal⟩ := ihs hs
    have hin := (ihi hi).padded ha hb
    have hblock := isBlock_of_phrase hp hin.solid hin.balanced
    refine ⟨hblock.solid.append hsolid fun hl => absurd hl (getLast?_block _ _),
      plain_append.mpr ⟨?_, hplain⟩,
      balanced_append (balanced_block hp.braceFree hin.balanced) hbal⟩
    refine plain_append.mpr ⟨hp.plain, List.forall_mem_cons.mpr ⟨by decide, ?_⟩⟩
    exact plain_append.mpr ⟨hin.plain, by simp [Plain, Token.isComment]⟩

lemma Sound.mem_open {s : Sheet} (h : s.Sound) : .char '{' ∈ s.tokens ↔ s.hasBlocks = true := by
  induction s with
  | tail t => simpa [tokens, hasBlocks] using BraceFree.not_mem_open h.braceFree
  | line t s ih =>
    have ht := h.1.braceFree.not_mem_open
    simp [tokens, hasBlocks, ht, ih h.2]
  | block p a i b s ihi ihs => simp [tokens, hasBlocks, Item.tokens]

lemma le_of_mem_styles {s : Sheet} {d : Nat} {x : Nat × Text} (h : x ∈ s.styles d) : d ≤ x.1 := by
  induction s generalizing d with
  | tail t => cases h
  | line t s ih => exact ih h
  | block p a i b s ihi ihs =>
    rw [styles, List.mem_append, List.mem_append] at h
    rcases h with h | h | h
    · split at h
      · cases h
      · rw [List.mem_singleton.mp h]
    · have := ihi h
      omega
    · exact ihs h

/-- The selectors are the same wherever the tree stands. -/
lemma map_styles (s : Sheet) (d e : Nat) :
    (s.styles d).map Prod.snd = (s.styles e).map Prod.snd := by
  induction s generalizing d e with
  | tail t => rfl
  | line t s ih => exact ih d e
  | block p a i b s ihi ihs =>
    simp only [styles, List.map_append, ihi (d + 1) (e + 1), ihs d e]
    split <;> rfl

lemma styles_of_hasBlocks {s : Sheet} (h : s.hasBlocks = false) (d : Nat) : s.styles d = [] := by
  induction s generalizing d with
  | tail t => rfl
  | line t s ih => exact ih h d
  | block => cases h

lemma Sound.mem_open_padded {i : Sheet} {a b : Text} (hi : i.Sound) (ha : Text.AllBlank a)
    (hb : Text.AllBlank b) :
    .char '{' ∈ Css.tokens a ++ (i.tokens ++ Css.tokens b) ↔ i.hasBlocks = true := by
  have hbefore := (allBlank_tokens ha).void.not_mem_char (c := '{') (by decide)
  have hbehind := (allBlank_tokens hb).void.not_mem_char (c := '{') (by decide)
  simp [hbefore, hbehind, hi.mem_open]

end Sheet

end ClassPurge.Css
