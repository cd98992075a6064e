import ClassPurge.Console.Markup
import ClassPurge.Files.Tree
import ClassPurge.Proofs.Text.Digits
import ClassPurge.Proofs.Text.Parts

/-!
Messages without tags. They can always be said: the only tags are then those that the tone of the
message puts around it.
-/

namespace ClassPurge.Console

/-- No bracket stands before a character that can begin a tag. -/
inductive Untagged : Text → Prop
  | nil : Untagged []
  | cons {c : Char} {t : Text} (hc : c ≠ '[') (ht : Untagged t) : Untagged (c :: t)
  | bracket {t : Text} (h : ∀ d ∈ t.head?, ¬ isTagStart d) (ht : Untagged t) : Untagged ('[' :: t)

lemma Untagged.append {u t : Text} (hu : '[' ∉ u) (ht : Untagged t) : Untagged (u ++ t) := by
  induction u with
  | nil => exact ht
  | cons c u ih =>
    obtain ⟨hc, hu⟩ := List.ne_and_not_mem_of_not_mem_cons hu
    exact .cons hc.symm (ih hu)

/-- No tag begins where the first text ends. -/
lemma Untagged.append_of_not_start {t u : Text} (ht : Untagged t) (hu : Untagged u)
    (h : ∀ d ∈ u.head?, ¬ isTagStart d) : Untagged (t ++ u) := by
  induction ht with
  | nil => exact hu
  | cons hc _ ih => exact .cons hc ih
  | @bracket t hstart _ ih =>
    refine .bracket (fun d hd => ?_) ih
    cases t with
    | nil => exact h d hd
    | cons c t => exact hstart d hd

lemma untagged_of_not_mem {t : Text} (h : '[' ∉ t) : Untagged t := by
  simpa using Untagged.append h .nil

lemma tagBody?_of_not_start {t : Text} (h : ∀ d ∈ t.head?, ¬ isTagStart d) : tagBody? t = none := by
  cases t with
  | nil => rfl
  | cons c r =>
    rw [tagBody?, if_neg (h c rfl)]

lemma tagBody?_append {c : Char} {name : Text} (hc : isTagStart c)
    (hname : name.all fun d => d != ']' && d != '[') (r : Text) :
    tagBody? (c :: name ++ ']' :: r) = some (c :: name, r) := by
  have hcut : Text.cut? (fun d => d == ']' || d == '[') (name ++ ']' :: r) =
      some (name, ']', r) :=
    Text.cut?_append (fun d hd => by simpa using List.all_eq_true.mp hname d hd) rfl r
  rw [List.cons_append, tagBody?, if_pos hc, hcut]
  rfl

lemma pieces_tag {t body r : Text} (h : tagBody? t = some (body, r)) (before : Text)
    (slashes offset : Nat) : pieces before slashes offset ('[' :: t) =
      .shown before.reverse :: .shown (backslashes (slashes / 2)) ::
        (if slashes % 2 = 1 then .shown ('[' :: body ++ [']']) else .tag body offset) ::
          pieces [] 0 (offset + body.length + 2) r := by
  rw [pieces, if_neg (by decide), if_pos rfl]
  split
  · rename_i heq
    rw [h] at heq
    cases heq
    rfl
  · rename_i heq
    rw [h] at heq
    cases heq

/-- The pieces of a text without tags, and then of one that begins with a tag. -/
lemma pieces_untagged {u : Text} (hu : Untagged u) (before : Text) (slashes offset : Nat)
    (r : Text) : ∃ before' slashes' offset', pieces before slashes offset (u ++ '[' :: r) =
      pieces before' slashes' offset' ('[' :: r) := by
  induction hu generalizing before slashes offset with
  | nil => exact ⟨_, _, _, rfl⟩
  | @cons c t hc ht ih =>
    rw [List.cons_append, pieces]
    split
    · exact ih _ _ _
    · exact ih _ _ _
  | @bracket t h ht ih =>
    have hnone : tagBody? (t ++ '[' :: r) = none := by
      refine tagBody?_of_not_start fun d hd => ?_
      cases t with
      | nil => cases hd; decide
      | cons c t => exact h d hd
    rw [List.cons_append, pieces, if_neg (by decide), if_pos rfl]
    split
    · rename_i heq
      rw [hnone] at heq
      cases heq
    · exact ih _ _ _

/-! ### Tones -/

/-- A word that is no function of numbers is a colour or is not. -/
lemma colourOf_ne_badNumber {w : Text} (hcolor : Style.bracketed? "color(" (Text.lower w) = none)
    (hrgb : Style.bracketed? "rgb(" (Text.lower w) = none) (u : Spelled.Unread) :
    Style.colourOf w ≠ .error (.badNumber u) := by
  rw [Style.colourOf, hcolor, hrgb]
  dsimp only
  split <;> rintro ⟨⟩

/-- The name of a tone is one word, and no attribute. -/
lemma ofWords_tone (tone : Tone) : Style.ofWords .none [tone.name.toList] = (do
    let c ← Style.colourOf tone.name.toList
    Style.ofWords { Style.none with colour := some c } []) := by
  cases tone <;> rfl

lemma exists_nameOf (tone : Tone) : ∃ n, nameOf tone.name.toList = .ok n := by
  have hwords : Text.words tone.name.toList = [tone.name.toList] := by
    cases tone <;> decide +kernel
  have hcolour (u : Spelled.Unread) :
      Style.colourOf tone.name.toList ≠ .error (.badNumber u) := by
    cases tone <;> exact colourOf_ne_badNumber (by decide +kernel) (by decide +kernel) u
  have hstyle : ∃ n, styleName tone.name.toList = .ok n := by
    rw [styleName, hwords, ofWords_tone]
    split
    · exact ⟨_, rfl⟩
    · cases hc : Style.colourOf tone.name.toList with
      | ok c => exact ⟨_, rfl⟩
      | error f =>
        cases f with
        | unknown => exact ⟨_, rfl⟩
        | badNumber u => exact absurd hc (hcolour u)
  obtain ⟨n, hn⟩ := hstyle
  exact ⟨n, by rw [nameOf, hn]⟩

lemma tagBody?_tone (tone : Tone) (r : Text) :
    tagBody? (tone.name.toList ++ ']' :: r) = some (tone.name.toList, r) ∧
      tagBody? ('/' :: tone.name.toList ++ ']' :: r) = some ('/' :: tone.name.toList, r) := by
  cases tone <;> exact ⟨tagBody?_append rfl (by decide) r, tagBody?_append rfl (by decide) r⟩

lemma shownText_tone {tone : Tone} {n : Text} (hn : nameOf tone.name.toList = .ok n)
    (opened : List Opened) (offset : Nat) (ps : List Piece) :
    shownText opened (.tag tone.name.toList offset :: ps) =
      shownText (⟨n, none⟩ :: opened) ps := by
  have hname : tone.name.toList.takeWhile (· != '=') = tone.name.toList := by
    cases tone <;> rfl
  rw [shownText.eq_def]
  dsimp only
  rw [hname]
  split
  · rename_i h
    cases tone <;> cases h
  · rw [hn, if_neg (Nat.lt_irrefl _)]
    rfl

lemma shownText_tone_end {tone : Tone} {n : Text} (hn : nameOf tone.name.toList = .ok n)
    (opened : List Opened) (offset : Nat) (ps : List Piece) :
    shownText (⟨n, none⟩ :: opened) (.tag ('/' :: tone.name.toList) offset :: ps) =
      shownText opened ps := by
  have hname : ('/' :: tone.name.toList).takeWhile (· != '=') = '/' :: tone.name.toList := by
    cases tone <;> rfl
  have hstrip : Text.strip tone.name.toList = tone.name.toList := by
    cases tone <;> decide +kernel
  have hempty : tone.name.toList.isEmpty = false := by
    cases tone <;> rfl
  rw [shownText.eq_def]
  dsimp only
  rw [hname]
  split
  · rename_i closed hclosed
    obtain rfl : tone.name.toList = closed := by injection hclosed
    rw [hstrip, if_neg (by simp [hempty]), hn]
    have hfind : (⟨n, none⟩ :: opened).find? (fun o : Opened => o.name == n) = some ⟨n, none⟩ := by
      simp
    have herase : (⟨n, none⟩ :: opened).eraseP (fun o : Opened => o.name == n) = opened := by
      simp
    simp only [bind, Except.bind, hfind, herase, Opened.close]
  · rename_i hnot
    exact absurd rfl (hnot _)

lemma exists_shownText_shown {opened : List Opened} {ps : List Piece}
    (h : ∃ u, shownText opened ps = .ok u) (t : Text) :
    ∃ u, shownText opened (.shown t :: ps) = .ok u := by
  obtain ⟨u, hu⟩ := h
  rw [shownText.eq_def]
  dsimp only
  rw [hu]
  exact ⟨_, rfl⟩

/-- What ends in the closing tag of the only open style can be shown. -/
lemma exists_shownText_end {tone : Tone} {n : Text} (hn : nameOf tone.name.toList = .ok n)
    (before : Text) (slashes offset : Nat) :
    ∃ u, shownText [⟨n, none⟩]
      (pieces before slashes offset ('[' :: ('/' :: tone.name.toList ++ [']']))) = .ok u := by
  have hnil (opened : List Opened) (k : Nat) :
      ∃ u, shownText opened (pieces [] 0 k []) = .ok u := by
    rw [pieces]
    exact exists_shownText_shown ⟨_, rfl⟩ _
  rw [pieces_tag (tagBody?_tone tone []).2]
  refine exists_shownText_shown (exists_shownText_shown ?_ _) _
  -- Behind an odd number of backslashes the tag is shown itself, and the style stays open.
  split
  · exact exists_shownText_shown (hnil _ _) _
  · rw [shownText_tone_end hn]
    exact hnil _ _

lemma say_of_untagged {t : Text} (h : Untagged t) (tone : Tone) : ∃ l, tone.say t = .ok l := by
  obtain ⟨n, hn⟩ := exists_nameOf tone
  have hsign : Untagged (tone.sign.toList ++ t) := by
    cases tone <;> exact Untagged.append (by decide) h
  have htext : s!"[{tone.name}]".toList ++ (tone.sign.toList ++ t) ++ s!"[/{tone.name}]".toList =
      '[' :: (tone.name.toList ++ ']' ::
        (tone.sign.toList ++ t ++ '[' :: ('/' :: tone.name.toList ++ [']']))) := by
    simp [toString]
  have hstyled : ∃ u, styled tone.name (tone.sign.toList ++ t) = .ok u := by
    obtain ⟨b, k, o, hpieces⟩ := pieces_untagged hsign [] 0 (0 + tone.name.toList.length + 2)
      ('/' :: tone.name.toList ++ [']'])
    rw [styled, htext, plain, pieces_tag (tagBody?_tone tone _).1, hpieces, if_neg (by decide)]
    refine exists_shownText_shown (exists_shownText_shown ?_ _) _
    rw [shownText_tone hn]
    exact exists_shownText_end hn b k o
  obtain ⟨u, hu⟩ := hstyled
  exact ⟨onScreen u ++ ['\n'], by rw [Tone.say, hu]; rfl⟩

/-! ### Why a file cannot be read -/

lemma bracket_not_mem_hex (width n : Nat) : '[' ∉ Text.hex width n :=
  fun h => forall_mem_hex (P := ('[' ≠ ·)) (by decide) width n _ h rfl

lemma bracket_not_mem_quoted {t : Text} (h : '[' ∉ t) : '[' ∉ t.quoted := by
  have hchar (q c : Char) (hc : c ≠ '[') : '[' ∉ Text.quoteChar q c := by
    unfold Text.quoteChar
    repeat' split
    all_goals simp [hc.symm, bracket_not_mem_hex]
  have hq : '[' ≠ if t.contains '\'' && !t.contains '"' then '"' else '\'' := by
    split <;> decide
  rw [Text.quoted]
  simp only [List.cons_append, List.mem_cons, List.mem_append, List.mem_flatMap, List.not_mem_nil,
    or_false, not_or, not_exists, not_and]
  exact ⟨hq, fun c hc => hchar _ c (fun heq => h (heq ▸ hc)), hq⟩

lemma bracket_not_mem_toString (n : Nat) : '[' ∉ (toString n).toList := by
  intro h
  refine forall_mem_toString_nat (P := ('[' ≠ ·)) (fun c hc => ?_) n _ h rfl
  rintro rfl
  cases hc

lemma bracket_not_mem_append {s t : String} :
    '[' ∉ (s ++ t).toList ↔ '[' ∉ s.toList ∧ '[' ∉ t.toList := by
  rw [String.toList_append, List.mem_append, not_or]

lemma untagged_decodeError (e : Bytes.DecodeError) : Untagged e.message.toList := by
  have hreason : '[' ∉ e.fault.reason.toList := by
    cases e.fault <;> decide
  have hhex : '[' ∉ (String.ofList (Text.hex 2 e.byte.toNat)).toList := by
    rw [String.toList_ofList]
    exact bracket_not_mem_hex _ _
  have hwhole (place : String) (h : '[' ∉ place.toList) : '[' ∉
      (toString "'utf-8' codec can't decode " ++ toString place ++ toString ": " ++
        toString e.fault.reason).toList := by
    simp only [bracket_not_mem_append]
    exact ⟨⟨⟨by decide, h⟩, by decide⟩, hreason⟩
  refine untagged_of_not_mem (hwhole _ ?_)
  split
  · simp only [bracket_not_mem_append]
    exact ⟨⟨⟨by decide, hhex⟩, by decide⟩, bracket_not_mem_toString _⟩
  · simp only [bracket_not_mem_append]
    exact ⟨⟨⟨by decide, bracket_not_mem_toString _⟩, by decide⟩, bracket_not_mem_toString _⟩

/-- The number of the fault stands in brackets, but no tag begins with a capital letter. -/
lemma untagged_fault {p : Text} (h : '[' ∉ p) (f : Files.Fault) :
    Untagged (f.message p).toList := by
  have hreason : '[' ∉ f.reason.toList := by
    cases f <;> decide
  have hquoted : '[' ∉ p.quoted.string.toList := by
    rw [Text.string, String.toList_ofList]
    exact bracket_not_mem_quoted h
  have hwhole (rest : String) (hrest : '[' ∉ rest.toList) :
      Untagged ("[Errno " ++ rest).toList := by
    rw [String.toList_append, show "[Errno ".toList = '[' :: "Errno ".toList from rfl,
      List.cons_append]
    refine .bracket (fun d hd => ?_) (.append (by decide) (untagged_of_not_mem hrest))
    cases hd
    decide
  rw [Files.Fault.message]
  split
  · exact untagged_of_not_mem hreason
  · simp only [String.append_assoc]
    refine hwhole _ ?_
    simp only [bracket_not_mem_append]
    exact ⟨bracket_not_mem_toString _, by decide, hreason, by decide, hquoted⟩

end ClassPurge.Console
