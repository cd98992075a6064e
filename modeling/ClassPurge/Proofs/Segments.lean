import ClassPurge.Proofs.Css.Joining
import ClassPurge.Proofs.Text.Parts
import ClassPurge.Purge

/-!
What becomes of each part of a stylesheet. The gaps, the rules and the rest behind the last rule
tile the text. Purging writes every part at most once, and the only rules it leaves out are the
block rules that do not stay.
-/

namespace ClassPurge.Purge

open Css

/-- A part of a stylesheet: what stands before a rule, a rule, or what follows the last one. -/
inductive Segment
  | gap (start stop : Nat)
  | rule (r : Rule)
  | tail (start stop : Nat)
  deriving DecidableEq, Repr

inductive Fate
  | carried
  | kept
  | dropped
  deriving DecidableEq, Repr

namespace Segment

def start : Segment → Nat
  | gap i _ | tail i _ => i
  | rule r => r.start

def stop : Segment → Nat
  | gap _ j | tail _ j => j
  | rule r => r.stop

def text (css : Text) (s : Segment) : Text := css.slice s.start s.stop

def rule? : Segment → Option Rule
  | rule r => some r
  | _ => none

/-- Blank parts and block rules that do not stay are dropped, block rules that stay are kept, and
all else is carried over. -/
def fate (c : Config) (used : TextSet) (css : Text) : Segment → Fate
  | rule r => if r.hasBlock then (if c.keeps used r then .kept else .dropped) else .carried
  | s => if (s.text css).strip.isEmpty then .dropped else .carried

/-- What is written for a part that is not dropped: its text, stripped, or the rule anew. -/
def written (css : Text) : Segment → Text
  | rule r => if r.hasBlock then r.format css else (r.source css).strip
  | s => (s.text css).strip

end Segment

/-- The parts from `cursor` on, cut at the offsets of the rules. -/
def segmentsFrom (css : Text) (cursor : Nat) : List Rule → List Segment
  | [] => [.tail cursor css.length]
  | r :: rs => .gap cursor r.start :: .rule r :: segmentsFrom css r.stop rs

def segments (css : Text) : List Segment := segmentsFrom css 0 (parseRules css)

/-- The parts stand one behind the other from `i` to `j`. -/
def Tiles (i j : Nat) : List Segment → Prop
  | [] => i = j
  | s :: ss => s.start = i ∧ i ≤ s.stop ∧ Tiles s.stop j ss

def withFate (f : Fate) (c : Config) (used : TextSet) (css : Text) : List Segment :=
  (segments css).filter fun s => s.fate c used css = f

/-- What is written, in its order. -/
def emitted (c : Config) (used : TextSet) (css : Text) : List Segment :=
  withFate .carried c used css ++ withFate .kept c used css

/-- Nothing of a stylesheet is lost but the rules that do not stay. -/
structure Accounted (c : Config) (used : TextSet) (css : Text) : Prop where
  tiles : Tiles 0 css.length (segments css)
  spelled : (segments css).flatMap (Segment.text css) = css
  rules : (segments css).filterMap Segment.rule? = parseRules css
  gaps : ∀ i j : Nat, .gap i j ∈ segments css → IsTrivia (css.slice i j)
  output : c.purge used css = assemble ((emitted c used css).map (Segment.written css))
  once : (emitted c used css).Nodup
  missing : ∀ s ∈ segments css, s ∉ emitted c used css →
    s.rule? = none ∧ (s.text css).strip = [] ∨
      ∃ r, s = .rule r ∧ r.hasBlock = true ∧ c.keeps used r = false

/-! ### The parts and the pieces that were read -/

lemma filterMap_rule? (css : Text) (n : Nat) (rs : List Rule) :
    (segmentsFrom css n rs).filterMap Segment.rule? = rs := by
  induction rs generalizing n with
  | nil => rfl
  | cons r rs ih =>
    have hr : (Segment.rule r).rule? = some r := rfl
    rw [segmentsFrom, List.filterMap_cons_none rfl, List.filterMap_cons_some hr, ih]

/-- The text from `n` on is the pieces `ps` and what follows them. -/
structure StandsAt (css : Text) (n : Nat) (ps : List Piece) (r : Text) : Prop where
  le : n ≤ css.length
  drop : css.drop n = spell (piecesTokens ps) ++ r

section

variable {css r : Text} {n : Nat} {p : Piece} {ps : List Piece}

lemma StandsAt.drop_start (h : StandsAt css n (p :: ps) r) :
    css.drop (p.start n) = spell p.item.tokens ++ (spell (piecesTokens ps) ++ r) := by
  refine Text.drop_of_drop (a := spell p.gap) ?_
  rw [h.drop]
  simp

lemma StandsAt.next (h : StandsAt css n (p :: ps) r) : StandsAt css (p.stop n) ps r := by
  refine ⟨?_, Text.drop_of_drop h.drop_start⟩
  have hd := congrArg List.length h.drop
  have hle := h.le
  simp only [List.length_drop, piecesTokens_cons, spell_append, List.length_append] at hd
  simp only [Piece.stop, Piece.start]
  omega

lemma StandsAt.gap_text (h : StandsAt css n (p :: ps) r) :
    css.slice n (p.start n) = spell p.gap := by
  refine Text.slice_of_drop (b := spell p.item.tokens ++ (spell (piecesTokens ps) ++ r)) ?_
  rw [h.drop]
  simp

lemma StandsAt.source (h : StandsAt css n (p :: ps) r) :
    (p.rule n).source css = spell p.item.tokens := by
  rw [Rule.source, Piece.rule_start, Piece.rule_stop]
  exact Text.slice_of_drop h.drop_start

end

variable {css r : Text} {n : Nat} {ps : List Piece}

lemma tiles_segments (h : StandsAt css n ps r) :
    Tiles n css.length (segmentsFrom css n (alongPieces Piece.rule n ps)) := by
  induction ps generalizing n with
  | nil => exact ⟨rfl, h.le, rfl⟩
  | cons p ps ih =>
    refine ⟨rfl, ?_, ?_, ?_, ?_⟩
    · simp [Segment.stop, Piece.start]
    · rfl
    · simp [Segment.stop, Piece.stop]
    · simpa [Segment.stop] using ih h.next

lemma spell_segments (h : StandsAt css n ps r) :
    (segmentsFrom css n (alongPieces Piece.rule n ps)).flatMap (Segment.text css) =
      css.drop n := by
  induction ps generalizing n with
  | nil => simp [alongPieces, segmentsFrom, Segment.text, Segment.start, Segment.stop,
      Text.slice_end]
  | cons p ps ih =>
    have hgap : Segment.text css (.gap n (p.rule n).start) = spell p.gap := by
      rw [Piece.rule_start]
      exact h.gap_text
    have hrule : Segment.text css (.rule (p.rule n)) = spell p.item.tokens := h.source
    rw [alongPieces, segmentsFrom, List.flatMap_cons, List.flatMap_cons, hgap, hrule,
      Piece.rule_stop, ih h.next, h.next.drop, h.drop]
    simp

lemma gap_segments (h : StandsAt css n ps r) {i j : Nat}
    (hm : .gap i j ∈ segmentsFrom css n (alongPieces Piece.rule n ps)) :
    ∃ p ∈ ps, css.slice i j = spell p.gap := by
  induction ps generalizing n with
  | nil => simp [alongPieces, segmentsFrom] at hm
  | cons p ps ih =>
    rw [alongPieces, segmentsFrom, List.mem_cons, List.mem_cons, Piece.rule_stop] at hm
    rcases hm with hm | hm | hm
    · obtain ⟨rfl, rfl⟩ := Segment.gap.inj hm
      rw [Piece.rule_start]
      exact ⟨p, List.mem_cons_self, h.gap_text⟩
    · cases hm
    · obtain ⟨q, hq, hqs⟩ := ih h.next hm
      exact ⟨q, List.mem_cons_of_mem _ hq, hqs⟩

lemma le_start_of_tiles {i j : Nat} {ss : List Segment} (h : Tiles i j ss) {s : Segment}
    (hs : s ∈ ss) : i ≤ s.start := by
  induction ss generalizing i with
  | nil => simp at hs
  | cons t ss ih =>
    obtain ⟨rfl, hle, h⟩ := h
    rcases List.mem_cons.mp hs with rfl | hs
    · exact Nat.le_refl _
    · exact Nat.le_trans hle (ih h hs)

lemma nodup_segments (h : StandsAt css n ps r) :
    (segmentsFrom css n (alongPieces Piece.rule n ps)).Nodup := by
  induction ps generalizing n with
  | nil => simp [alongPieces, segmentsFrom]
  | cons p ps ih =>
    have hpos : 0 < (spell p.item.tokens).length := p.item.spell_length_pos
    have hlater : ∀ s ∈ segmentsFrom css (p.stop n) (alongPieces Piece.rule (p.stop n) ps),
        p.stop n ≤ s.start := fun s => le_start_of_tiles (tiles_segments h.next)
    have hstop : n + (spell p.gap).length + (spell p.item.tokens).length = p.stop n := rfl
    rw [alongPieces, segmentsFrom, Piece.rule_stop, List.nodup_cons, List.nodup_cons]
    refine ⟨?_, ?_, ih h.next⟩
    · intro hm
      rcases List.mem_cons.mp hm with hm | hm
      · cases hm
      · have : p.stop n ≤ n := hlater _ hm
        omega
    · intro hm
      have := hlater _ hm
      rw [Segment.start, Piece.rule_start, Piece.start] at this
      omega

/-! ### What is written -/

section

variable (c : Config) (used : TextSet) (css : Text)

/-- What is written for a part among the parts with a fate. -/
def writtenFor (f : Fate) (s : Segment) : List Text :=
  if s.fate c used css = f then [s.written css] else []

lemma map_written_filter (f : Fate) (ss : List Segment) :
    (ss.filter fun s => s.fate c used css = f).map (Segment.written css) =
      ss.flatMap (writtenFor c used css f) := by
  induction ss with
  | nil => rfl
  | cons s ss ih =>
    rw [List.filter_cons, List.flatMap_cons, ← ih, writtenFor]
    split <;> simp_all

lemma nonBlank_eq {s : Segment} (hs : s.rule? = none) :
    nonBlank (s.text css) = writtenFor c used css .carried s := by
  by_cases hb : (s.text css).strip.isEmpty <;>
    cases s <;> simp_all [nonBlank, writtenFor, Segment.fate, Segment.written, Segment.rule?]

lemma recoveredFrom_eq (n : Nat) (rs : List Rule) : recoveredFrom css n rs =
    (segmentsFrom css n rs).flatMap (writtenFor c used css .carried) := by
  induction rs generalizing n with
  | nil =>
    have ht : Segment.text css (.tail n css.length) = css.drop n := Text.slice_end css n
    rw [recoveredFrom, ← ht, nonBlank_eq c used css rfl, segmentsFrom, List.flatMap_singleton]
  | cons r rs ih =>
    have hg : Segment.text css (.gap n r.start) = (css.drop n).take (r.start - n) :=
      Text.slice_eq css n r.start
    have hr : (if r.hasBlock then [] else [(r.source css).strip]) =
        writtenFor c used css .carried (.rule r) := by
      cases hb : r.hasBlock <;> cases hk : c.keeps used r <;>
        simp [writtenFor, Segment.fate, Segment.written, hb, hk]
    rw [recoveredFrom, ← hg, nonBlank_eq c used css rfl, hr, ih, segmentsFrom, List.flatMap_cons,
      List.flatMap_cons, List.append_assoc]

lemma kept_eq (n : Nat) (rs : List Rule) : (kept c used rs).map (fun r => r.format css) =
    (segmentsFrom css n rs).flatMap (writtenFor c used css .kept) := by
  have hnone {s : Segment} (hs : s.rule? = none) : writtenFor c used css .kept s = [] := by
    cases s <;> simp_all [writtenFor, Segment.fate, Segment.rule?] <;> split <;> simp
  induction rs generalizing n with
  | nil => rw [segmentsFrom, List.flatMap_singleton, hnone rfl, kept, List.filter_nil, List.map_nil]
  | cons r rs ih =>
    rw [segmentsFrom, List.flatMap_cons, List.flatMap_cons, hnone rfl, List.nil_append, ← ih r.stop]
    cases hb : r.hasBlock <;> cases hk : c.keeps used r <;>
      simp [kept, writtenFor, Segment.fate, Segment.written, hb, hk]

lemma purge_eq (h : c.enabled = true) :
    c.purge used css = assemble ((emitted c used css).map (Segment.written css)) := by
  rw [Config.purge, if_pos h, blocks, emitted, List.map_append, withFate, withFate,
    map_written_filter, map_written_filter, segments, recoveredFrom_eq c used, kept_eq c used css 0]

lemma fate_of_not_mem_emitted {s : Segment} (hs : s ∈ segments css)
    (h : s ∉ emitted c used css) : s.fate c used css = .dropped := by
  simp only [emitted, withFate, List.mem_append, List.mem_filter, decide_eq_true_eq, not_or,
    not_and] at h
  cases hf : s.fate c used css with
  | carried => exact absurd hf (h.1 hs)
  | kept => exact absurd hf (h.2 hs)
  | dropped => rfl

lemma dropped_iff {s : Segment} : s.fate c used css = .dropped ↔
    s.rule? = none ∧ (s.text css).strip = [] ∨
      ∃ r, s = .rule r ∧ r.hasBlock = true ∧ c.keeps used r = false := by
  cases s with
  | rule r => cases hb : r.hasBlock <;> cases hk : c.keeps used r <;>
      simp [Segment.fate, Segment.rule?, hb, hk]
  | gap i j => simp [Segment.fate, Segment.rule?]
  | tail i j => simp [Segment.fate, Segment.rule?]

/-- **Purging accounts for the whole stylesheet.** -/
theorem purge_accounted (h : c.enabled = true) : Accounted c used css := by
  obtain ⟨ps, r, hps, -, hrules, -⟩ := exists_longest css
  have hat : StandsAt css 0 ps r := ⟨Nat.zero_le _, hps.spell_append⟩
  have hseg : segments css = segmentsFrom css 0 (alongPieces Piece.rule 0 ps) := by
    rw [segments, hrules]
  have hnodup : (segments css).Nodup := hseg ▸ nodup_segments hat
  refine ⟨hseg ▸ tiles_segments hat, hseg ▸ spell_segments hat, filterMap_rule? css 0 _, ?_,
    purge_eq c used css h, ?_, ?_⟩
  · intro i j hij
    obtain ⟨p, hp, htext⟩ := gap_segments hat (hseg ▸ hij)
    rw [htext]
    exact hps.isTrivia_gap hp
  · refine List.nodup_append.mpr ⟨hnodup.filter _, hnodup.filter _, ?_⟩
    rintro s hs t ht rfl
    simp only [withFate, List.mem_filter, decide_eq_true_eq] at hs ht
    simp [hs.2] at ht
  · intro s hs hout
    exact (dropped_iff c used css).mp (fate_of_not_mem_emitted c used css hs hout)

/-- A comment, a rule that goes, one that stays, and an open block. -/
theorem purge_accounted_open_block : Config.default.enabled = true ∧
    Accounted Config.default (TextSet.ofList [['a']])
      ['/', '*', '*', '/', '.', 'b', '{', '}', '.', 'a', '{', '}', '.', 'c', '{'] :=
  ⟨rfl, purge_accounted Config.default (TextSet.ofList [['a']])
    ['/', '*', '*', '/', '.', 'b', '{', '}', '.', 'a', '{', '}', '.', 'c', '{'] rfl⟩

end

end ClassPurge.Purge
