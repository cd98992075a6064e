import ClassPurge.Pattern.Iterate
import ClassPurge.Proofs.Pattern.Searching

/-!
A scan with a bound on its rounds. Each round ends the scan or moves it on, so the bound, one
more than the text has characters, is never met. A pattern that matches nothing empty is scanned
for all its leftmost matches, as if there were no bound.
-/

namespace ClassPurge.Pattern

variable {search : Nat → Option Span} {size : Nat}

/-- The search finds nothing empty. -/
def NeverEmpty (search : Nat → Option Span) (size : Nat) : Prop :=
  ∀ pos ≤ size, ∀ m ∈ search pos, m.start < m.stop

instance : Decidable (NeverEmpty search size) :=
  inferInstanceAs (Decidable (∀ pos ≤ size, ∀ m ∈ search pos, m.start < m.stop))

/-! ### The rounds of a scan -/

/-- A scan that goes on at `i`, round by round, to its own end. -/
inductive Scans (search : Nat → Option Span) (size : Nat) : Nat → List Span → ScanEnd → Prop
  | done {i : Nat} (hi : i ≤ size) (h : search i = none) : Scans search size i [] .done
  | stalled {i : Nat} (hi : i ≤ size) (h : search i = some ⟨i, i⟩) :
    Scans search size i [] (.stalled i)
  | next {i : Nat} {m : Span} {ms : List Span} {e : ScanEnd} (hi : i ≤ size)
    (h : search i = some m) (hstart : i ≤ m.start ∧ m.start ≤ m.stop) (hlt : i < m.stop)
    (hms : Scans search size m.stop ms e) : Scans search size i (m :: ms) e

/-- With a round for each place that is left and one more, the scan comes to its own end. -/
lemma scans_scanWithin (h : StaysInside search size) {rounds i : Nat} (hi : i ≤ size)
    (hr : size < i + rounds) :
    Scans search size i (scanWithin search rounds i).1 (scanWithin search rounds i).2 := by
  induction rounds generalizing i with
  | zero => omega
  | succ rounds ih =>
    rw [scanWithin]
    rcases hm : search i with _ | m
    · exact .done hi hm
    obtain ⟨hstart, hle, hstop⟩ := h i hi m hm
    by_cases hstall : m.stop ≤ i ∧ m.start = m.stop
    · have hm' : m = ⟨i, i⟩ := by
        obtain ⟨a, b⟩ := m
        simp only at hstart hstall
        simp only [Span.mk.injEq]
        omega
      simp only [if_pos hstall]
      exact .stalled hi (hm' ▸ hm)
    · have hlt : i < m.stop := by omega
      simp only [if_neg hstall]
      exact .next hi hm ⟨hstart, hle⟩ hlt (ih hstop (by omega))

/-- Where the search goes on that began at `i` and has found the matches. -/
def cursor (i : Nat) (ms : List Span) : Nat := (ms.getLast?.map Span.stop).getD i

@[simp] lemma cursor_nil (i : Nat) : cursor i [] = i := rfl

@[simp] lemma cursor_cons (i : Nat) (m : Span) (ms : List Span) :
    cursor i (m :: ms) = cursor m.stop ms := by
  simp only [cursor, List.getLast?_cons, Option.map_some, Option.getD_some]
  rcases ms.getLast? with _ | m' <;> rfl

namespace Scans

variable {i : Nat} {ms : List Span} {e : ScanEnd}

lemma bounds (h : Scans search size i ms e) : ∀ m ∈ ms, i ≤ m.start ∧ i < m.stop := by
  induction h with
  | done | stalled => simp
  | next hi h hstart hlt hms ih =>
    refine List.forall_mem_cons.mpr ⟨⟨hstart.1, hlt⟩, fun m hm => ?_⟩
    obtain ⟨h₁, h₂⟩ := ih m hm
    exact ⟨Nat.le_trans (Nat.le_of_lt hlt) h₁, Nat.lt_trans hlt h₂⟩

lemma rising (h : Scans search size i ms e) : ms.Pairwise fun a b => a.stop < b.stop := by
  induction h with
  | done | stalled => exact .nil
  | next _ _ _ _ hms ih => exact .cons (fun m hm => (hms.bounds m hm).2) ih

lemma apart (h : Scans search size i ms e) : ms.Pairwise fun a b => a.stop ≤ b.start := by
  induction h with
  | done | stalled => exact .nil
  | next _ _ _ _ hms ih => exact .cons (fun m hm => (hms.bounds m hm).1) ih

lemma length_le (h : Scans search size i ms e) : i + ms.length ≤ size := by
  induction h with
  | done hi | stalled hi => exact hi
  | next _ _ _ hlt _ ih =>
    rw [List.length_cons]
    omega

lemma found (h : Scans search size i ms e) :
    ∀ k m, ms[k]? = some m → search (cursor i (ms.take k)) = some m := by
  induction h with
  | done | stalled => simp
  | next hi h hstart hlt hms ih =>
    intro k m hk
    cases k with
    | zero =>
      obtain rfl := Option.some.inj hk
      exact h
    | succ k =>
      rw [List.take_succ_cons, cursor_cons]
      exact ih k m hk

lemma ends (h : Scans search size i ms e) :
    e = .done ∧ search (cursor i ms) = none ∨
      e = .stalled (cursor i ms) ∧ search (cursor i ms) = some ⟨cursor i ms, cursor i ms⟩ := by
  induction h with
  | done _ h => exact .inl ⟨rfl, h⟩
  | stalled _ h => exact .inr ⟨rfl, h⟩
  | next _ _ _ _ _ ih => simpa using ih

/-! ### Patterns that match nothing empty -/

lemma eq_done (h : Scans search size i ms e) (hn : NeverEmpty search size) : e = .done := by
  induction h with
  | done => rfl
  | stalled hi h => exact absurd (hn _ hi _ h) (Nat.lt_irrefl _)
  | next _ _ _ _ _ ih => exact ih

/-- No bound is felt: without one the same matches are found behind those found before. -/
lemma endOf?_matchRound (h : Scans search size i ms e) (hn : NeverEmpty search size)
    {next : Bool → Nat → Option Span} (hnext : next false = search) (found : List Span) :
    endOf? (matchRound next) ⟨found, false, i⟩ = some (found ++ ms) := by
  induction h generalizing found with
  | done _ h =>
    rw [List.append_nil]
    exact endOf?_of_stop (by simp only [matchRound, hnext, h])
  | stalled hi h => exact absurd (hn _ hi _ h) (Nat.lt_irrefl _)
  | @next i m ms e hi h hstart hlt hms ih =>
    have hne : (m.start == m.stop) = false := by
      have := hn i hi m h
      simp only [beq_eq_false_iff_ne]
      omega
    have hround : matchRound next ⟨found, false, i⟩ = .next ⟨found ++ [m], false, m.stop⟩ := by
      simp only [matchRound, hnext, h, hne]
    refine endOf?_of_next hround ?_
    rw [ih (found ++ [m]), List.append_assoc, List.singleton_append]

lemma allMatches? (h : Scans search size 0 ms e) (hn : NeverEmpty search size)
    {next : Bool → Nat → Option Span} (hnext : next false = search) :
    allMatches? next = some ms :=
  h.endOf?_matchRound hn hnext []

end Scans

/-! ### Leftmost matches -/

/-- The leftmost matches from `i` on that do not overlap: wherever the pattern matches, one of
them begins, or one that began earlier still goes on. -/
structure IsLeftmost (at? : Nat → Option Nat) (size i : Nat) (ms : List Span) : Prop where
  apart : ms.Pairwise fun a b => a.stop ≤ b.start
  matching : ∀ m ∈ ms, i ≤ m.start ∧ m.start ≤ size ∧ at? m.start = some m.stop
  covering : ∀ j, i ≤ j → j ≤ size → (at? j).isSome → ∃ m ∈ ms, m.start ≤ j ∧ j < m.stop

variable {at? : Nat → Option Nat} {i j : Nat} {ms : List Span}

lemma FindsFirst.search_eq (hf : FindsFirst at? search size) (hs : StaysInside search size)
    (hi : i ≤ size) (h : at? i = some j) : search i = some ⟨i, j⟩ := by
  rcases hm : search i with _ | m
  · rw [hf.missed i hi hm i (Nat.le_refl _) hi] at h
    cases h
  · obtain ⟨hat, hbefore⟩ := hf.found i hi m hm
    have hstart : m.start = i := by
      refine Nat.le_antisymm (Nat.le_of_not_lt fun hlt => ?_) (hs i hi m hm).1
      rw [hbefore i (Nat.le_refl _) hlt] at h
      cases h
    rw [hstart, h, Option.some.injEq] at hat
    rw [hat, ← hstart]

/-- The first match from `i` on. -/
structure IsFirst (at? : Nat → Option Nat) (size i : Nat) (m : Span) : Prop where
  bounds : i ≤ m.start ∧ m.start < m.stop ∧ m.stop ≤ size
  matching : at? m.start = some m.stop
  before : ∀ j, i ≤ j → j < m.start → at? j = none

lemma IsFirst.le {m : Span} (h : IsFirst at? size i m) (hj : i ≤ j) (hat : (at? j).isSome) :
    m.start ≤ j := by
  refine Nat.le_of_not_lt fun hlt => ?_
  rw [h.before j hj hlt] at hat
  cases hat

/-- The first match is the first of the leftmost ones, and the rest are leftmost behind it. -/
lemma IsLeftmost.exists_cons {m : Span} (hm : IsFirst at? size i m)
    (hlonger : ∀ a : Span, a.start ≤ size → at? a.start = some a.stop → a.start < a.stop)
    (h : IsLeftmost at? size i ms) : ∃ l, ms = m :: l ∧ IsLeftmost at? size m.stop l := by
  obtain ⟨hi, hlt, hstop⟩ := hm.bounds
  obtain ⟨b, hb, hle, -⟩ := h.covering m.start hi (by omega) (by simp [hm.matching])
  obtain ⟨a, l, rfl⟩ := List.exists_cons_of_ne_nil (List.ne_nil_of_mem hb)
  obtain ⟨hal, hpairs⟩ := List.pairwise_cons.mp h.apart
  obtain ⟨⟨hia, hasize, hata⟩, hmatch⟩ := List.forall_mem_cons.mp h.matching
  have hma := hm.le hia (by simp [hata])
  -- the match that covers the first place begins there, and none of the list can begin before
  have hstart : a.start = m.start := by
    rcases List.mem_cons.mp hb with rfl | hb
    · exact Nat.le_antisymm hle hma
    · have := hal b hb
      have := hlonger a hasize hata
      omega
  have ham : a = m := by
    rw [hstart, hm.matching, Option.some.injEq] at hata
    obtain ⟨s, e⟩ := a
    simp only at hstart hata
    rw [hstart, ← hata]
  subst ham
  refine ⟨l, rfl, hpairs, fun b hb => ⟨hal b hb, (hmatch b hb).2⟩, fun j hj hsize hatj => ?_⟩
  obtain ⟨b, hb, hbj, hjb⟩ := h.covering j (by omega) hsize hatj
  rcases List.mem_cons.mp hb with rfl | hb
  · omega
  · exact ⟨b, hb, hbj, hjb⟩

lemma IsLeftmost.cons {m : Span} (hm : IsFirst at? size i m) (h : IsLeftmost at? size m.stop ms) :
    IsLeftmost at? size i (m :: ms) := by
  obtain ⟨hi, hlt, hstop⟩ := hm.bounds
  refine ⟨.cons (fun a ha => (h.matching a ha).1) h.apart, ?_, fun j hj hsize hatj => ?_⟩
  · refine List.forall_mem_cons.mpr ⟨⟨hi, by omega, hm.matching⟩, fun a ha => ?_⟩
    obtain ⟨hma, hsize, hata⟩ := h.matching a ha
    exact ⟨by omega, hsize, hata⟩
  · by_cases hjm : j < m.stop
    · exact ⟨m, List.mem_cons_self, hm.le hj hatj, hjm⟩
    · obtain ⟨a, ha, haj, hja⟩ := h.covering j (by omega) hsize hatj
      exact ⟨a, List.mem_cons_of_mem m ha, haj, hja⟩

lemma isLeftmost_nil (h : ∀ j, i ≤ j → j ≤ size → at? j = none) (ms : List Span) :
    IsLeftmost at? size i ms ↔ ms = [] := by
  constructor
  · intro hl
    refine List.eq_nil_iff_forall_not_mem.mpr fun m hm => ?_
    obtain ⟨hle, hsize, hat⟩ := hl.matching m hm
    rw [h m.start hle hsize] at hat
    cases hat
  · rintro rfl
    refine ⟨.nil, by simp, fun j hj hsize hat => ?_⟩
    rw [h j hj hsize] at hat
    cases hat

/-- The rounds of a scan find the leftmost matches, and no other list has all of them. -/
lemma Scans.isLeftmost_iff (hf : FindsFirst at? search size) (hs : StaysInside search size)
    (hn : NeverEmpty search size) {e : ScanEnd} (h : Scans search size i ms e) (l : List Span) :
    IsLeftmost at? size i l ↔ l = ms := by
  induction h generalizing l with
  | done hi h => exact isLeftmost_nil (hf.missed _ hi h) l
  | stalled hi h => exact absurd (hn _ hi _ h) (Nat.lt_irrefl _)
  | @next i m ms e hi h hstart hlt hms ih =>
    obtain ⟨hat, hbefore⟩ := hf.found i hi m h
    have hm : IsFirst at? size i m := ⟨⟨hstart.1, hn i hi m h, (hs i hi m h).2.2⟩, hat, hbefore⟩
    constructor
    · intro hl
      obtain ⟨l', rfl, hl'⟩ :=
        hl.exists_cons hm fun a ha hata => hn _ ha _ (hf.search_eq hs ha hata)
      rw [(ih l').mp hl']
    · rintro rfl
      exact .cons hm ((ih ms).mpr rfl)

/-! ### Whole scans -/

lemma scans_scan (h : StaysInside search size) :
    Scans search size 0 (scan search size).1 (scan search size).2 :=
  scans_scanWithin h (Nat.zero_le _) (by omega)

/-- What a scan of a text of `size` characters comes to. Each match is the one that the search
finds where the match before it ends. -/
structure IsScan (search : Nat → Option Span) (size : Nat) (ms : List Span) (e : ScanEnd) :
    Prop where
  rising : ms.Pairwise fun a b => a.stop < b.stop
  apart : ms.Pairwise fun a b => a.stop ≤ b.start
  length_le : ms.length ≤ size
  found : ∀ k m, ms[k]? = some m → search (cursor 0 (ms.take k)) = some m
  uncapped : e ≠ .capped
  ends : e = .done ∧ search (cursor 0 ms) = none ∨
    e = .stalled (cursor 0 ms) ∧ search (cursor 0 ms) = some ⟨cursor 0 ms, cursor 0 ms⟩

lemma Scans.isScan {e : ScanEnd} (h : Scans search size 0 ms e) : IsScan search size ms e where
  rising := h.rising
  apart := h.apart
  length_le := by simpa using h.length_le
  found := h.found
  uncapped := by
    rcases h.ends with ⟨rfl, -⟩ | ⟨rfl, -⟩ <;> nofun
  ends := h.ends

/-- **A scan is bounded and complete.** The matches end further and further on, do not overlap
and are no more than the text has characters. The rounds are never used up: the scan stops where
nothing is left, or nothing but an empty match at the place where it stands. If nothing is empty
that the search finds, the matches are those that are listed without a bound, and they are the
leftmost ones of the whole text. -/
theorem scan_complete (h : StaysInside search size) :
    IsScan search size (scan search size).1 (scan search size).2 ∧
    (NeverEmpty search size →
      (scan search size).2 = .done ∧
      (∀ next : Bool → Nat → Option Span, next false = search →
        allMatches? next = some (scan search size).1) ∧
      ∀ at?, FindsFirst at? search size →
        ∀ ms, IsLeftmost at? size 0 ms ↔ ms = (scan search size).1) := by
  have hscan := scans_scan h
  exact ⟨hscan.isScan, fun hn => ⟨hscan.eq_done hn, fun _ hnext => hscan.allMatches? hn hnext,
    fun _ hf => hscan.isLeftmost_iff hf h hn⟩⟩

/-- One letter `a` or more. -/
def lettersNode : Node := .repeated .greedy 1 none (.one ⟨[.char 0x61], false, false, false⟩)

theorem scan_complete_letters :
    let text := "baab".toList.toArray
    let search := lettersNode.search? false text
    let at? := lettersNode.stopAt? false text
    (StaysInside search 4 ∧ NeverEmpty search 4 ∧ FindsFirst at? search 4) ∧
      IsScan search 4 [⟨1, 3⟩] .done ∧
      allMatches? (lettersNode.next? false text) = some [⟨1, 3⟩] ∧
      ∀ ms, IsLeftmost at? 4 0 ms ↔ ms = [⟨1, 3⟩] := by
  intro text search at?
  have hinside : StaysInside search 4 := staysInside_search? lettersNode false text
  have hfirst : FindsFirst at? search 4 := findsFirst_search? lettersNode false text
  have hlonger : NeverEmpty search 4 := by decide +kernel
  have hscan : scan search 4 = ([⟨1, 3⟩], .done) := by decide +kernel
  obtain ⟨hall, hrest⟩ := scan_complete hinside
  obtain ⟨-, hlisted, hleftmost⟩ := hrest hlonger
  rw [hscan] at hall hlisted hleftmost
  exact ⟨⟨hinside, hlonger, hfirst⟩, hall, hlisted _ rfl, hleftmost at? hfirst⟩

/-- An empty match further on is found, and then found again where the scan stands. -/
example : scan (Node.search? (.ahead false (.one ⟨[.char 0x61], false, false, false⟩)) false
    "bba".toList.toArray) 3 = ([⟨2, 2⟩], .stalled 2) := by decide +kernel

end ClassPurge.Pattern

namespace ClassPurge

open Pattern

/-- **No scan of a text is cut short**, and where it stalls is all that there is to report. -/
theorem Pattern.isScan_scanText (p : Pattern) (t : Text) :
    ∃ e, IsScan (p.node.search? p.modes.ascii t.toArray) t.length (p.scanText t).value e ∧
      ((p.scanText t).events = [] ∧ e = .done ∨
        ∃ i, (p.scanText t).events = [.stalled p.body i] ∧ e = .stalled i) := by
  have h := (scans_scan (staysInside_search? p.node p.modes.ascii t.toArray)).isScan
  rw [Pattern.scanText]
  rcases hscan : scan (p.node.search? p.modes.ascii t.toArray) t.toArray.size with ⟨ms, e⟩
  rw [hscan] at h
  cases e with
  | done => exact ⟨_, h, .inl ⟨rfl, rfl⟩⟩
  | stalled i => exact ⟨_, h, .inr ⟨i, rfl, rfl⟩⟩
  | capped => exact absurd rfl h.uncapped

/-- A pattern that finds nothing empty in the text is scanned for all its matches. -/
theorem Pattern.scanText_eq_matches {p : Pattern} {t : Text}
    (hn : NeverEmpty (p.node.search? p.modes.ascii t.toArray) t.length) :
    p.matches? t = some (p.scanText t).value ∧ (p.scanText t).events = [] := by
  have h := scans_scan (staysInside_search? p.node p.modes.ascii t.toArray)
  rw [Pattern.scanText]
  rcases hscan : scan (p.node.search? p.modes.ascii t.toArray) t.toArray.size with ⟨ms, e⟩
  rw [hscan] at h
  obtain rfl := h.eq_done hn
  exact ⟨h.allMatches? hn rfl, rfl⟩

end ClassPurge
