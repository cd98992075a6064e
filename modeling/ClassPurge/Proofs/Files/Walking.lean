import ClassPurge.Files.Discovery
import ClassPurge.Proofs.Files.Writing

/-!
Where the components of a pattern lead to. A component leads from a place on by names, and which
names those are depends only on what is a folder and what is there at all. So the walk over a tree,
spot by spot, is a relation between places.
-/

namespace ClassPurge.Files

namespace Tree

variable {t : Tree} {p q : Place}

/-! ### What is there -/

/-- The places at which a branch of the tree ends, perhaps inside another. -/
def ends (t : Tree) : List Place := t.files.map Prod.fst ++ t.made

lemma isFile_iff : t.isFile p = true ↔ p ∈ t.files.map Prod.fst := by
  rw [isFile, file?, Option.isSome_map, List.find?_isSome, List.mem_map]
  simp

lemma has_iff : t.has p = true ↔ p = [] ∨ ∃ e ∈ t.ends, p <+: e := by
  rw [has, Bool.or_eq_true, isFile_iff, isFolder_iff]
  simp only [ends, List.mem_append, List.mem_map]
  constructor
  · rintro (⟨f, hf, rfl⟩ | rfl | ⟨m, hm, hpm⟩ | ⟨f, hf, hpf⟩)
    · exact .inr ⟨f.1, .inl ⟨f, hf, rfl⟩, List.prefix_rfl⟩
    · exact .inl rfl
    · exact .inr ⟨m, .inr hm, hpm⟩
    · exact .inr ⟨f.1, .inl ⟨f, hf, rfl⟩, (isUnder_iff.mp hpf).1⟩
  · rintro (rfl | ⟨e, ⟨f, hf, rfl⟩ | he, hpe⟩)
    · exact .inr (.inl rfl)
    · rcases hpe.length_le.eq_or_lt with hlen | hlen
      · exact .inl ⟨f, hf, (hpe.eq_of_length hlen).symm⟩
      · exact .inr (.inr (.inr ⟨f, hf, isUnder_iff.mpr ⟨hpe, hlen⟩⟩))
    · exact .inr (.inr (.inl ⟨e, he, hpe⟩))

lemma isFolder_of_has (hq : q ≠ []) (h : t.has (p ++ q) = true) : t.isFolder p = true := by
  have hpre : p <+: p ++ q := List.prefix_append p q
  have hlen : p.length < (p ++ q).length := by
    rw [List.length_append]
    exact Nat.lt_add_of_pos_right (List.length_pos_iff.mpr hq)
  rw [isFolder_iff]
  rcases has_iff.mp h with hnil | ⟨e, he, hpe⟩
  · exact absurd (List.append_eq_nil_iff.mp hnil).2 hq
  · rcases List.mem_append.mp he with he | he
    · obtain ⟨f, hf, rfl⟩ := List.mem_map.mp he
      exact .inr (.inr ⟨f, hf, isUnder_iff.mpr
        ⟨hpre.trans hpe, hlen.trans_le hpe.length_le⟩⟩)
    · exact .inr (.inl ⟨e, he, hpre.trans hpe⟩)

lemma has_of_isFolder (h : t.isFolder p = true) : t.has p = true := by
  rw [has, h, Bool.or_true]

lemma has_of_isFile (h : t.isFile p = true) : t.has p = true := by
  rw [has, h, Bool.true_or]

lemma mem_heads : q ∈ heads p ↔ q <+: p := by
  rw [heads, List.mem_map]
  constructor
  · rintro ⟨n, -, rfl⟩
    exact List.take_prefix n p
  · intro h
    exact ⟨q.length, List.mem_range.mpr (Nat.lt_succ_of_le h.length_le),
      (List.prefix_iff_eq_take.mp h).symm⟩

lemma mem_under : q ∈ t.under p ↔ q ≠ [] ∧ t.has (p ++ q) = true := by
  rw [under, List.mem_eraseDups, List.mem_flatMap, has_iff]
  simp only [List.mem_filter, mem_heads, isUnder_iff]
  constructor
  · rintro ⟨e, ⟨he, ⟨r, rfl⟩, -⟩, hq, hne⟩
    rw [List.drop_left] at hq
    refine ⟨by simpa using hne, .inr ⟨_, he, (List.prefix_append_right_inj p).mpr hq⟩⟩
  · rintro ⟨hne, hnil | ⟨e, he, ⟨r, rfl⟩⟩⟩
    · exact absurd (List.append_eq_nil_iff.mp hnil).2 hne
    · rw [List.append_assoc] at he
      refine ⟨_, ⟨he, List.prefix_append p _, ?_⟩, ?_, by simpa using hne⟩
      · have := List.length_pos_iff.mpr hne
        rw [List.length_append, List.length_append]
        omega
      · rw [List.drop_left]
        exact List.prefix_append q r

lemma mem_names {n : Text} : n ∈ t.names p ↔ t.has (p ++ [n]) = true := by
  rw [names, List.mem_filterMap]
  constructor
  · rintro ⟨q, hq, hn⟩
    split at hn
    · cases hn
      exact (mem_under.mp hq).2
    · cases hn
  · intro h
    exact ⟨[n], mem_under.mpr ⟨by simp, h⟩, rfl⟩

/-! ### One component -/

/-- The component leads from `p` on by the names `q`. -/
def Leads (t : Tree) : Component → Place → List Text → Prop
  | .folder, p, q => q = [] ∧ t.isFolder p = true
  | .anyDepth, p, q => q = [] ∨ (t.has (p ++ q) = true ∧ ∀ n ∈ q, isHidden n = false)
  | .wild w, p, q => ∃ n, q = [n] ∧ t.has (p ++ q) = true ∧ finds w n = true
  | .name n, p, q => q = [n] ∧ t.has (p ++ q) = true

/-- From where the component leads, the next one goes on. -/
def LeadsOn (t : Tree) : Component → Place → List Text → Prop
  | .anyDepth, p, q => q = [] ∨ t.isFolder (p ++ q) = true
  | .wild _, p, q => t.isFolder (p ++ q) = true
  | _, _, _ => True

/-- The components lead from `p` on by the names `q`. -/
def Reaches (t : Tree) : List Component → Place → List Text → Prop
  | [], _, q => q = []
  | c :: cs, p, q => ∃ a b, q = a ++ b ∧ t.Leads c p a ∧ (cs ≠ [] → t.LeadsOn c p a) ∧
    t.Reaches cs (p ++ a) b

/-- A place with its own path as the way to it. -/
def spotAt (p : Place) : Spot := ⟨⟨['/'], p⟩, p⟩

end Tree

/-- A component that goes down or stays. -/
def Component.Descends : Component → Prop
  | .name n => n ≠ Path.dot ∧ n ≠ Path.dotDot
  | _ => True

namespace Tree

variable {t : Tree} {p : Place} {x : Spot} {c : Component}

lemma mem_expand (hc : c.Descends) :
    x ∈ t.expand (spotAt p) c ↔ ∃ q, t.Leads c p q ∧ x = spotAt (p ++ q) := by
  cases c with
  | folder =>
    by_cases hfolder : t.isFolder p = true
    · simp [expand, Leads, spotAt, hfolder]
    · simp [expand, Leads, spotAt, hfolder]
  | anyDepth =>
    have hhidden (q : List Text) : (!q.any isHidden) = true ↔ ∀ n ∈ q, isHidden n = false := by
      rw [Bool.not_eq_true', List.any_eq_false]
      simp only [Bool.not_eq_true]
    rw [expand, List.mem_cons, List.mem_map]
    simp only [List.mem_filter, hhidden]
    constructor
    · rintro (rfl | ⟨q, ⟨hq, hnames⟩, rfl⟩)
      · exact ⟨[], .inl rfl, by rw [List.append_nil]⟩
      · exact ⟨q, .inr ⟨(mem_under.mp hq).2, hnames⟩, rfl⟩
    · rintro ⟨q, hq, rfl⟩
      by_cases hne : q = []
      · exact .inl (by rw [hne, List.append_nil])
      · obtain ⟨hhas, hnames⟩ := hq.resolve_left hne
        exact .inr ⟨q, ⟨mem_under.mpr ⟨hne, hhas⟩, hnames⟩, rfl⟩
  | wild w =>
    simp only [expand, List.mem_map, List.mem_filter, Leads]
    constructor
    · rintro ⟨n, ⟨hn, hfinds⟩, rfl⟩
      exact ⟨[n], ⟨n, rfl, mem_names.mp hn, hfinds⟩, rfl⟩
    · rintro ⟨q, ⟨n, rfl, hn, hfinds⟩, rfl⟩
      exact ⟨n, ⟨mem_names.mpr hn, hfinds⟩, rfl⟩
  | name n =>
    have hdot : (n == Path.dot) = false := beq_eq_false_iff_ne.mpr hc.1
    have hdots : (n == Path.dotDot) = false := beq_eq_false_iff_ne.mpr hc.2
    have hstep : t.expand (spotAt p) (.name n) =
        if t.has (p ++ [n]) = true then [spotAt (p ++ [n])] else [] := by
      cases hhas : t.has (p ++ [n]) with
      | true =>
        have hfolder := isFolder_of_has (List.cons_ne_nil n []) hhas
        simp [expand, spotAt, hdot, hdots, hhas, hfolder, Path.child]
      | false => simp [expand, spotAt, hdot, hdots, hhas]
    rw [hstep]
    split_ifs with hhas
    · simp [Leads, hhas]
    · simp [Leads, hhas]

/-- Where a component leads by the walk, the next is looked at by the walk. -/
lemma leadsOn_iff {q : List Text} : t.LeadsOn c p q ↔
    (match c with
      | .anyDepth => spotAt (p ++ q) == spotAt p || t.isFolder (spotAt (p ++ q)).place
      | .wild _ => t.isFolder (spotAt (p ++ q)).place
      | _ => true) = true := by
  cases c with
  | anyDepth => simp [LeadsOn, spotAt]
  | folder => simp [LeadsOn]
  | wild w => simp [LeadsOn, spotAt]
  | name n => simp [LeadsOn]

/-- **The walk over a tree goes where the components reach.** -/
lemma mem_expandAll {l : List Spot} {cs : List Component} (hl : ∀ x ∈ l, ∃ p, x = spotAt p)
    (hcs : ∀ c ∈ cs, c.Descends) :
    x ∈ t.expandAll l cs ↔ ∃ p q, spotAt p ∈ l ∧ t.Reaches cs p q ∧ x = spotAt (p ++ q) := by
  induction cs generalizing l with
  | nil =>
    constructor
    · intro hx
      obtain ⟨p, rfl⟩ := hl x hx
      exact ⟨p, [], hx, rfl, by rw [List.append_nil]⟩
    · rintro ⟨p, q, hp, rfl, rfl⟩
      rwa [List.append_nil]
  | cons c cs ih =>
    obtain ⟨hc, hcs⟩ := List.forall_mem_cons.mp hcs
    cases cs with
    | nil =>
      rw [expandAll, List.mem_flatMap]
      constructor
      · rintro ⟨s, hs, hx⟩
        obtain ⟨p, rfl⟩ := hl s hs
        obtain ⟨q, hq, rfl⟩ := (mem_expand hc).mp hx
        exact ⟨p, q, hs, ⟨q, [], by simp, hq, absurd rfl, rfl⟩, rfl⟩
      · rintro ⟨p, _, hp, ⟨q, _, rfl, hq, -, rfl⟩, rfl⟩
        exact ⟨spotAt p, hp, (mem_expand hc).mpr ⟨q, hq, by rw [List.append_nil]⟩⟩
    | cons d ds =>
      -- What the first component finds are places again, from which the others go on.
      rw [expandAll.eq_3 _ _ _ _ (by simp)]
      generalize hnext : (l.flatMap fun s => (t.expand s c).filter _) = next
      have hmem (x : Spot) : x ∈ next ↔
          ∃ p a, spotAt p ∈ l ∧ t.Leads c p a ∧ t.LeadsOn c p a ∧ x = spotAt (p ++ a) := by
        rw [← hnext, List.mem_flatMap]
        constructor
        · rintro ⟨s, hs, hx⟩
          obtain ⟨p, rfl⟩ := hl s hs
          obtain ⟨hx, hon⟩ := List.mem_filter.mp hx
          obtain ⟨a, ha, rfl⟩ := (mem_expand hc).mp hx
          exact ⟨p, a, hs, ha, leadsOn_iff.mpr hon, rfl⟩
        · rintro ⟨p, a, hp, ha, hon, rfl⟩
          exact ⟨spotAt p, hp,
            List.mem_filter.mpr ⟨(mem_expand hc).mpr ⟨a, ha, rfl⟩, leadsOn_iff.mp hon⟩⟩
      have hplaces : ∀ x ∈ next, ∃ p, x = spotAt p := fun x hx => by
        obtain ⟨p, a, -, -, -, rfl⟩ := (hmem x).mp hx
        exact ⟨p ++ a, rfl⟩
      rw [ih hplaces hcs]
      constructor
      · rintro ⟨m, b, hm, hb, rfl⟩
        obtain ⟨p, a, hp, ha, hon, he⟩ := (hmem _).mp hm
        obtain rfl : m = p ++ a := congrArg Spot.place he
        exact ⟨p, a ++ b, hp, ⟨a, b, rfl, ha, fun _ => hon, hb⟩, by rw [List.append_assoc]⟩
      · rintro ⟨p, q, hp, ⟨a, b, rfl, ha, hon, hb⟩, rfl⟩
        exact ⟨p ++ a, b, (hmem _).mpr ⟨p, a, hp, ha, hon (List.cons_ne_nil d ds), rfl⟩, hb,
          by rw [List.append_assoc]⟩

/-! ### Components one behind the other -/

lemma leadsOn_of_isFolder {q : List Text} (h : t.isFolder (p ++ q) = true) : t.LeadsOn c p q := by
  cases c with
  | anyDepth => exact .inr h
  | wild => exact h
  | folder => trivial
  | name => trivial

lemma reaches_of_append {cs ds : List Component} {q : List Text} (h : t.Reaches (cs ++ ds) p q) :
    ∃ a b, q = a ++ b ∧ t.Reaches cs p a ∧ t.Reaches ds (p ++ a) b := by
  induction cs generalizing p q with
  | nil => exact ⟨[], q, rfl, rfl, by rwa [List.append_nil]⟩
  | cons c cs ih =>
    obtain ⟨a, b, rfl, ha, hon, hb⟩ := h
    obtain ⟨b, d, rfl, hb, hd⟩ := ih hb
    refine ⟨a ++ b, d, (List.append_assoc a b d).symm, ⟨a, b, rfl, ha, fun hne => ?_, hb⟩, ?_⟩
    · exact hon (by simp [hne])
    · rwa [← List.append_assoc]

lemma reaches_append {cs ds : List Component} {a b : List Text} (ha : t.Reaches cs p a)
    (hfolder : t.isFolder (p ++ a) = true) (hb : t.Reaches ds (p ++ a) b) :
    t.Reaches (cs ++ ds) p (a ++ b) := by
  induction cs generalizing p a with
  | nil =>
    obtain rfl := ha
    rwa [List.append_nil] at hb
  | cons c cs ih =>
    obtain ⟨a, d, rfl, ha, hon, hd⟩ := ha
    rw [← List.append_assoc] at hfolder hb
    refine ⟨a, d ++ b, List.append_assoc a d b, ha, fun _ => ?_, ih hd hfolder hb⟩
    by_cases hne : cs = []
    · -- Then the first component is the last of its row, and leads to the folder itself.
      subst hne
      obtain rfl := hd
      rw [List.append_nil] at hfolder
      exact leadsOn_of_isFolder hfolder
    · exact hon hne

lemma reaches_names_append {ns : List Text} {cs : List Component} {q : List Text} :
    t.Reaches (ns.map .name ++ cs) p q ↔
      ∃ b, q = ns ++ b ∧ (ns = [] ∨ t.has (p ++ ns) = true) ∧ t.Reaches cs (p ++ ns) b := by
  induction ns generalizing p q with
  | nil => simp
  | cons n ns ih =>
    rw [List.map_cons, List.cons_append]
    constructor
    · rintro ⟨_, b, rfl, ⟨rfl, hn⟩, -, hb⟩
      obtain ⟨b, rfl, hns, hb⟩ := ih.mp hb
      rw [List.append_assoc, List.singleton_append] at hns hb
      refine ⟨b, rfl, .inr ?_, hb⟩
      rcases hns with rfl | hns
      · exact hn
      · exact hns
    · rintro ⟨b, rfl, hns, hb⟩
      have hall : t.has (p ++ n :: ns) = true := hns.resolve_left (List.cons_ne_nil n ns)
      rw [← List.singleton_append, ← List.append_assoc] at hall hb
      refine ⟨[n], ns ++ b, rfl, ⟨rfl, ?_⟩, fun _ => trivial, ih.mpr ⟨b, rfl, .inr hall, hb⟩⟩
      by_cases hne : ns = []
      · rwa [hne, List.append_nil] at hall
      · exact has_of_isFolder (isFolder_of_has hne hall)

end Tree

end ClassPurge.Files
