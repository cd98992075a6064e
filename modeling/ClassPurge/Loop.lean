/-!
Loops, each with a budget of rounds. A round hands a state on to the next round or ends the loop
with an answer; a loop that has used its budget up is stopped where it stands. A loop with a
measure that every round lowers comes to its own end, with the answer that it has without a
budget, as soon as the budget is above the measure.
-/

namespace ClassPurge

inductive Round (σ ρ : Type)
  | next (state : σ)
  | stop (answer : ρ)
  deriving DecidableEq, Repr

/-- Whether loops have to keep to their budgets. -/
inductive Limit
  | budget
  | unlimited
  deriving DecidableEq, Repr

/-- What one round does, where the first begins, how many characters lie ahead of it, and what is
answered when the budget has been used up. -/
structure Loop (σ ρ : Type) where
  round : σ → Round σ ρ
  start : σ
  ahead : Nat
  spent : σ → ρ

def budget (ahead : Nat) : Nat := 2 * ahead + 16

section

variable {σ ρ : Type}

/-- Where a loop stands after at most so many rounds. -/
def afterRounds (round : σ → Round σ ρ) : Nat → σ → Round σ ρ
  | 0, s => .next s
  | n + 1, s =>
    match round s with
    | .next s' => afterRounds round n s'
    | .stop r => .stop r

open Classical in
/-- What a loop comes to after as many rounds as it takes; none if it goes round for ever. -/
noncomputable def endOf? (round : σ → Round σ ρ) (s : σ) : Option ρ :=
  if h : ∃ r n, afterRounds round n s = .stop r then some h.choose else none

noncomputable def Loop.run (l : Loop σ ρ) : Limit → ρ
  | .budget =>
    match afterRounds l.round (budget l.ahead) l.start with
    | .next s => l.spent s
    | .stop r => r
  | .unlimited => (endOf? l.round l.start).getD (l.spent l.start)

/-! ### Rounds without a budget -/

variable {round : σ → Round σ ρ}

/-- A loop that has ended takes no more rounds. -/
theorem afterRounds_of_le {m n : Nat} {s : σ} {r : ρ} (h : afterRounds round m s = .stop r)
    (hmn : m ≤ n) : afterRounds round n s = .stop r := by
  induction m generalizing n s with
  | zero => cases h
  | succ m ih =>
    obtain ⟨n, rfl⟩ : ∃ k, n = k + 1 := ⟨n - 1, by omega⟩
    rw [afterRounds] at h ⊢
    split
    · rename_i s' he
      rw [he] at h
      exact ih h (Nat.le_of_succ_le_succ hmn)
    · rename_i r' he
      rwa [he] at h

theorem eq_of_afterRounds {m n : Nat} {s : σ} {r r' : ρ} (h : afterRounds round m s = .stop r)
    (h' : afterRounds round n s = .stop r') : r = r' :=
  Round.stop.inj ((afterRounds_of_le h (Nat.le_max_left m n)).symm.trans
    (afterRounds_of_le h' (Nat.le_max_right m n)))

theorem endOf?_eq_some_iff {s : σ} {r : ρ} :
    endOf? round s = some r ↔ ∃ n, afterRounds round n s = .stop r := by
  rw [endOf?]
  constructor
  · intro h
    split at h
    · rename_i he
      obtain rfl := Option.some.inj h
      exact he.choose_spec
    · cases h
  · rintro ⟨n, hn⟩
    have he : ∃ r n, afterRounds round n s = .stop r := ⟨r, n, hn⟩
    obtain ⟨m, hm⟩ := he.choose_spec
    rw [dif_pos he, eq_of_afterRounds hm hn]

theorem endOf?_of_stop {s : σ} {r : ρ} (h : round s = .stop r) : endOf? round s = some r :=
  endOf?_eq_some_iff.mpr ⟨1, by rw [afterRounds, h]⟩

theorem endOf?_of_next {s s' : σ} {r : ρ} (h : round s = .next s')
    (hr : endOf? round s' = some r) : endOf? round s = some r := by
  obtain ⟨n, hn⟩ := endOf?_eq_some_iff.mp hr
  exact endOf?_eq_some_iff.mpr ⟨n + 1, by rw [afterRounds, h]; exact hn⟩

/-! ### Rounds that lower a measure -/

/-- What a round from the state `s` may do: keep the invariant, lower the measure and leave the
answer to come as it is, or end with that answer. -/
def Round.Settles (inside : σ → Prop) (measure : σ → Nat) (answer : σ → ρ) (s : σ) :
    Round σ ρ → Prop
  | .next s' => inside s' ∧ measure s' < measure s ∧ answer s' = answer s
  | .stop r => r = answer s

variable {inside : σ → Prop} {measure : σ → Nat} {answer : σ → ρ}

theorem afterRounds_eq_stop (h : ∀ s, inside s → (round s).Settles inside measure answer s)
    {n : Nat} {s : σ} (hs : inside s) (hn : measure s < n) :
    afterRounds round n s = .stop (answer s) := by
  induction n generalizing s with
  | zero => omega
  | succ n ih =>
    have hround := h s hs
    rw [afterRounds]
    split
    · rename_i s' he
      rw [he] at hround
      obtain ⟨hs', hlt, ha⟩ := hround
      rw [ih hs' (by omega), ha]
    · rename_i r he
      rw [he] at hround
      exact congrArg Round.stop hround

theorem endOf?_eq_some (h : ∀ s, inside s → (round s).Settles inside measure answer s) {s : σ}
    (hs : inside s) : endOf? round s = some (answer s) :=
  endOf?_eq_some_iff.mpr ⟨measure s + 1, afterRounds_eq_stop h hs (Nat.lt_succ_self _)⟩

theorem inside_of_afterRounds (h : ∀ s, inside s → (round s).Settles inside measure answer s)
    {n : Nat} {s s' : σ} (hs : inside s) (hn : afterRounds round n s = .next s') :
    inside s' ∧ answer s' = answer s := by
  induction n generalizing s with
  | zero =>
    obtain rfl : s = s' := by simpa [afterRounds] using hn
    exact ⟨hs, rfl⟩
  | succ n ih =>
    have hround := h s hs
    rw [afterRounds] at hn
    split at hn
    · rename_i s₁ he
      rw [he] at hround
      obtain ⟨hs₁, -, ha⟩ := hround
      obtain ⟨hi, hr⟩ := ih hs₁ hn
      exact ⟨hi, hr.trans ha⟩
    · cases hn

end

/-- The loop never feels its budget: it ends by itself with `answer`, which it comes to without a
budget too, and every state that one of its rounds hands on is `inside`. -/
structure Unhindered {σ ρ : Type} (loop : Limit → Loop σ ρ) (inside : σ → Prop) (answer : ρ) :
    Prop where
  ends : afterRounds (loop .budget).round (budget (loop .budget).ahead) (loop .budget).start =
    .stop answer
  unlimited : endOf? (loop .unlimited).round (loop .unlimited).start = some answer
  handed : ∀ n s, afterRounds (loop .budget).round n (loop .budget).start = .next s → inside s

section

variable {σ ρ : Type} {loop : Limit → Loop σ ρ} {inside : σ → Prop} {r : ρ}

theorem Unhindered.run_eq (h : Unhindered loop inside r) (l : Limit) : (loop l).run l = r := by
  cases l with
  | budget => rw [Loop.run, h.ends]
  | unlimited => rw [Loop.run, h.unlimited, Option.getD_some]

/-- A loop is unhindered if its rounds, with and without a budget, settle what it comes to. -/
theorem unhindered {inv : σ → Prop} {measure : σ → Nat} {answer : σ → ρ}
    (hround : ∀ l s, inv s → ((loop l).round s).Settles inv measure answer s)
    (hstart : ∀ l, inv (loop l).start ∧ answer (loop l).start = r)
    (hbudget : measure (loop .budget).start < budget (loop .budget).ahead)
    (hinside : ∀ s, inv s → answer s = r → inside s) : Unhindered loop inside r where
  ends := by
    rw [afterRounds_eq_stop (hround .budget) (hstart .budget).1 hbudget, (hstart .budget).2]
  unlimited := by
    rw [endOf?_eq_some (hround .unlimited) (hstart .unlimited).1, (hstart .unlimited).2]
  handed n s hn := by
    obtain ⟨hs, ha⟩ := inside_of_afterRounds (hround .budget) (hstart .budget).1 hn
    exact hinside s hs (ha.trans (hstart .budget).2)

end

end ClassPurge
