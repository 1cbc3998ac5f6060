import EnvAudit.Text.Blank
import EnvAudit.Text.WordChar

/-!
# EnvAudit.Proofs.Text.CharSet

Membership of sets of characters, without their ranges: the set of one character and what is left
when one character is taken out, and sets that lie apart (`CharSet.not_contains_of_apart`).
-/

namespace EnvAudit

/-- What is told of each character of a given text. -/
theorem forall_mem_of_all {p : Char → Prop} [DecidablePred p] {text : List Char}
    (h : text.all fun c => p c) : ∀ c ∈ text, p c :=
  fun c hc => of_decide_eq_true (List.all_eq_true.1 h c hc)

namespace CharSet

/-- A code point that is covered lies in one of the ranges. -/
theorem exists_range_of_covers {ranges : List (Nat × Nat)} {n : Nat} (h : covers ranges n = true) :
    ∃ r ∈ ranges, r.1 ≤ n ∧ n ≤ r.2 := by
  induction ranges with
  | nil => simp [covers] at h
  | cons r rest ih =>
    obtain ⟨lo, hi⟩ := r
    simp only [covers] at h
    split at h
    · cases h
    · next hlo =>
      split at h
      · next hhi => exact ⟨(lo, hi), List.mem_cons_self, by simp; omega⟩
      · obtain ⟨r, hr, hn⟩ := ih h
        exact ⟨r, List.mem_cons_of_mem _ hr, hn⟩

/-- A range before all others adds its members. -/
theorem covers_cons {lo hi : Nat} {ranges : List (Nat × Nat)} (hle : lo ≤ hi)
    (h : ∀ r ∈ ranges.head?, hi < r.1) (n : Nat) :
    covers ((lo, hi) :: ranges) n = (decide (lo ≤ n ∧ n ≤ hi) || covers ranges n) := by
  have hless : n ≤ hi → covers ranges n = false := fun hn => by
    cases ranges with
    | nil => rfl
    | cons r rest =>
      have hlt : n < r.1 := Nat.lt_of_le_of_lt hn (h r rfl)
      simp [covers, hlt]
  simp only [covers]
  split
  · next hlo => simp [hless (by omega), Nat.not_le.2 hlo]
  · next hlo =>
    split
    · next hhi => simp [hhi, Nat.not_lt.1 hlo]
    · next hhi => simp [hhi]

/-- Whether no range of one set meets a range of the other. -/
def apart (a b : CharSet) : Bool :=
  a.ranges.all fun r => b.ranges.all fun s => r.2 < s.1 || s.2 < r.1

/-- Sets that are apart share no character. -/
theorem not_contains_of_apart {a b : CharSet} (h : a.apart b) {c : Char} (ha : a.contains c) :
    b.contains c = false := by
  cases hb : b.contains c with
  | false => rfl
  | true =>
    obtain ⟨r, hr, hlo, hhi⟩ := exists_range_of_covers ha
    obtain ⟨s, hs, hlo', hhi'⟩ := exists_range_of_covers hb
    have := List.all_eq_true.1 (List.all_eq_true.1 h r hr) s hs
    simp only [Bool.or_eq_true, decide_eq_true_eq] at this
    omega

theorem toNat_le_maxCode (c : Char) : c.toNat ≤ maxCode := by
  have := c.valid
  simp only [Char.toNat, maxCode]
  rcases this with h | ⟨-, h⟩
  · exact Nat.le_of_lt (Nat.lt_of_lt_of_le h (by decide))
  · exact Nat.le_of_lt_succ h

@[simp] theorem contains_single (c x : Char) : (single c).contains x = (x == c) := by
  have hiff : x = c ↔ x.toNat = c.toNat := ⟨congrArg _, fun h => Char.toNat_inj.1 h⟩
  by_cases h : x = c
  · simp [contains, single, covers, h]
  · have hne : x.toNat ≠ c.toNat := fun hn => h (hiff.2 hn)
    simp only [contains, single, covers]
    split
    · simp [h]
    · split
      · omega
      · simp [h]

@[simp] theorem contains_compl_single (c x : Char) : (single c).compl.contains x = (x != c) := by
  have hx := toNat_le_maxCode x
  have hiff : x = c ↔ x.toNat = c.toNat := ⟨congrArg _, fun h => Char.toNat_inj.1 h⟩
  by_cases h : x = c
  · subst h
    simp only [contains, compl, single, gaps]
    split <;> split <;> simp [covers] <;> omega
  · have hne : x.toNat ≠ c.toNat := fun hn => h (hiff.2 hn)
    have : (x != c) = true := by simp [h]
    rw [this]
    simp only [contains, compl, single, gaps]
    split <;> split <;> simp only [covers] <;> repeat' split
    all_goals first | rfl | omega

end CharSet

end EnvAudit
