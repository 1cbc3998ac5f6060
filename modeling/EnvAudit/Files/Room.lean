import EnvAudit.Files.Fault

/-!
# EnvAudit.Files.Room

How much of what is written is taken. What a file or a stream has no more room for is lost, and
what was taken before stays.
-/

namespace EnvAudit

/-- How much can be written. -/
inductive Room
  /-- As much as there is. -/
  | unlimited
  /-- So many items, and no more for some reason. -/
  | upTo (size : Nat) (fault : Fault)
deriving Repr, DecidableEq, Inhabited

namespace Room

variable {α : Type}

/-- What is taken of something. -/
def taken : Room → List α → List α
  | .unlimited, all => all
  | .upTo size _, all => all.take size

/-- Why not all of something is taken. -/
def refusal? : Room → List α → Option Fault
  | .unlimited, _ => none
  | .upTo size fault, all => if size < all.length then some fault else none

/-- What is taken comes first. -/
theorem taken_prefix (room : Room) (all : List α) : room.taken all <+: all := by
  cases room with
  | unlimited => exact List.prefix_refl _
  | upTo size fault => exact List.take_prefix _ _

/-- Where nothing is refused, all is taken. -/
theorem taken_of_refusal? {room : Room} {all : List α} (h : room.refusal? all = none) :
    room.taken all = all := by
  cases room with
  | unlimited => rfl
  | upTo size fault =>
    refine List.take_of_length_le (Nat.le_of_not_lt fun hlt => ?_)
    simp [refusal?, hlt] at h

/-- Where something is refused, not all is taken. -/
theorem taken_ne_of_refusal? {room : Room} {all : List α} {fault : Fault}
    (h : room.refusal? all = some fault) : room.taken all ≠ all := by
  cases room with
  | unlimited => cases h
  | upTo size fault' =>
    intro heq
    have hle := congrArg List.length heq
    simp only [taken, List.length_take] at hle
    simp only [refusal?] at h
    split at h
    · omega
    · cases h

end Room

end EnvAudit
