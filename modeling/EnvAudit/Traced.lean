/-!
# EnvAudit.Traced

A computation that notes things on its way. Its notes are kept in order, also those made before it
fails. Main statement: these computations form a lawful monad.
-/

namespace EnvAudit

/-- What a computation notes on its way, and how it ends. -/
structure Traced (ω ε α : Type) where
  notes : List ω
  result : Except ε α

namespace Traced

variable {ω ε α β : Type}

/-- Go on with what a computation ends with. -/
def bind (x : Traced ω ε α) (f : α → Traced ω ε β) : Traced ω ε β :=
  match x.result with
  | .error e => ⟨x.notes, .error e⟩
  | .ok a => ⟨x.notes ++ (f a).notes, (f a).result⟩

instance : Monad (Traced ω ε) where
  pure a := ⟨[], .ok a⟩
  bind := bind

/-- Make a note. -/
def note (w : ω) : Traced ω ε Unit := ⟨[w], .ok ()⟩

/-- Make a note on a condition. -/
def noteIf (b : Bool) (w : ω) : Traced ω ε Unit := if b then note w else pure ()

/-- Fail. -/
def fail (e : ε) : Traced ω ε α := ⟨[], .error e⟩

/-- Make no note. -/
def ofExcept (x : Except ε α) : Traced ω ε α := ⟨[], x⟩

/-- Report a failure in another way. -/
def mapError {ε' : Type} (f : ε → ε') (x : Traced ω ε α) : Traced ω ε' α :=
  ⟨x.notes, x.result.mapError f⟩

@[simp] theorem pure_def (a : α) : (pure a : Traced ω ε α) = ⟨[], .ok a⟩ := rfl

theorem bind_def (x : Traced ω ε α) (f : α → Traced ω ε β) : x >>= f = x.bind f := rfl

theorem bind_assoc {γ : Type} (x : Traced ω ε α) (f : α → Traced ω ε β) (g : β → Traced ω ε γ) :
    (x.bind f).bind g = x.bind fun a => (f a).bind g := by
  obtain ⟨w, _ | a⟩ := x
  · rfl
  · simp only [bind]
    split <;> simp_all

instance : LawfulMonad (Traced ω ε) where
  map_const := rfl
  id_map x := by
    obtain ⟨w, _ | a⟩ := x <;> simp [Functor.map, bind]
  seqLeft_eq x y := by
    obtain ⟨w, _ | a⟩ := x
    · rfl
    · obtain ⟨v, _ | b⟩ := y <;> simp [SeqLeft.seqLeft, Seq.seq, Functor.map, bind]
  seqRight_eq x y := by
    obtain ⟨w, _ | a⟩ := x
    · rfl
    · obtain ⟨v, _ | b⟩ := y <;> simp [SeqRight.seqRight, Seq.seq, Functor.map, bind]
  pure_seq f x := by
    obtain ⟨w, _ | a⟩ := x <;> simp [Seq.seq, Functor.map, bind]
  bind_pure_comp f x := rfl
  bind_map f x := rfl
  pure_bind a f := by simp [bind_def, bind]
  bind_assoc := bind_assoc

end Traced

end EnvAudit
