import EnvAudit.Proofs.Traced
import Mathlib.Data.List.Forall2

/-!
# EnvAudit.Proofs.Traced.Like

Two computations side by side. An observer sees some of the notes of each; the two are alike if what
is seen corresponds note by note, and if both fail or both end well, with ends that correspond
(`Traced.Like`). Computations that go on alike from ends that correspond are alike
(`Traced.Like.bind`), and so are loops through lists whose elements correspond
(`Traced.Like.foldlM`).
-/

namespace EnvAudit

variable {ω ε α β γ δ : Type}

/-- Both fail or both end well, with failures and results that correspond. -/
inductive Ends (failures : ε → ε → Prop) (results : α → β → Prop) :
    Except ε α → Except ε β → Prop
  | error {e f : ε} : failures e f → Ends failures results (.error e) (.error f)
  | ok {a : α} {b : β} : results a b → Ends failures results (.ok a) (.ok b)

variable {failures : ε → ε → Prop} {results : α → β → Prop} {results' : γ → δ → Prop}

namespace Ends

theorem refl {results : α → α → Prop} (hf : ∀ e, failures e e) (hr : ∀ a, results a a) :
    (x : Except ε α) → Ends failures results x x
  | .error e => .error (hf e)
  | .ok a => .ok (hr a)

/-- Results that are alike may be followed by what ends alike. -/
theorem bind {x : Except ε α} {y : Except ε β} {f : α → Except ε γ} {g : β → Except ε δ}
    (h : Ends failures results x y)
    (hf : ∀ {a b}, results a b → Ends failures results' (f a) (g b)) :
    Ends failures results' (x >>= f) (y >>= g) := by
  cases h with
  | error he => exact .error he
  | ok hr => exact hf hr

/-- What goes on from one end. -/
theorem bind_eq {x y : Except ε α} {f : α → Except ε γ} {g : α → Except ε δ}
    (h : Ends failures (· = ·) x y) (hf : ∀ a, Ends failures results' (f a) (g a)) :
    Ends failures results' (x >>= f) (y >>= g) := by
  refine h.bind ?_
  rintro a _ rfl
  exact hf a

theorem map {x : Except ε α} {y : Except ε β} {f : α → γ} {g : β → δ}
    (h : Ends failures results x y) (hf : ∀ {a b}, results a b → results' (f a) (g b)) :
    Ends failures results' (x.map f) (y.map g) := by
  cases h with
  | error he => exact .error he
  | ok hr => exact .ok (hf hr)

theorem mapError {ε' : Type} {failures' : ε' → ε' → Prop} {x : Except ε α} {y : Except ε β}
    (h : Ends failures results x y) {f : ε → ε'}
    (hf : ∀ {d e}, failures d e → failures' (f d) (f e)) :
    Ends failures' results (x.mapError f) (y.mapError f) := by
  cases h with
  | error he => exact .error (hf he)
  | ok hr => exact .ok hr

theorem mono {failures' : ε → ε → Prop} {x : Except ε α} {y : Except ε β}
    (h : Ends failures results x y) (hf : ∀ {e f}, failures e f → failures' e f) :
    Ends failures' results x y := by
  cases h with
  | error he => exact .error (hf he)
  | ok hr => exact .ok hr

/-- To be alike under equality is to be equal. -/
theorem eq {x y : Except ε α} : Ends (· = ·) (· = ·) x y ↔ x = y := by
  constructor
  · rintro (rfl | rfl) <;> rfl
  · rintro rfl
    exact refl (fun _ => rfl) (fun _ => rfl) x

end Ends

namespace Traced

/-- Computations that end alike and whose notes are alike to an observer, who sees those with `p` of
the first and those with `q` of the second. -/
structure Like (p q : ω → Bool) (seen : ω → ω → Prop) (failures : ε → ε → Prop)
    (results : α → β → Prop) (x : Traced ω ε α) (y : Traced ω ε β) : Prop where
  notes : List.Forall₂ seen (x.notes.filter p) (y.notes.filter q)
  result : Ends failures results x.result y.result

namespace Like

variable {p q : ω → Bool} {seen : ω → ω → Prop}

theorem pure {a : α} {b : β} (h : results a b) :
    Like p q seen failures results (Pure.pure a) (Pure.pure b) :=
  ⟨.nil, .ok h⟩

theorem fail {e f : ε} (h : failures e f) :
    Like p q seen failures results (.fail e) (.fail f) :=
  ⟨.nil, .error h⟩

theorem ofExcept {x : Except ε α} {y : Except ε β} (h : Ends failures results x y) :
    Like p q seen failures results (.ofExcept x) (.ofExcept y) :=
  ⟨.nil, h⟩

theorem mono {failures' : ε → ε → Prop} {x : Traced ω ε α} {y : Traced ω ε β}
    (h : Like p q seen failures results x y) (hf : ∀ {e f}, failures e f → failures' e f) :
    Like p q seen failures' results x y :=
  ⟨h.notes, h.result.mono hf⟩

/-- Notes that are seen on both sides. -/
theorem note {v w : ω} (hp : p v) (hq : q w) (h : seen v w) :
    Like p q seen failures (fun _ _ => True) (.note v) (.note w) :=
  ⟨by simpa [Traced.note, hp, hq] using h, .ok trivial⟩

/-- Notes that are seen on neither side, whether they are made or not. -/
theorem noteIf {b c : Bool} {v w : ω} (hp : b → ¬p v) (hq : c → ¬q w) :
    Like p q seen failures (fun _ _ => True) (.noteIf b v) (.noteIf c w) := by
  refine ⟨?_, ?_⟩
  · cases b <;> cases c <;> simp_all [Traced.noteIf, Traced.note]
  · simpa using .ok trivial

/-- What goes on has to be alike only where the first parts end well. -/
theorem bind_of_ends {x : Traced ω ε α} {y : Traced ω ε β} {f : α → Traced ω ε γ}
    {g : β → Traced ω ε δ} (h : Like p q seen failures results x y)
    (hf : ∀ {a b}, x.result = .ok a → y.result = .ok b → results a b →
      Like p q seen failures results' (f a) (g b)) :
    Like p q seen failures results' (x >>= f) (y >>= g) := by
  obtain ⟨hnotes, hresult⟩ := h
  cases hx : x.result with
  | error e =>
    rw [hx] at hresult
    cases hy : y.result with
    | ok b =>
      rw [hy] at hresult
      cases hresult
    | error e' =>
      rw [hy] at hresult
      rw [bind_of_error hx, bind_of_error hy]
      cases hresult with
      | error he => exact ⟨hnotes, .error he⟩
  | ok a =>
    rw [hx] at hresult
    cases hy : y.result with
    | error e' =>
      rw [hy] at hresult
      cases hresult
    | ok b =>
      rw [hy] at hresult
      cases hresult with
      | ok hr =>
        rw [bind_of_ok hx, bind_of_ok hy]
        refine ⟨?_, (hf hx hy hr).result⟩
        simpa only [List.filter_append] using List.rel_append hnotes (hf hx hy hr).notes

theorem bind {x : Traced ω ε α} {y : Traced ω ε β} {f : α → Traced ω ε γ} {g : β → Traced ω ε δ}
    (h : Like p q seen failures results x y)
    (hf : ∀ {a b}, results a b → Like p q seen failures results' (f a) (g b)) :
    Like p q seen failures results' (x >>= f) (y >>= g) :=
  h.bind_of_ends fun _ _ hr => hf hr

/-- What goes on from one end. -/
theorem bind_eq {x y : Traced ω ε α} {f : α → Traced ω ε γ} {g : α → Traced ω ε δ}
    (h : Like p q seen failures (· = ·) x y)
    (hf : ∀ a, Like p q seen failures results' (f a) (g a)) :
    Like p q seen failures results' (x >>= f) (y >>= g) := by
  refine h.bind ?_
  rintro a _ rfl
  exact hf a

/-- From ends that correspond, loops through elements that correspond go on alike. -/
theorem foldlM {σ τ : Type} {elements : σ → τ → Prop} {f : α → σ → Traced ω ε α}
    {g : β → τ → Traced ω ε β} {l : List σ} {m : List τ} (h : List.Forall₂ elements l m)
    (hf : ∀ {a b s t}, results a b → elements s t →
      Like p q seen failures results (f a s) (g b t)) {a : α} {b : β} (hr : results a b) :
    Like p q seen failures results (l.foldlM f a) (m.foldlM g b) := by
  induction h generalizing a b with
  | nil => exact .pure hr
  | cons hst _ ih =>
    rw [List.foldlM_cons, List.foldlM_cons]
    exact (hf hr hst).bind ih

end Like

end Traced

end EnvAudit
