import Mathlib

/-!
# Programs that run along a transition system

A program of `EStateM ε σ` changes a state in many small ways. Seen through `view : σ → τ`, which
keeps what matters and forgets the rest, each of those ways is a step of a `System`, or none at
all. `Tracks view S m Q k s` says that a run of `m` from `s` that returns is a path of `S` on pairs
of a ghost and a view, from `(k, view s)`, and that `Q` holds of the result, the ghost and the
state it ends in. The ghost `κ` is no part of the program: it remembers what the program is in the
middle of, so that the guards of the steps can say when a change is legal.

A system carries an invariant with the proof that its steps keep it, so a program may use the
invariant wherever it stands (`Tracks.assuming`) and never re-establishes it. What else a path
preserves is proved by cases on the steps (`Relation.ReflTransGen.invariant`), once, and holds of
every state any such program goes through.

Nothing in this file is about a particular program.
-/

namespace Relation.ReflTransGen

variable {α : Type} {R : α → α → Prop} {a b : α}

/-- What every step preserves, a path preserves. -/
theorem invariant {I : α → Prop} (hstep : ∀ x y, I x → R x y → I y) (h : ReflTransGen R a b)
    (ha : I a) : I b := by
  induction h with
  | refl => exact ha
  | tail _ hbc ih => exact hstep _ _ ih hbc

end Relation.ReflTransGen

namespace Lib

/-- A transition relation with an invariant of it. -/
structure System (α : Type) where
  step : α → α → Prop
  inv : α → Prop
  keeps : ∀ x y, inv x → step x y → inv y

namespace System

variable {α : Type} (S : System α)

/-- The system runs from one state to another. -/
def Path : α → α → Prop := Relation.ReflTransGen S.step

/-- The invariant holds along a path. -/
theorem inv_of_path {a b : α} (h : S.Path a b) (ha : S.inv a) : S.inv b :=
  Relation.ReflTransGen.invariant S.keeps h ha

end System

variable {ε σ τ κ α β : Type}

/-- `m` runs along `S` from `(k, s)`, and `Q` holds where it returns. -/
def Tracks (view : σ → τ) (S : System (κ × τ)) (m : EStateM ε σ α) (Q : α → κ → σ → Prop)
    (k : κ) (s : σ) : Prop :=
  S.inv (k, view s) → ∀ ⦃a : α⦄ ⦃s' : σ⦄, m s = .ok a s' →
    ∃ k', S.Path (k, view s) (k', view s') ∧ Q a k' s'

namespace Tracks

variable {view : σ → τ} {S S' : System (κ × τ)} {m : EStateM ε σ α}
  {Q Q' : α → κ → σ → Prop} {k l : κ} {s t : σ}

/-- The invariant of the system holds where the program stands. -/
theorem assuming (h : S.inv (k, view s) → Tracks view S m Q k s) : Tracks view S m Q k s :=
  fun hinv => h hinv hinv

/-- A weaker postcondition. -/
theorem mono (h : Tracks view S m Q k s) (hQ : ∀ a k s, Q a k s → Q' a k s) :
    Tracks view S m Q' k s := by
  intro hinv a s' hm
  obtain ⟨k', hpath, hq⟩ := h hinv hm
  exact ⟨k', hpath, hQ a k' s' hq⟩

/-- A postcondition may use the path, and so what every path preserves. -/
theorem along (h : Tracks view S m Q k s)
    (hQ : ∀ a k' s', S.Path (k, view s) (k', view s') → Q a k' s' → Q' a k' s') :
    Tracks view S m Q' k s := by
  intro hinv a s' hm
  obtain ⟨k', hpath, hq⟩ := h hinv hm
  exact ⟨k', hpath, hQ a k' s' hpath hq⟩

/-- A larger system. -/
theorem weaken (h : Tracks view S m Q k s) (hstep : ∀ x y, S.step x y → S'.step x y)
    (hinv : ∀ x, S'.inv x → S.inv x) : Tracks view S' m Q k s := by
  intro hi a s' hm
  obtain ⟨k', hpath, hq⟩ := h (hinv _ hi) hm
  exact ⟨k', Relation.ReflTransGen.mono hstep _ _ hpath, hq⟩

/-- A ghost path before the program. -/
theorem before (hpath : S.Path (k, view s) (l, view s)) (h : Tracks view S m Q l s) :
    Tracks view S m Q k s := by
  intro hinv a s' hm
  obtain ⟨k'', hpath', hq⟩ := h (S.inv_of_path hpath hinv) hm
  exact ⟨k'', hpath.trans hpath', hq⟩

/-- One ghost step before the program. -/
theorem ghost (hstep : S.step (k, view s) (l, view s)) (h : Tracks view S m Q l s) :
    Tracks view S m Q k s := before (.single hstep) h

/-- A ghost path after the program. -/
theorem after (h : Tracks view S m (fun a k s =>
    ∃ k', S.Path (k, view s) (k', view s) ∧ Q a k' s) k s) : Tracks view S m Q k s := by
  intro hinv a s' hm
  obtain ⟨k', hpath, k'', hpath', hq⟩ := h hinv hm
  exact ⟨k'', hpath.trans hpath', hq⟩

/-! ## Rules for programs -/

/-- A program whose outcome is known. -/
theorem runs {a : α} (hm : m s = .ok a t) (hpath : S.Path (k, view s) (l, view t))
    (h : Q a l t) : Tracks view S m Q k s := by
  intro _ b s₁ hrun
  rw [hm] at hrun
  cases hrun
  exact ⟨l, hpath, h⟩

/-- A program that only looks. -/
theorem reads {a : α} (hm : m s = .ok a s) (h : Q a k s) : Tracks view S m Q k s :=
  runs hm .refl h

/-- A program that changes the state where the view does not look. -/
theorem unseen {a : α} (hm : m s = .ok a t) (hview : view t = view s) (h : Q a k t) :
    Tracks view S m Q k s := runs hm (hview ▸ .refl) h

/-- A program that is one step. -/
theorem acts {a : α} (hm : m s = .ok a t) (hstep : S.step (k, view s) (l, view t))
    (h : Q a l t) : Tracks view S m Q k s := runs hm (.single hstep) h

/-- A program that throws. -/
theorem fails {e : ε} (hm : m s = .error e t) : Tracks view S m Q k s := by
  intro _ b s₁ hrun
  rw [hm] at hrun
  cases hrun

/-- What only returns stays where it is. -/
theorem pure {a : α} (h : Q a k s) : Tracks view S (Pure.pure a : EStateM ε σ α) Q k s := by
  intro _ a' s' hm
  cases hm
  exact ⟨k, .refl, h⟩

/-- What throws promises nothing. -/
theorem throw (e : ε) : Tracks view S (MonadExcept.throw e : EStateM ε σ α) Q k s := by
  intro _ a s' hm
  cases hm

/-- Two programs in a row: the second goes on where the first has come to. -/
theorem bind {f : α → EStateM ε σ β} {Q : β → κ → σ → Prop}
    (h : Tracks view S m (fun a k s => Tracks view S (f a) Q k s) k s) :
    Tracks view S (m >>= f) Q k s := by
  intro hinv b s' hm
  change EStateM.bind m f s = _ at hm
  unfold EStateM.bind at hm
  split at hm
  · rename_i a s₁ hrun
    obtain ⟨k₁, hpath, hf⟩ := h hinv hrun
    obtain ⟨k', hpath', hq⟩ := hf (S.inv_of_path hpath hinv) hm
    exact ⟨k', hpath.trans hpath', hq⟩
  · cases hm

/-- Several changes of the state that the system makes at once: from here the program does what
`m'` does from further along the path. -/
theorem leap {n : EStateM ε σ α} (hm : m s = n t) (hpath : S.Path (k, view s) (l, view t))
    (h : Tracks view S n Q l t) : Tracks view S m Q k s := by
  intro hinv a s' hrun
  rw [hm] at hrun
  obtain ⟨k', hpath', hq⟩ := h (S.inv_of_path hpath hinv) hrun
  exact ⟨k', hpath.trans hpath', hq⟩

/-- Two changes of the state that the system makes at once. -/
theorem together {γ : Type} {m₂ : α → EStateM ε σ β} {f : β → EStateM ε σ γ}
    {Q : γ → κ → σ → Prop} {a : α} {b : β} {u : σ} (h₁ : m s = .ok a u)
    (h₂ : m₂ a u = .ok b t) (hpath : S.Path (k, view s) (l, view t))
    (h : Tracks view S (f b) Q l t) : Tracks view S (m >>= fun a => m₂ a >>= f) Q k s := by
  refine leap ?_ hpath h
  change EStateM.bind m _ s = _
  rw [EStateM.bind, h₁]
  change EStateM.bind (m₂ a) f u = _
  rw [EStateM.bind, h₂]

/-- What is made of the value moves nothing. -/
theorem map {f : α → β} {Q : β → κ → σ → Prop}
    (h : Tracks view S m (fun a k s => Q (f a) k s) k s) : Tracks view S (f <$> m) Q k s := by
  have hmap : f <$> m = m >>= fun a => Pure.pure (f a) := (bind_pure_comp f m).symm
  rw [hmap]
  exact bind (h.mono fun a k s hq => pure hq)

/-- A state that is read moves nothing. -/
theorem get {Q : σ → κ → σ → Prop} (h : Q s k s) :
    Tracks view S (MonadState.get : EStateM ε σ σ) Q k s := by
  intro _ a s' hm
  cases hm
  exact ⟨k, .refl, h⟩

/-- The state changes along a path. -/
theorem modifies {f : σ → σ} {Q : Unit → κ → σ → Prop}
    (hpath : S.Path (k, view s) (l, view (f s))) (h : Q () l (f s)) :
    Tracks view S (modify f : EStateM ε σ Unit) Q k s := by
  intro _ a s' hm
  cases hm
  exact ⟨l, hpath, h⟩

/-- A conditional, the branch known in each. -/
theorem ite {c : Prop} [Decidable c] {m₁ m₂ : EStateM ε σ α}
    (h₁ : c → Tracks view S m₁ Q k s) (h₂ : ¬ c → Tracks view S m₂ Q k s) :
    Tracks view S (if c then m₁ else m₂) Q k s := by
  split
  · exact h₁ ‹_›
  · exact h₂ ‹_›

end Tracks

end Lib
