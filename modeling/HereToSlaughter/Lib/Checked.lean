import Mathlib

/-!
# Checked computations, read backwards

What a computation of `Except` or of `EStateM` has done when it has returned: each of its parts has
returned, and a list that was mapped has been mapped element by element.

Nothing in this file is about a particular program.
-/

namespace Lib

variable {ε α β : Type}

/-- A sequence that returned ran both of its parts. -/
theorem ok_of_bind {m : Except ε α} {f : α → Except ε β} {b : β} (h : m >>= f = .ok b) :
    ∃ a, m = .ok a ∧ f a = .ok b := by
  cases m with
  | error e => cases h
  | ok a => exact ⟨a, rfl, h⟩

/-- The same with a state: the second part ran from where the first one ended. -/
theorem ran_of_bind {σ : Type} {m : EStateM ε σ α} {f : α → EStateM ε σ β} {s s' : σ} {b : β}
    (h : (m >>= f) s = .ok b s') : ∃ a t, m s = .ok a t ∧ f a t = .ok b s' := by
  change EStateM.bind m f s = _ at h
  unfold EStateM.bind at h
  split at h
  · exact ⟨_, _, ‹_›, h⟩
  · cases h

/-- A sequence that threw threw in its first part, or in its second part. -/
theorem threw_of_bind {σ : Type} {m : EStateM ε σ α} {f : α → EStateM ε σ β} {s s' : σ} {e : ε}
    (h : (m >>= f) s = .error e s') :
    m s = .error e s' ∨ ∃ a t, m s = .ok a t ∧ f a t = .error e s' := by
  change EStateM.bind m f s = _ at h
  unfold EStateM.bind at h
  split at h
  · exact .inr ⟨_, _, ‹_›, h⟩
  · cases h
    exact .inl ‹_›

/-- A value taken out of a result was returned. -/
theorem ok_of_toOption {m : Except ε α} {a : α} (h : m.toOption = some a) : m = .ok a := by
  cases m with
  | error e => cases h
  | ok b => cases h; rfl

/-- A map that returned returned on every element. -/
theorem forall₂_of_mapM {f : α → Except ε β} : ∀ {l : List α} {l' : List β},
    l.mapM f = .ok l' → List.Forall₂ (fun a b => f a = .ok b) l l'
  | [], _, h => by cases h; exact .nil
  | a :: l, l', h => by
    rw [List.mapM_cons] at h
    obtain ⟨b, hb, h⟩ := ok_of_bind h
    obtain ⟨bs, hbs, h⟩ := ok_of_bind h
    cases h
    exact .cons hb (forall₂_of_mapM hbs)

/-- What a list was mapped from. -/
theorem exists_of_mem_forall₂ {R : α → β → Prop} {l : List α} {l' : List β}
    (h : List.Forall₂ R l l') {b : β} (hb : b ∈ l') : ∃ a ∈ l, R a b := by
  induction h with
  | nil => cases hb
  | @cons a b' l l' hab _ ih =>
    rcases List.mem_cons.1 hb with rfl | hb
    · exact ⟨a, List.mem_cons_self, hab⟩
    · obtain ⟨a', ha', hR⟩ := ih hb
      exact ⟨a', List.mem_cons_of_mem _ ha', hR⟩

end Lib
