import HereToSlaughter.Lib.Checked

/-!
# Programs that go along a relation

`Along thrown r m` says that every run of the program `m` of `EStateM ε σ` takes the state from
where it was to where it ends by steps of `r`, however many: every run that returns, and where
`thrown` holds every run that throws as well, up to the state it is thrown in. It asks nothing of
the state a run begins in, so the rules below follow the text of a program and nothing else, and a
program that is put together of such programs is one of them. A preorder that holds
of every step of `r` holds between the beginning and the end of every such run (`Along.relates`).

Nothing in this file is about a particular program.
-/

namespace Lib

variable {ε σ α β : Type} {thrown : Prop}

/-- The state a run has come to when it is over, whether it has returned or thrown. -/
def comesTo (m : EStateM ε σ α) (s : σ) : σ :=
  match m s with
  | .ok _ s' => s'
  | .error _ s' => s'

/-- A program that returns comes to the state it returns in. -/
theorem comesTo_of_ok {m : EStateM ε σ α} {s s' : σ} {a : α} (h : m s = .ok a s') :
    comesTo m s = s' := by rw [comesTo, h]

/-- One that throws comes to the state it throws in. -/
theorem comesTo_of_error {m : EStateM ε σ α} {s s' : σ} {e : ε} (h : m s = .error e s') :
    comesTo m s = s' := by rw [comesTo, h]

/-- A sequence comes to where its second part does, if the first part returns. -/
theorem comesTo_bind {m : EStateM ε σ α} {f : α → EStateM ε σ β} {s t : σ} {a : α}
    (h : m s = .ok a t) : comesTo (m >>= f) s = comesTo (f a) t := by
  have hbind : (m >>= f) s = f a t := by
    change EStateM.bind m f s = _
    rw [EStateM.bind, h]
  rw [comesTo, comesTo, hbind]

/-- Every run of `m` that returns goes along `r`, and where `thrown` holds every run that throws
does. -/
structure Along (thrown : Prop) (r : σ → σ → Prop) (m : EStateM ε σ α) : Prop where
  returns : ∀ ⦃s : σ⦄ ⦃a : α⦄ ⦃s' : σ⦄, m s = .ok a s' → Relation.ReflTransGen r s s'
  throws : thrown → ∀ ⦃s : σ⦄ ⦃e : ε⦄ ⦃s' : σ⦄, m s = .error e s' → Relation.ReflTransGen r s s'

namespace Along

variable {r : σ → σ → Prop} {m : EStateM ε σ α}

/-- Where throwing runs count, the state a run comes to is reached along `r`. -/
theorem reaches (hm : Along True r m) (s : σ) : Relation.ReflTransGen r s (comesTo m s) := by
  cases h : m s with
  | ok a s' => exact comesTo_of_ok h ▸ hm.returns h
  | error e s' => exact comesTo_of_error h ▸ hm.throws trivial h

/-- The other way round: it is enough to look at the state every run comes to. -/
theorem of_reaches (h : ∀ s, Relation.ReflTransGen r s (comesTo m s)) : Along thrown r m where
  returns s _ _ hm := comesTo_of_ok hm ▸ h s
  throws _ s _ _ hm := comesTo_of_error hm ▸ h s

/-- Where throwing runs do not count. -/
theorem of_returns (h : ∀ ⦃s : σ⦄ ⦃a : α⦄ ⦃s' : σ⦄, m s = .ok a s' → Relation.ReflTransGen r s s') :
    Along False r m := ⟨h, fun hthrown => hthrown.elim⟩

/-- From every state the program does what one that goes along `r` does from further along. -/
theorem leap (h : ∀ s, ∃ (n : EStateM ε σ α) (t : σ), m s = n t ∧ Relation.ReflTransGen r s t ∧
    Along thrown r n) : Along thrown r m where
  returns s a s' hm := by
    obtain ⟨n, t, hsame, hpath, hn⟩ := h s
    exact hpath.trans (hn.returns (hsame ▸ hm))
  throws hthrown s e s' hm := by
    obtain ⟨n, t, hsame, hpath, hn⟩ := h s
    exact hpath.trans (hn.throws hthrown (hsame ▸ hm))

/-- What only returns changes nothing. -/
theorem pure (a : α) : Along thrown r (Pure.pure a : EStateM ε σ α) := of_reaches fun _ => .refl

/-- Nor does what only throws. -/
theorem throw (e : ε) : Along thrown r (MonadExcept.throw e : EStateM ε σ α) :=
  of_reaches fun _ => .refl

/-- Two programs in a row: what the first has done stands, whether it returns or throws. -/
theorem bind {f : α → EStateM ε σ β} (hm : Along thrown r m) (hf : ∀ a, Along thrown r (f a)) :
    Along thrown r (m >>= f) where
  returns s b s' h := by
    obtain ⟨a, t, hrun, h⟩ := ran_of_bind h
    exact (hm.returns hrun).trans ((hf a).returns h)
  throws hthrown s e s' h := by
    obtain h | ⟨a, t, hrun, h⟩ := threw_of_bind h
    · exact hm.throws hthrown h
    · exact (hm.returns hrun).trans ((hf a).throws hthrown h)

/-- What is made of the value changes nothing. -/
theorem map {f : α → β} (hm : Along thrown r m) : Along thrown r (f <$> m) := by
  have hmap : f <$> m = m >>= fun a => Pure.pure (f a) := (bind_pure_comp f m).symm
  rw [hmap]
  exact bind hm fun a => pure _

/-- A conditional goes along if both its branches do. -/
theorem ite {c : Prop} [Decidable c] {m₁ m₂ : EStateM ε σ α} (h₁ : Along thrown r m₁)
    (h₂ : Along thrown r m₂) : Along thrown r (if c then m₁ else m₂) := by
  split
  · exact h₁
  · exact h₂

/-- A program that only looks. -/
theorem reads (h : ∀ s, ∃ a, m s = .ok a s) : Along thrown r m := by
  refine of_reaches fun s => ?_
  obtain ⟨a, ha⟩ := h s
  rw [comesTo_of_ok ha]

/-- A state that is read is not changed. -/
theorem get : Along thrown r (MonadState.get : EStateM ε σ σ) := reads fun s => ⟨s, rfl⟩

/-- A program that makes one change, whatever it returns. -/
theorem changes {f : σ → α × σ} (h : ∀ s, Relation.ReflTransGen r s (f s).2) :
    Along thrown r (modifyGet f : EStateM ε σ α) := of_reaches h

/-- A change that the relation allows. -/
theorem modifies {f : σ → σ} (h : ∀ s, Relation.ReflTransGen r s (f s)) :
    Along thrown r (modify f : EStateM ε σ PUnit) := of_reaches h

/-- A preorder that holds of every step holds from the beginning of a run to its end. -/
theorem relates {R : σ → σ → Prop} [Std.Refl R] [IsTrans σ R] (hm : Along thrown r m)
    (hstep : ∀ s t, r s t → R s t) {s s' : σ} {a : α} (h : m s = .ok a s') : R s s' :=
  Relation.reflTransGen_le_of_le hstep _ _ (hm.returns h)

/-- The same of the state a run comes to, where throwing runs count. -/
theorem relates_comesTo {R : σ → σ → Prop} [Std.Refl R] [IsTrans σ R] (hm : Along True r m)
    (hstep : ∀ s t, r s t → R s t) (s : σ) : R s (comesTo m s) :=
  Relation.reflTransGen_le_of_le hstep _ _ (hm.reaches s)

end Along

end Lib
