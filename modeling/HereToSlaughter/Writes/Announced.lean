import HereToSlaughter.Writes.Engine

/-!
# What is announced

The history only grows, whatever the engine does. So an operation that emits an event on every way
through it that returns has announced something when it is over, and so has every operation it is
a part of.

Reference: `events/game-event-emitter.ts`, `reactions/*.ts`.
-/

namespace HereToSlaughter

open Lib EngineM

/-! ## The history grows -/

/-- The history of a state goes on in a later one. -/
def Grows (w w' : World) : Prop := w.history <:+ w'.history

/-- A state with the same history goes on from it. -/
theorem Grows.of_eq {w w' : World} (h : w'.history = w.history) : Grows w w' := ⟨[], h.symm⟩

instance : Std.Refl Grows := ⟨fun _ => .of_eq rfl⟩

instance : IsTrans World Grows := ⟨fun _ _ _ h h' => List.IsSuffix.trans h h'⟩

/-- No write takes anything off the history. -/
theorem Write.grows {w w' : World} (h : Write w w') : Grows w w' := by
  cases h with
  | aside _ hhistory => exact .of_eq hhistory
  | mark | spend => exact List.suffix_cons _ _
  | _ => exact List.suffix_refl _

/-- So nothing the engine does takes anything off it. -/
theorem Writes.grows {α : Type} {m : EngineM α} (hm : Writes m) {w w' : World} {a : α}
    (h : m w = .ok a w') : Grows w w' := hm.relates (fun _ _ => Write.grows) h

/-- An event has gone out on the way from one state to a later one. -/
def Announced (w w' : World) : Prop :=
  ∃ marks, w'.history = marks ++ w.history ∧ ∃ event gs, Mark.emitted event gs ∈ marks

namespace Announced

variable {w₀ w w' w'' : World}

/-- What was announced stays so whatever comes after. -/
theorem followed (h : Announced w w') (hgrows : Grows w' w'') : Announced w w'' := by
  obtain ⟨marks, hmarks, event, gs, hmem⟩ := h
  obtain ⟨later, hlater⟩ := hgrows
  exact ⟨later ++ marks, by rw [← hlater, hmarks, List.append_assoc], event, gs,
    List.mem_append_right _ hmem⟩

/-- What is announced stays so whatever came before. -/
theorem preceded (hgrows : Grows w₀ w) (h : Announced w w') : Announced w₀ w' := by
  obtain ⟨marks, hmarks, event, gs, hmem⟩ := h
  obtain ⟨earlier, hearlier⟩ := hgrows
  exact ⟨marks ++ earlier, by rw [hmarks, ← hearlier, List.append_assoc], event, gs,
    List.mem_append_left _ hmem⟩

/-- Only the history of the first state counts. -/
theorem congr {t : World} (hhistory : t.history = w.history) (h : Announced t w') :
    Announced w w' := preceded (.of_eq hhistory) h

end Announced

/-! ## Programs that announce something -/

/-- Every run that returns announces something. -/
def Announces {α : Type} (m : EngineM α) : Prop :=
  ∀ ⦃w a w'⦄, m w = .ok a w' → Announced w w'

namespace Announces

variable {α β : Type}

/-- An operation that throws returns on no way through it. -/
theorem throw (e : EngineError) : Announces (MonadExcept.throw e : EngineM α) := by
  intro w a w' h
  cases h

/-- What begins by announcing announces. -/
theorem first {m : EngineM α} {f : α → EngineM β} (hm : Announces m) (hf : ∀ a, Writes (f a)) :
    Announces (m >>= f) := by
  intro w b w' h
  obtain ⟨a, t, hrun, h⟩ := ran_of_bind h
  exact (hm hrun).followed ((hf a).grows h)

/-- What ends by announcing announces. -/
theorem next {m : EngineM α} {f : α → EngineM β} (hm : Writes m) (hf : ∀ a, Announces (f a)) :
    Announces (m >>= f) := by
  intro w b w' h
  obtain ⟨a, t, hrun, h⟩ := ran_of_bind h
  exact .preceded (hm.grows hrun) (hf a h)

/-- A conditional announces if both its branches do. -/
theorem ite {c : Prop} [Decidable c] {m₁ m₂ : EngineM α} (h₁ : Announces m₁) (h₂ : Announces m₂) :
    Announces (if c then m₁ else m₂) := by
  split
  · exact h₁
  · exact h₂

section
variable {T : Table} {n : Nat}

/-- An event that goes out is announced: it is on the history before anybody hears it. -/
theorem emit : ∀ n event, Announces (HereToSlaughter.emit T n event)
  | 0, _ => .throw _
  | n + 1, event => by
    intro w a w' h
    have hmark : Announced w { w with history := .emitted event w.gs :: w.history } :=
      ⟨[_], rfl, event, w.gs, List.mem_cons_self⟩
    exact hmark.followed ((Writes.heard (Writes.emit n) n event).grows h)

/-! ## Answers -/

/-- A bonus on a roll is announced. -/
theorem submitToRoll {frameId : Nat} {win : Window} {body : RollBody} {playerId : String}
    {value : Option Int} {cardId : Option String} :
    Announces (HereToSlaughter.submitToRoll (HereToSlaughter.emit T n) frameId win body playerId
      value cardId none) := by
  refine .next .getGs fun gs => .next (.window _ fun v => ?_) fun _ => .first (emit n _) fun _ => ?_
  · exact ⟨rfl, fun h => h, fun _ => .inl rfl⟩
  · refine .bind Writes.now fun _ => .bind (Writes.window _ fun v => .resetTimer _) fun _ => ?_
    refine .bind (.modifies fun _ => .single (.restart _ _)) fun _ => ?_
    exact .bind (Writes.announceStanding (Writes.emit n) _ _) fun _ => .pure _

/-- A question that is settled is announced: its window closes, whatever it was answered with. -/
theorem resolveChoice {frameId : Nat} {win : Window} {body : ChoiceBody} :
    Announces (HereToSlaughter.resolveChoice T (HereToSlaughter.emit T n) frameId win body) := by
  refine .next .now fun _ => .next (.restart _ _) fun _ => .next (.drawDefault body) fun index => ?_
  refine .next .getGs fun gs => .next (.window _ fun v => ?_) fun _ => ?_
  · exact ⟨rfl, fun h => (nomatch h), fun h => (nomatch h)⟩
  extract_lets rest
  have hrest : Announces (rest ()) := by
    refine .next .getGs fun gs => ?_
    extract_lets all last say
    have hsay : Announces (say ()) := .first (emit n _) fun _ =>
      .bind (Writes.announceOutcome (Writes.emit n) _ _) fun _ => .ite (Writes.emit n _) (.pure ())
    exact .ite (.next (.releaseFrame _) fun _ => hsay) hsay
  exact .ite (.next (.state (fun _ => rfl) fun _ => rfl) fun _ => hrest) hrest

end

end Announces

end HereToSlaughter
