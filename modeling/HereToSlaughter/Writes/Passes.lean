import HereToSlaughter.Writes.Tagged

/-!
# What becomes of the passes

What no operation but a pass does to a window that stays open: it may take the passes back, because
a bonus, a target, a contest or a spent card has landed on the window, and as long as none has, the
passes stand and so does all that a settlement reads. `PassesKept` says so between two states and
holds of every write.
-/

namespace HereToSlaughter

open Lib EngineM

/-! ## Open windows -/

namespace GameState

/-- An open window after one was changed is that one, or was open before. -/
theorem mem_openWindows_modifyWindow {gs : GameState} {windowId : Nat} {f : Window → Window}
    {v' : Window} (h : v' ∈ (gs.modifyWindow windowId f).openWindows) :
    ∃ e ∈ gs.frames.entries, ∃ v ∈ e.2.windows, v'.isOpen = true ∧
      v' = if v.id = windowId then f v else v := by
  obtain ⟨e', he', hv', hopen⟩ := mem_openWindows.1 h
  obtain ⟨e, he, rfl⟩ := List.mem_map.1 he'
  obtain ⟨v, hv, rfl⟩ := List.mem_map.1 hv'
  exact ⟨e, he, v, hv, hopen, rfl⟩

/-- An open window that is written to and stays open. -/
theorem mem_openWindows_modifyWindow_self {gs : GameState} {f : Window → Window} {v : Window}
    (hv : v ∈ gs.openWindows) (hopen : (f v).isOpen = true) :
    f v ∈ (gs.modifyWindow v.id f).openWindows := by
  obtain ⟨e, he, hv, -⟩ := mem_openWindows.1 hv
  refine mem_openWindows.2 ⟨_, List.mem_map_of_mem he, List.mem_map.2 ⟨v, hv, if_pos rfl⟩, hopen⟩

end GameState

/-- The window that is told when a card is spent: the one a bonus could go into. -/
def Mark.spentOn : Mark → Option Nat
  | .spent _ _ _ gs => gs.findOpenModifiableWindow.map fun e => e.2.id
  | _ => none

/-- From one state to a later one, no card was spent on the window. -/
def Unspent (windowId : Nat) (w w' : World) : Prop :=
  ∃ marks, w'.history = marks ++ w.history ∧ ∀ m ∈ marks, m.spentOn ≠ some windowId

namespace Unspent

variable {w w' w'' : World} {i : Nat}

/-- Where nothing is written nothing is spent. -/
theorem refl : Unspent i w w := ⟨[], rfl, fun _ h => (nomatch h)⟩

/-- Nor where the history is as it was. -/
theorem of_eq (h : w'.history = w.history) : Unspent i w w' := ⟨[], h, fun _ h => (nomatch h)⟩

/-- Nor over two stretches that spend nothing. -/
theorem trans (h : Unspent i w w') (h' : Unspent i w' w'') : Unspent i w w'' := by
  obtain ⟨marks, heq, hmarks⟩ := h
  obtain ⟨marks', heq', hmarks'⟩ := h'
  refine ⟨marks' ++ marks, by rw [heq', heq, List.append_assoc], fun m hm => ?_⟩
  exact (List.mem_append.1 hm).elim (hmarks' m) (hmarks m)

end Unspent

/-- What becomes of the windows: one that is open has no passes, or it was open with the same passes
and the same stakes, and no card was spent on it since. -/
def PassesKept (w w' : World) : Prop :=
  ∀ v' ∈ w'.gs.openWindows, v'.passedBy = [] ∨
    ∃ v ∈ w.gs.openWindows, v'.id = v.id ∧ v'.passedBy = v.passedBy ∧ v'.stakes = v.stakes ∧
      Unspent v.id w w'

namespace PassesKept

variable {w w' w'' : World}

/-- Passes are kept where nothing happens. -/
theorem refl : PassesKept w w := fun v hv => .inr ⟨v, hv, rfl, rfl, rfl, .refl⟩

/-- Passes kept twice are kept. -/
theorem trans (h : PassesKept w w') (h' : PassesKept w' w'') : PassesKept w w'' := by
  intro v'' hv''
  obtain hnil | ⟨v', hv', hid', hpassed', hstakes', hspent'⟩ := h' v'' hv''
  · exact .inl hnil
  obtain hnil | ⟨v, hv, hid, hpassed, hstakes, hspent⟩ := h v' hv'
  · exact .inl (hpassed'.trans hnil)
  exact .inr ⟨v, hv, hid'.trans hid, hpassed'.trans hpassed, hstakes'.trans hstakes,
    hspent.trans (hid ▸ hspent')⟩

instance : Std.Refl PassesKept := ⟨fun _ => refl⟩

instance : IsTrans World PassesKept := ⟨fun _ _ _ => trans⟩

/-- The windows that are open follow windows that stood, and no card is spent. -/
theorem of_follows (h : ∀ v' ∈ w'.gs.openWindows, v'.passedBy = [] ∨
      ∃ e ∈ w.gs.frames.entries, ∃ v ∈ e.2.windows, v.Follows v')
    (hhistory : ∀ i, Unspent i w w') : PassesKept w w' := by
  intro v' hv'
  have hopen' : v'.isOpen = true := by
    obtain ⟨-, -, -, hopen⟩ := GameState.mem_openWindows.1 hv'
    exact hopen
  obtain hnil | ⟨e, he, v, hv, hfollows⟩ := h v' hv'
  · exact .inl hnil
  obtain hnil | ⟨hpassed, hstakes⟩ := hfollows.kept hopen'
  · exact .inl hnil
  exact .inr ⟨v, GameState.mem_openWindows.2 ⟨e, he, hv, hfollows.stands hopen'⟩, hfollows.id,
    hpassed, hstakes, hhistory _⟩

/-- The frames that stand stood, and no card is spent. -/
theorem of_frames (h : ∀ e ∈ w'.gs.frames.entries, e ∈ w.gs.frames.entries ∨ e.2.windows = [])
    (hhistory : ∀ i, Unspent i w w') : PassesKept w w' := by
  refine of_follows (fun v' hv' => .inr ?_) hhistory
  obtain ⟨e, he, hv, -⟩ := GameState.mem_openWindows.1 hv'
  obtain he | hnil := h e he
  · exact ⟨e, he, v', hv, .refl⟩
  · rw [hnil] at hv
    cases hv

/-- A card that is spent takes the passes of the window that is told. -/
theorem spend (now : Nat) (playerId cardId : String) (frameId : Nat) : PassesKept w { w with
    gs := w.gs.spendCard now playerId cardId
    history := .spent playerId cardId frameId w.gs :: w.history } := by
  intro v' hv'
  have hsame : (w.gs.modifyBoard fun b =>
      (b.removeFromHand playerId cardId).addInstanceCard playerId cardId).findOpenModifiableWindow =
        w.gs.findOpenModifiableWindow := rfl
  dsimp only [GameState.spendCard] at hv'
  rw [hsame] at hv'
  have hother : ∀ v : Window, w.gs.findOpenModifiableWindow.map (fun e => e.2.id) ≠ some v.id →
      Unspent v.id w { w with
        gs := w.gs.spendCard now playerId cardId
        history := .spent playerId cardId frameId w.gs :: w.history } := by
    refine fun v hne => ⟨[_], rfl, fun m hm => ?_⟩
    rw [List.mem_singleton.1 hm]
    exact hne
  split at hv'
  · rename_i hnone
    exact .inr ⟨v', hv', rfl, rfl, rfl, hother v' (by simp [hnone])⟩
  · rename_i win hsome
    obtain ⟨e, he, v, hv, hopen, rfl⟩ := GameState.mem_openWindows_modifyWindow hv'
    split
    · rename_i hid
      refine .inl ?_
      rcases v with ⟨_, _, _, _, _, body⟩
      cases body <;> rfl
    · rename_i hid
      rw [if_neg hid] at hopen
      refine .inr ⟨v, GameState.mem_openWindows.2 ⟨e, he, hv, hopen⟩, rfl, rfl, rfl, hother v ?_⟩
      simpa [hsome] using fun heq => hid heq.symm

/-- Every write keeps the passes of a window, or gives them back. -/
theorem write (h : Write w w') : PassesKept w w' := by
  cases h with
  | aside hgs hhistory => exact of_frames (fun e he => .inl (hgs ▸ he)) fun _ => .of_eq hhistory
  | state hframes => exact of_frames (fun e he => .inl (hframes ▸ he)) fun _ => .refl
  | mark m hspent =>
    refine of_frames (fun e he => .inl he) fun i => ⟨[m], rfl, fun m' hm' => ?_⟩
    rw [List.mem_singleton.1 hm']
    cases m with
    | spent => cases hspent
    | _ => exact fun h => (nomatch h)
  | addFrame frameId =>
    refine of_frames (fun e he => ?_) fun _ => .refl
    obtain he | rfl := OrderedMap.mem_entries_set he
    · exact .inl he
    · exact .inr rfl
  | drop frameId hframes =>
    refine of_frames (fun e he => .inl ?_) fun _ => .refl
    dsimp only at he
    rw [hframes, OrderedMap.entries_erase] at he
    exact (List.mem_filter.1 he).1
  | clear hframes =>
    refine of_frames (fun e he => ?_) fun _ => .refl
    dsimp only at he
    rw [hframes] at he
    cases he
  | insert frameId v hpassed =>
    refine of_follows (fun v' hv' => ?_) fun _ => .refl
    obtain ⟨e', he', hv', -⟩ := GameState.mem_openWindows.1 hv'
    obtain ⟨e, he, rfl⟩ := List.mem_map.1 he'
    dsimp only at hv'
    split at hv'
    · obtain hv' | hv' := List.mem_append.1 hv'
      · exact .inr ⟨e, he, v', hv', .refl⟩
      · exact .inl (List.mem_singleton.1 hv' ▸ hpassed)
    · exact .inr ⟨e, he, v', hv', .refl⟩
  | window windowId hf =>
    refine of_follows (fun v' hv' => .inr ?_) fun _ => .refl
    obtain ⟨e, he, v, hv, -, rfl⟩ := GameState.mem_openWindows_modifyWindow hv'
    refine ⟨e, he, v, hv, ?_⟩
    split
    · exact hf v
    · exact .refl
  | restart now select =>
    refine of_follows (fun v' hv' => .inr ?_) fun _ => .refl
    obtain ⟨e', he', hv', -⟩ := GameState.mem_openWindows.1 hv'
    obtain ⟨e, he, rfl⟩ := List.mem_map.1 he'
    dsimp only at hv'
    split at hv'
    · obtain ⟨v, hv, rfl⟩ := List.mem_map.1 hv'
      exact ⟨e, he, v, hv, .restartClock now⟩
    · exact ⟨e, he, v', hv', .refl⟩
  | spend now playerId cardId frameId => exact spend now playerId cardId frameId

end PassesKept

/-- An operation that passes no window keeps the passes or takes them back. -/
theorem Writes.keeps {α : Type} {m : EngineM α} (hm : Writes m) {w w' : World} {a : α}
    (h : m w = .ok a w') : PassesKept w w' := hm.relates (fun _ _ => PassesKept.write) h

end HereToSlaughter
