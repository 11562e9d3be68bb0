import HereToSlaughter.Refine.Drain

/-!
# Actions, as the machine sees them

An action that passed its check pays, and runs a mechanic the steps share, over an empty stack and
outside of any drain. What its check found still holds once it has paid.

Reference: `actions/*.ts`.
-/

namespace HereToSlaughter

open Lib EngineM

/-! ## What a check finds -/

/-- What an accepted check has found that the mechanic needs. -/
def ActionKind.Ready (T : Table) (b : Board) (playerId : String) : ActionKind → Prop
  | .playHero cardId | .playMagic cardId => cardId ∈ b.hand playerId
  | .playItem cardId targetHeroId =>
    cardId ∈ b.hand playerId ∧ (canEquip T b playerId cardId targetHeroId).isAccepted = true
  | _ => True

/-- An answer that accepts is the one. -/
theorem RequestResult.isAccepted_iff {result : RequestResult} :
    result.isAccepted = true ↔ result = .accepted := by
  cases result <;> simp [isAccepted]

/-- A player required is at the table. -/
theorem Board.requirePlayer_ok {b : Board} {playerId : String} {player : Player}
    (h : b.requirePlayer playerId = .ok player) : b.players.get? playerId = some player := by
  unfold requirePlayer at h
  split at h <;> simp_all

/-- A card checked for is in the hand. -/
theorem Board.hasInHand_ok {b : Board} {playerId cardId : String}
    (h : b.hasInHand playerId cardId = .ok true) : cardId ∈ b.hand playerId := by
  unfold hasInHand at h
  cases hplayer : b.requirePlayer playerId with
  | error e => rw [hplayer] at h; cases h
  | ok player =>
    rw [hplayer] at h
    refine Board.mem_hand_iff.2 ⟨player, requirePlayer_ok hplayer, ?_⟩
    simpa [Pure.pure, Except.pure, Bind.bind, Except.bind] using h

/-- What an action finds when it runs is what its check has read. -/
theorem ActionKind.ready_of_canExecute {T : Table} {b : Board} {playerId : String}
    {kind : ActionKind} (h : kind.canExecute T b playerId = .ok .accepted) :
    kind.Ready T b playerId := by
  cases kind with
  | playHero cardId | playMagic cardId =>
    simp only [canExecute, Bind.bind, Except.bind] at h
    split at h
    · cases h
    · rename_i inHand hhand
      cases inHand with
      | true => exact Board.hasInHand_ok hhand
      | false => simp [Pure.pure, Except.pure] at h
  | playItem cardId targetHeroId =>
    simp only [canExecute, Bind.bind, Except.bind] at h
    split at h
    · cases h
    · rename_i inHand hhand
      cases inHand with
      | true =>
        simp only [if_pos, Pure.pure, Except.pure, Except.ok.injEq] at h
        exact ⟨Board.hasInHand_ok hhand, RequestResult.isAccepted_iff.2 h⟩
      | false => simp [Pure.pure, Except.pure] at h
  | _ => trivial

/-- An accepted action is one its seat can pay for. -/
theorem Action.canExecute_accepted {T : Table} {b : Board} {action : Action}
    (h : action.canExecute T b = .ok .accepted) :
    ∃ player, b.players.get? action.playerId = some player ∧
      (action.kind ≠ .endTurn → action.kind.cost ≤ player.actionPoints) ∧
      action.kind.Ready T b action.playerId := by
  unfold canExecute at h
  simp only [Bind.bind, Except.bind] at h
  split at h
  · cases h
  · rename_i player hplayer
    split at h
    · simp [Pure.pure, Except.pure] at h
    · rename_i hprice
      refine ⟨player, Board.requirePlayer_ok hplayer, fun hne => ?_,
        ActionKind.ready_of_canExecute h⟩
      exact Int.not_lt.1 fun hlt => hprice ⟨hne, hlt⟩

/-! ## Paying -/

namespace Board

/-- Points paid move no card. -/
theorem hand_decreaseActionPoints (playerId otherId : String) (amount : Int) (b : Board) :
    (b.decreaseActionPoints playerId amount).hand otherId = b.hand otherId := by
  simp only [hand, decreaseActionPoints, OrderedMap.get?_modify]
  cases b.players.get? otherId with
  | none => rfl
  | some player =>
    simp only [Option.map_some]
    split <;> rfl

/-- Who owns a card does not depend on points. -/
theorem getCardOwner_decreaseActionPoints (playerId cardId : String) (amount : Int) (b : Board) :
    (b.decreaseActionPoints playerId amount).getCardOwner cardId = b.getCardOwner cardId := by
  have hholds : ∀ e : String × Player, (b.decreaseActionPoints playerId amount).holds e.1
      (if e.1 = playerId then e.2.decreaseActionPoints amount else e.2) cardId =
        b.holds e.1 e.2 cardId := by
    intro e
    split <;> rfl
  simp only [getCardOwner]
  rw [show (b.decreaseActionPoints playerId amount).players.entries = b.players.entries.map
    fun e => (e.1, if e.1 = playerId then e.2.decreaseActionPoints amount else e.2) from rfl,
    List.find?_map, Option.map_map]
  simp only [Function.comp_def, hholds]

end Board

/-- What a check found still holds once the price is paid. -/
theorem ActionKind.Ready.paid {T : Table} {b : Board} {playerId : String} {kind : ActionKind}
    (h : kind.Ready T b playerId) (payerId : String) (amount : Int) :
    kind.Ready T (b.decreaseActionPoints payerId amount) playerId := by
  cases kind with
  | playHero | playMagic =>
    simp only [Ready, Board.hand_decreaseActionPoints]
    exact h
  | playItem cardId heroId =>
    refine ⟨(Board.hand_decreaseActionPoints payerId playerId amount b).symm ▸ h.1, ?_⟩
    have hequip := h.2
    simp only [canEquip, Board.getCardOwner_decreaseActionPoints] at hequip ⊢
    exact hequip
  | _ => trivial

/-! ## Actions -/

/-- Without a running step there is nothing to suspend. -/
theorem Control.suspendOn_idle {k : Control} (h : k.running = none) (opened : Option Nat) :
    k.suspendOn opened = k := by
  rcases k with ⟨_, _, _, _, running, _, _, _, _, _⟩
  cases h
  rfl

section
variable {T : PrintedTable} {em : Emit} {k₀ k : Control} {s : World} {fuel : Nat}

namespace Runs

/-- `GameState.decreaseActionPoints`, of what the seat has. -/
theorem decreaseActionPoints {d : Mode} {playerId : String} {player : Player} {amount : Int}
    (h : At d k₀ k s) (hplayer : s.gs.board.players.get? playerId = some player)
    (hamount : amount ≤ player.actionPoints) {Q : Unit → Control → World → Prop}
    (hQ : At d k₀ k { s with gs := s.gs.modifyBoard (Board.decreaseActionPoints playerId amount) } →
      Q () k { s with gs := s.gs.modifyBoard (Board.decreaseActionPoints playerId amount) }) :
    Runs T (EngineM.decreaseActionPoints playerId amount) Q k s :=
  .bind (requirePlayer fun _ _ => note h (.pay hplayer hamount) hQ)

/-- What an action opens is nobody's to wait for. -/
theorem played_out {m : EngineM (Option Nat)} (hnone : k₀.running = none)
    (h : Plays T .outside k₀ m k s) :
    Runs T (do let _ ← m) (fun _ k' s' => At .outside k₀ k' s') k s :=
  .bind (h.mono fun opened _ _ h₁ => .pure (Control.suspendOn_idle hnone opened ▸ h₁))

section
variable (hem : Hears T .outside em) (hmay : MayOpen k₀ s)
include hem hmay

/-- The mechanic of an action, whose slot is due. -/
theorem perform {playerId : String} {kind : ActionKind} {turn : Nat} {gs : GameState}
    (h : At .outside { k₀ with due := kind.slot T.cards } k s)
    (hmark : .executed ⟨playerId, kind⟩ turn gs ∈ s.history)
    (hready : kind.Ready T.toTable s.gs.board playerId) :
    Runs T (kind.perform T.toTable em fuel playerId) (fun _ k' s' => At .outside k₀ k' s') k s := by
  have hnone : k₀.running = none := h.running.symm.trans (h.going.outside (by simp))
  have hpaid : ({ k₀ with due := none } : Control) = k₀ := by rw [← hmay.paid]
  have hplain : kind.slot T.cards = none → At .outside k₀ k s := by
    intro hslot
    rw [hslot, hpaid] at h
    exact h
  cases kind with
  | rollOnHero cardId =>
    have hon : OnTop { k₀ with due := (ActionKind.rollOnHero cardId).slot T.cards } s :=
      ⟨hmay.playing, hmay.running, hmay.action⟩
    refine played_out hnone (hpaid ▸ rollOnHero hem h hon hmay.landed ?_)
    by_cases hhero : isHero T.cards cardId = true
    · exact .inr ⟨by simp [ActionKind.slot, hhero], hhero⟩
    · exact .inl (by simp [ActionKind.slot, hhero])
  | rollOnLeader cardId =>
    refine .bind (markAbilityUsed h (fun _ hdue => (Option.some.inj hdue).symm) fun k₁ h₁ => ?_)
    rw [hpaid] at h₁
    exact hem.speaks h₁.loosen hmay.speaks rfl fun _ _ h₂ _ => h₂
  | drawCard => exact .bind ((drawCards hem hmay.speaks (hplain rfl)).mono fun _ _ _ h₁ => .pure h₁)
  | playHero cardId =>
    exact played_out hnone
      (playHero hem (hplain rfl) hmay hready (.inr ⟨playerId, turn, gs, hmark⟩))
  | playItem cardId heroId =>
    exact played_out hnone (playItem hem (hplain rfl) hmay hready.1 hready.2)
  | playMagic cardId =>
    exact played_out hnone
      (playMagic hem (hplain rfl) hmay hready (.inr ⟨playerId, turn, gs, hmark⟩))
  | attackMonster cardId => exact played_out hnone (attackMonster hem (hplain rfl) hmay)
  | reDraw => exact redrawHand hem hmay.speaks (hplain rfl)
  | endTurn => exact .pure (hplain rfl)

/-- `IAction.execute`, of an accepted action over an empty stack. -/
theorem executeAction {action : Action} {turn : Nat} {gs : GameState}
    (h : At .outside { k₀ with due := action.kind.slot T.cards } k s)
    (hmark : .executed action turn gs ∈ s.history)
    (hcan : action.canExecute T.toTable s.gs.board = .ok .accepted) :
    Runs T (action.execute T.toTable em fuel) (fun _ k' s' => At .outside k₀ k' s') k s := by
  obtain ⟨player, hplayer, hprice, hready⟩ := Action.canExecute_accepted hcan
  have hperform : ∀ {amount : Int}, amount ≤ player.actionPoints →
      Runs T (do
        EngineM.decreaseActionPoints action.playerId amount
        action.kind.perform T.toTable em fuel action.playerId)
        (fun _ k' s' => At .outside k₀ k' s') k s := by
    intro amount hamount
    refine .bind (decreaseActionPoints h hplayer hamount fun h₁ =>
      perform hem ?_ h₁ hmark (hready.paid ..))
    exact ⟨hmay.toOnTop.congr (.inl rfl), hmay.landed, hmay.paid⟩
  unfold Action.execute
  extract_lets rest
  refine .ite (fun _ => .bind (.bind (requirePlayer fun player' hplayer' => .pure ?_))) fun hkind =>
    .bind (.pure (hperform (hprice hkind)))
  rw [hplayer] at hplayer'
  cases hplayer'
  exact hperform (Int.le_refl _)

end

end Runs

end

end HereToSlaughter
