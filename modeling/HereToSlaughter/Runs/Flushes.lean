import HereToSlaughter.Model.PlayerView
import HereToSlaughter.Runs.Passes
import HereToSlaughter.Writes.Announced

/-!
# What reaches the screens

A screen is drawn again when an event has gone out. A pass that leaves the window open moves what
every seat is shown and emits nothing, and so do a settlement that is put off, an action that finds
nothing to do and a turn's clock that lapses too late. Every other input that changes what a seat is
shown announces something (`Reach.told`).

Reference: `game-server/snapshot-publisher.service.ts`, `views/player-view.ts`.
-/

namespace HereToSlaughter

open Lib EngineM

/-! ## What runs come back with -/

section
variable {w w' : World}

/-- A check that returned has not thrown, and wrote nothing. -/
theorem ran_orThrow {α : Type} {x : Except EngineError α} {a : α} (h : orThrow x w = .ok a w') :
    x = .ok a ∧ w' = w := by
  cases x with
  | ok b => cases h; exact ⟨rfl, rfl⟩
  | error e => cases h

/-- A player that was found is at the table. -/
theorem ran_requirePlayer {playerId : String} {player : Player}
    (h : requirePlayer playerId w = .ok player w') :
    w.gs.board.players.get? playerId = some player ∧ w' = w := by
  obtain ⟨gs, t, hget, h⟩ := ran_of_bind h
  cases hget
  obtain ⟨hplayer, rfl⟩ := ran_orThrow h
  unfold Board.requirePlayer at hplayer
  split at hplayer
  · cases hplayer
    exact ⟨‹_›, rfl⟩
  · cases hplayer

/-- The points that were read are the player's. -/
theorem ran_getActionPoints {playerId : String} {points : Int}
    (h : getActionPoints playerId w = .ok points w') :
    ∃ player, w.gs.board.players.get? playerId = some player ∧ points = player.actionPoints ∧
      w' = w := by
  obtain ⟨player, t, hplayer, hend⟩ := ran_of_bind h
  obtain ⟨hplayer, rfl⟩ := ran_requirePlayer hplayer
  cases hend
  exact ⟨player, hplayer, rfl, rfl⟩

/-- The points that were paid are the player's. -/
theorem ran_decreaseActionPoints {playerId : String} {amount : Int}
    (h : decreaseActionPoints playerId amount w = .ok () w') :
    ∃ player, w.gs.board.players.get? playerId = some player ∧
      w' = { w with gs := w.gs.modifyBoard (Board.decreaseActionPoints playerId amount) } := by
  obtain ⟨player, t, hplayer, hend⟩ := ran_of_bind h
  obtain ⟨hplayer, rfl⟩ := ran_requirePlayer hplayer
  cases hend
  exact ⟨player, hplayer, rfl⟩

/-- What a seat has left once it has paid. -/
theorem Board.points_decreaseActionPoints {b : Board} {playerId : String} {player : Player}
    (hplayer : b.players.get? playerId = some player) (amount : Int) :
    (b.decreaseActionPoints playerId amount).players.get? playerId =
      some (player.decreaseActionPoints amount) := by
  simp [Board.decreaseActionPoints, hplayer]

/-- The world is read first. -/
theorem run_get {α : Type} {act : World → EngineM α} : (MonadState.get >>= act) w = act w w := rfl

/-- The game state is read first. -/
theorem run_getGs {α : Type} {act : GameState → EngineM α} : (getGs >>= act) w = act w.gs w := rfl

/-- A draw is announced, unless there is nothing to draw. -/
theorem ran_drawIntoHand {T : Table} {n : Nat} {playerId : String} {drawn : Option String}
    (h : drawIntoHand (emit T n) T.rng playerId w = .ok drawn w')
    (hseated : w.gs.board.isSeated playerId = true) :
    Announced w w' ∨ w.gs.board.mainDeck = [] ∧ drawn = none ∧
      w' = (w.drawIntoHand T.rng playerId).2 := by
  unfold EngineM.drawIntoHand at h
  rw [run_getGs, if_pos hseated] at h
  obtain ⟨top, t, hdraw, h⟩ := ran_of_bind h
  obtain ⟨htop, ht⟩ : (w.drawIntoHand T.rng playerId).1 = top ∧
      (w.drawIntoHand T.rng playerId).2 = t := by
    cases hdraw
    exact ⟨rfl, rfl⟩
  cases top with
  | some cardId =>
    refine .inl (.congr (congrArg World.history ht).symm ?_)
    exact Announces.first (.emit n _) (fun _ => .pure _) h
  | none =>
    cases h
    refine .inr ⟨?_, rfl, ht.symm⟩
    cases hdeck : w.gs.board.mainDeck with
    | nil => rfl
    | cons =>
      simp [World.drawIntoHand, Board.drawIntoHand, Board.drawFromMainDeck, hdeck] at htop

end

/-! ## Settlements -/

section
variable {T : Table} {n fuel : Nat} {w w' : World}

/-- A settlement is announced, or put off: a window of a newer frame stands. -/
theorem resolve_announced {frameId : Nat} {win : Window} (hopen : win.isOpen = true)
    (hrun : resolve T (emit T n) frameId win w = .ok () w') :
    Announced w w' ∨ win.isPassable = true ∧ w.gs.hasOpenFramesAfter frameId = true ∧
      w' = { w with gs := w.gs.modifyWindow win.id (Window.resetTimer w.now) } := by
  have hresolved : ¬ win.resolved = true := by simpa [Window.isOpen] using hopen
  unfold resolve at hrun
  rw [if_neg hresolved] at hrun
  cases hbody : win.body with
  | roll body =>
    rw [hbody] at hrun
    change (ite (w.gs.hasOpenFramesAfter frameId = true) _ _ : EngineM Unit) w = _ at hrun
    split at hrun <;> rename_i hafter
    · cases hrun
      exact .inr ⟨by simp [Window.isPassable, hbody], hafter, rfl⟩
    · refine .inl (Announces.next (Writes.restart _ _) (fun _ => ?_) hrun)
      refine .next (.window _ fun _ => .close) fun _ => .first (.emit n _) fun _ => ?_
      exact .bind (Writes.settleRoll (Writes.emit n) _ _ _) fun _ => Writes.emit n _
  | challenge body =>
    rw [hbody] at hrun
    change (ite (w.gs.hasOpenFramesAfter frameId = true) _ _ : EngineM Unit) w = _ at hrun
    split at hrun <;> rename_i hafter
    · cases hrun
      exact .inr ⟨by simp [Window.isPassable, hbody], hafter, rfl⟩
    · refine .inl (Announces.next (Writes.window _ fun _ => .close) (fun _ => ?_) hrun)
      refine .next (.restart _ _) fun _ => .first (.emit n _) fun _ => .ite ?_ ?_
      · refine .bind (Writes.emit n _) fun _ => .ite ?_ ?_
        · exact .bind (Writes.releaseFrame _) fun _ => .bind (Writes.modifyBoard _) fun _ =>
            Writes.emit n _
        · exact .bind (Writes.restoreFrame _) fun _ => .bind (Writes.modifyBoard _) fun _ =>
            Writes.emit n _
      · exact .bind (Writes.releaseFrame _) fun _ => Writes.emit n _
  | choice body =>
    rw [hbody] at hrun
    exact .inl (Announces.resolveChoice hrun)

end

/-! ## Actions -/

/-- What an action that finds nothing to do comes to: a turn that is ended, a roll on a card that is
no hero, an empty hand redrawn from an empty deck. The end of a turn leaves its seat no points. -/
def ActionKind.isQuiet (T : Table) (b : Board) (playerId : String) : ActionKind → Bool
  | .rollOnHero cardId => !isHero T.cards cardId
  | .reDraw => b.hand playerId = [] && b.mainDeck = []
  | .endTurn => true
  | _ => false

/-- The seats, the windows and the turn stand where they stood. -/
structure Unmoved (w w' : World) : Prop where
  players : w'.gs.board.players = w.gs.board.players
  frames : w'.gs.frames = w.gs.frames
  pipelines : w'.gs.pipelines = w.gs.pipelines
  turnManager : w'.turnManager = w.turnManager

section
variable {T : Table} {n fuel : Nat} {w w' : World} {playerId : String}

/-- A draw from a deck that has cards is announced. -/
theorem drawCard_announced (hseated : w.gs.board.isSeated playerId = true)
    (hdeck : w.gs.board.mainDeck ≠ []) {drawn : List String}
    (hrun : drawCards T (emit T n) fuel playerId 1 w = .ok drawn w') : Announced w w' := by
  obtain ⟨top, t, hdraw, hrest⟩ := ran_of_bind hrun
  obtain hsaid | ⟨hnil, -⟩ := ran_drawIntoHand hdraw hseated
  · refine hsaid.followed (Writes.grows ?_ hrest)
    split
    · exact .pure _
    · exact .bind (Writes.drawUpTo (Writes.emit n) _ _) fun _ => .pure _
  · exact absurd hnil hdeck

/-- A redraw is announced, unless there is nothing to discard and nothing to draw. -/
theorem redrawHand_announced (hseated : w.gs.board.isSeated playerId = true)
    (hrun : redrawHand T (emit T n) fuel playerId w = .ok () w') :
    Announced w w' ∨ w.gs.board.hand playerId = [] ∧ w.gs.board.mainDeck = [] ∧ Unmoved w w' := by
  unfold redrawHand at hrun
  rw [run_getGs, if_pos hseated] at hrun
  cases hhand : w.gs.board.hand playerId with
  | cons cardId hand =>
    rw [hhand] at hrun
    refine .inl (Announces.first (.first ?_ fun _ => Writes.forEach (fun _ =>
      Writes.discardFromHand (Writes.emit n) _ _) _) (fun _ =>
      .bind (Writes.drawCards (Writes.emit n) _ _ _) fun _ => .pure ()) hrun)
    exact .next .getGs fun _ => .ite (.next (Writes.modifyBoard _) fun _ => .emit n _) (.throw _)
  | nil =>
    rw [hhand] at hrun
    obtain ⟨_, t, hnone, hrun⟩ := ran_of_bind hrun
    cases hnone
    obtain ⟨drawn, t, hdraw, hend⟩ := ran_of_bind hrun
    cases hend
    have hempty : ((w.gs.board.hand playerId).length : Int) < 5 := by simp [hhand]
    cases fuel with
    | zero => cases hdraw
    | succ fuel =>
      change drawUntil T (emit T n) playerId 5 (fuel + 1) w = _ at hdraw
      unfold drawUntil at hdraw
      rw [run_getGs, if_pos hempty] at hdraw
      obtain ⟨top, t, htop, hrest⟩ := ran_of_bind hdraw
      obtain hsaid | ⟨hdeck, rfl, rfl⟩ := ran_drawIntoHand htop hseated
      · refine .inl (hsaid.followed (Writes.grows ?_ hrest))
        split
        · exact .pure _
        · exact .bind (Writes.drawUntil (Writes.emit n) _ _ _) fun _ => .pure _
      · cases hrest
        refine .inr ⟨rfl, hdeck, ?_, rfl, rfl, rfl⟩
        simp only [World.drawIntoHand, GameState.modifyBoard, Board.drawIntoHand,
          Board.drawFromMainDeck, hdeck, List.head?_nil, Board.refillMainDeck]
        split <;> rfl

/-! ### Plays -/

/-- The opening moves of a play are told. -/
theorem Announces.played {cardId : String} {rest : EngineM (Option Nat)} (hrest : Writes rest) :
    Announces (do
      removeFromHand playerId cardId
      HereToSlaughter.emit T n (.cardRemovedFromHand playerId cardId)
      rest) :=
  .next (Writes.playerDoor _ fun b => .removeFromHand b _ _) fun _ =>
    .first (.emit n _) fun _ => hrest

/-- A hero played is announced. -/
theorem playHero_announced {cardId : String} (hseated : w.gs.board.isSeated playerId = true)
    {opened : Option Nat} (hrun : playHero T (emit T n) playerId cardId w = .ok opened w') :
    Announced w w' := by
  unfold playHero at hrun
  rw [run_getGs, if_pos hseated] at hrun
  refine Announces.played (Writes.openFrame.bind fun _ => ?_) hrun
  exact .bind (Writes.addHero (Writes.emit n) _ _ _ _) fun _ =>
    Writes.openContestOver (Writes.emit n) _ _ _

/-- So is magic. -/
theorem playMagic_announced {cardId : String} (hseated : w.gs.board.isSeated playerId = true)
    {opened : Option Nat} (hrun : playMagic T (emit T n) playerId cardId w = .ok opened w') :
    Announced w w' := by
  unfold playMagic at hrun
  rw [run_getGs, if_pos hseated] at hrun
  refine Announces.played (Writes.openFrame.bind fun _ => ?_) hrun
  exact .bind (Writes.partyDoor _ fun b => .addInstanceCard b _ _) fun _ =>
    .bind (Writes.emit n _) fun _ =>
    Writes.openContestOver (Writes.emit n) _ _ _

/-- A hero that may be equipped is somebody's. -/
theorem owner_of_canEquip {b : Board} {itemId heroId : String}
    (h : (canEquip T b playerId itemId heroId).isAccepted = true) :
    (b.getCardOwner heroId).isSome = true := by
  unfold canEquip at h
  split at h
  · split at h
    · cases h
    · split at h
      · cases h
      · simp [*]
  · cases h

/-- So is an item. -/
theorem playItem_announced {itemId heroId : String} (hseated : w.gs.board.isSeated playerId = true)
    (hequip : (canEquip T w.gs.board playerId itemId heroId).isAccepted = true)
    {opened : Option Nat} (hrun : playItem T (emit T n) playerId itemId heroId w = .ok opened w') :
    Announced w w' := by
  unfold playItem at hrun
  rw [run_getGs, if_pos (by rw [hseated, owner_of_canEquip hequip]; rfl)] at hrun
  cases hworn : w.gs.board.getEquippedItem heroId with
  | some worn =>
    rw [hworn] at hrun
    cases hrun
  | none =>
    rw [hworn] at hrun
    refine Announces.played (Writes.openFrame.bind fun _ => ?_) hrun
    exact .bind (Writes.equipItem _ _) fun _ => .bind (Writes.emit n _) fun _ =>
      Writes.openContestOver (Writes.emit n) _ _ _

/-- So is a roll on a hero. -/
theorem Announces.rollOnHero {heroId : String} (hhero : isHero T.cards heroId = true) :
    Announces (HereToSlaughter.rollOnHero T (HereToSlaughter.emit T n) playerId heroId) := by
  unfold HereToSlaughter.rollOnHero
  split
  · refine .next (Writes.roll2Dice _) fun _ => .first (.emit n _) fun _ => ?_
    exact .bind (Writes.modifyBoard _) fun _ => .bind Writes.openFrame fun _ =>
      .bind (Writes.openRoll (Writes.emit n) _ _ _ _) fun _ => .pure _
  · simp_all [isHero]

/-- A roll on anything else does nothing. -/
theorem rollOnHero_none {em : Emit} {heroId : String} (hhero : isHero T.cards heroId = false) :
    rollOnHero T em playerId heroId = pure none := by
  unfold rollOnHero
  split
  · simp_all [isHero]
  · rfl

/-- So is an attack that is allowed. -/
theorem Announces.attackMonster {b : Board} {monsterId : String}
    (hcan : b.canAttackMonster T.cards playerId monsterId = .accepted) :
    Announces (HereToSlaughter.attackMonster T (HereToSlaughter.emit T n) playerId monsterId) := by
  unfold HereToSlaughter.attackMonster
  split
  · refine .next (Writes.roll2Dice _) fun _ => .first (.emit n _) fun _ => ?_
    exact .bind Writes.openFrame fun _ =>
      .bind (Writes.openRoll (Writes.emit n) _ _ _ _) fun _ => .pure _
  · unfold Board.canAttackMonster at hcan
    split at hcan
    · split at hcan
      · simp_all
      · cases hcan
    · cases hcan

/-! ### Any action -/

/-- A draw is allowed only from a deck that has cards. -/
theorem ActionKind.deck_of_drawCard {b : Board}
    (h : ActionKind.drawCard.canExecute T b playerId = .ok .accepted) : b.mainDeck ≠ [] := by
  intro hnil
  simp only [canExecute, hnil, Bind.bind, Except.bind] at h
  split at h
  · cases h
  · simp only [if_true, Pure.pure, Except.pure] at h
    split at h <;> cases h

/-- An accepted action that has been paid for announces something, or finds nothing to do. -/
theorem perform_announced {b : Board} {kind : ActionKind}
    (hcan : kind.canExecute T b playerId = .ok .accepted) {amount : Int}
    (hpaid : w.gs.board = b.decreaseActionPoints playerId amount)
    (hseated : w.gs.board.isSeated playerId = true)
    (hrun : kind.perform T (emit T n) fuel playerId w = .ok () w') :
    Announced w w' ∨ kind.isQuiet T b playerId = true ∧ Unmoved w w' := by
  have hready : kind.Ready T w.gs.board playerId :=
    hpaid ▸ (ActionKind.ready_of_canExecute hcan).paid playerId amount
  have hplayed : ∀ {m : EngineM (Option Nat)}, (do let _ ← m : EngineM Unit) w = .ok () w' →
      ∃ opened, m w = .ok opened w' := by
    intro m hrun
    obtain ⟨opened, t, hplay, hend⟩ := ran_of_bind hrun
    cases hend
    exact ⟨opened, hplay⟩
  cases kind with
  | drawCard =>
    obtain ⟨drawn, t, hdraw, hend⟩ := ran_of_bind hrun
    cases hend
    have hdeck : w.gs.board.mainDeck = b.mainDeck := by rw [hpaid]; rfl
    exact .inl (drawCard_announced hseated (hdeck ▸ ActionKind.deck_of_drawCard hcan) hdraw)
  | playHero cardId =>
    obtain ⟨opened, hplay⟩ := hplayed hrun
    exact .inl (playHero_announced hseated hplay)
  | playItem cardId heroId =>
    obtain ⟨opened, hplay⟩ := hplayed hrun
    exact .inl (playItem_announced hseated hready.2 hplay)
  | playMagic cardId =>
    obtain ⟨opened, hplay⟩ := hplayed hrun
    exact .inl (playMagic_announced hseated hplay)
  | rollOnHero cardId =>
    obtain ⟨opened, hplay⟩ := hplayed hrun
    cases hhero : isHero T.cards cardId with
    | true => exact .inl (Announces.rollOnHero hhero hplay)
    | false =>
      rw [rollOnHero_none hhero] at hplay
      cases hplay
      exact .inr ⟨by simp [ActionKind.isQuiet, hhero], rfl, rfl, rfl, rfl⟩
  | rollOnLeader cardId =>
    exact .inl (Announces.next (Writes.modifyBoard _) (fun _ => .emit n _) hrun)
  | attackMonster cardId =>
    obtain ⟨opened, hplay⟩ := hplayed hrun
    exact .inl (Announces.attackMonster (Except.ok.inj hcan) hplay)
  | reDraw =>
    obtain hsaid | ⟨hhand, hdeck, hunmoved⟩ := redrawHand_announced hseated hrun
    · exact .inl hsaid
    · refine .inr ⟨?_, hunmoved⟩
      rw [hpaid, Board.hand_decreaseActionPoints] at hhand
      rw [hpaid] at hdeck
      simp only [ActionKind.isQuiet, Bool.and_eq_true, decide_eq_true_eq]
      exact ⟨hhand, hdeck⟩
  | endTurn =>
    cases hrun
    exact .inr ⟨rfl, rfl, rfl, rfl, rfl⟩

/-- What an action costs its seat: a pass all that is left. -/
def Action.price (action : Action) (player : Player) : Int :=
  if action.kind = .endTurn then player.actionPoints else action.kind.cost

/-- An accepted action announces something, or finds nothing to do and its seat has paid. -/
theorem execute_announced {action : Action}
    (hcan : action.canExecute T w.gs.board = .ok .accepted)
    (hrun : action.execute T (emit T n) fuel w = .ok () w') :
    Announced w w' ∨ ∃ player, w.gs.board.players.get? action.playerId = some player ∧
      action.kind.isQuiet T w.gs.board action.playerId = true ∧
      w'.gs.frames = w.gs.frames ∧ w'.gs.pipelines = w.gs.pipelines ∧
      w'.turnManager = w.turnManager ∧
      w'.gs.board.players.get? action.playerId =
        some (player.decreaseActionPoints (action.price player)) := by
  obtain ⟨player, hplayer, -, -⟩ := Action.canExecute_accepted hcan
  have hkind : action.kind.canExecute T w.gs.board action.playerId = .ok .accepted := by
    unfold Action.canExecute at hcan
    simp only [Board.requirePlayer, hplayer, Bind.bind, Except.bind] at hcan
    split at hcan
    · cases hcan
    · exact hcan
  let rest : Int → EngineM Unit := fun price => do
    decreaseActionPoints action.playerId price
    action.kind.perform T (emit T n) fuel action.playerId
  change (ite (action.kind = .endTurn) (getActionPoints action.playerId >>= rest)
    (rest action.kind.cost) : EngineM Unit) w = _ at hrun
  have hrest : ∀ price, rest price w = .ok () w' → Announced w w' ∨
      action.kind.isQuiet T w.gs.board action.playerId = true ∧ w'.gs.frames = w.gs.frames ∧
        w'.gs.pipelines = w.gs.pipelines ∧ w'.turnManager = w.turnManager ∧
        w'.gs.board.players.get? action.playerId = some (player.decreaseActionPoints price) := by
    intro price h
    obtain ⟨_, t, hpay, h⟩ := ran_of_bind h
    obtain ⟨_, _, rfl⟩ := ran_decreaseActionPoints hpay
    have hpaid := Board.points_decreaseActionPoints hplayer price
    obtain hsaid | ⟨hquiet, hunmoved⟩ :=
      perform_announced hkind rfl (Board.isSeated_iff.2 ⟨_, hpaid⟩) h
    · exact .inl (hsaid.congr rfl)
    · exact .inr ⟨hquiet, hunmoved.frames, hunmoved.pipelines, hunmoved.turnManager,
        (congrArg (OrderedMap.get? · action.playerId) hunmoved.players).trans hpaid⟩
  have hprice : rest (action.price player) w = .ok () w' := by
    unfold Action.price
    split at hrun <;> rename_i hend
    · obtain ⟨price, t, hpoints, hrun⟩ := ran_of_bind hrun
      obtain ⟨player', hplayer', rfl, rfl⟩ := ran_getActionPoints hpoints
      cases hplayer.symm.trans hplayer'
      rwa [if_pos hend]
    · rw [if_neg hend]
      exact hrun
  exact (hrest _ hprice).imp id fun h => ⟨player, hplayer, h⟩

end

/-! ## The queue -/

section
variable {T : Table} {n fuel : Nat} {w w' : World}

/-- On somebody's turn the drain is the drain of its queue. -/
theorem ran_drain {em : Emit} {fuel : Nat} {playerId : String}
    (hcurrent : w.gs.board.currentPlayerId = some playerId)
    (h : TurnManager.drain T em fuel w = .ok () w') :
    drainQueue T em playerId fuel w = .ok () w' := by
  unfold TurnManager.drain at h
  rw [run_getGs, hcurrent] at h
  exact h

/-- On a busy board the queue waits. -/
theorem drainQueue_busy {playerId : String} (hqueue : w.turnManager.actionQueue ≠ [])
    (hbusy : w.gs.isBusy = true) (hrun : drainQueue T (emit T n) playerId fuel w = .ok () w') :
    w' = w := by
  cases fuel with
  | zero => cases hrun
  | succ fuel =>
    obtain ⟨action, rest, hqueue⟩ := List.exists_cons_of_ne_nil hqueue
    unfold drainQueue at hrun
    rw [run_get, hqueue] at hrun
    dsimp only at hrun
    rw [run_getGs, if_pos hbusy] at hrun
    cases hrun
    rfl

/-- Over an empty queue and an idle board a spent budget ends the turn. -/
theorem drainQueue_announced {playerId : String} {player : Player}
    (hqueue : w.turnManager.actionQueue = []) (hidle : w.gs.isBusy = false)
    (hplayer : w.gs.board.players.get? playerId = some player) (hspent : player.actionPoints ≤ 0)
    (hrun : drainQueue T (emit T n) playerId fuel w = .ok () w') : Announced w w' := by
  cases fuel with
  | zero => cases hrun
  | succ fuel =>
    unfold drainQueue at hrun
    rw [run_get, hqueue] at hrun
    obtain ⟨points, t, hpoints, hrun⟩ := ran_of_bind hrun
    obtain ⟨player', hplayer', rfl, rfl⟩ := ran_getActionPoints hpoints
    cases hplayer.symm.trans hplayer'
    rw [run_getGs, if_pos ⟨hspent, by rw [hidle]; rfl⟩] at hrun
    refine Announces.next (Writes.modifyTurnManager _) (fun _ => ?_) hrun
    exact .next (Writes.modifyBoard _) fun _ => .next (Writes.modifyTurnManager _) fun _ =>
      .next .getGs fun _ => .emit n _

/-- The one action of a queue, taken over an idle board: it announces something, or finds nothing to
do and leaves its seat points to go on with. -/
theorem drainAction_announced {action : Action} (hqueue : w.turnManager.actionQueue = [action])
    (hidle : w.gs.isBusy = false) (hcan : action.canExecute T w.gs.board = .ok .accepted)
    (hrun : drainQueue T (emit T n) action.playerId fuel w = .ok () w') :
    Announced w w' ∨ ∃ player, w.gs.board.players.get? action.playerId = some player ∧
      action.kind.isQuiet T w.gs.board action.playerId = true ∧
      action.price player < player.actionPoints := by
  cases fuel with
  | zero => cases hrun
  | succ fuel =>
    unfold drainQueue at hrun
    rw [run_get, hqueue] at hrun
    dsimp only at hrun
    rw [run_getGs, if_neg (by rw [hidle]; exact Bool.false_ne_true)] at hrun
    obtain ⟨_, t, hact, hrest⟩ := ran_of_bind hrun
    let w₁ : World := { w with
      turnManager := { w.turnManager with actionQueue := [] }
      history := .executed action w.turnManager.turn w.gs :: w.history }
    have hexecute : action.execute T (emit T n) fuel w₁ = .ok () t := by
      unfold runQueued at hact
      rw [run_getGs, hcan] at hact
      exact hact
    have hgrows : Grows w w₁ := List.suffix_cons _ _
    obtain hsaid | ⟨player, hplayer, hquiet, hframes, hpipelines, hturn, hpaid⟩ :=
      execute_announced (w := w₁) hcan hexecute
    · exact .inl (.preceded hgrows (hsaid.followed
        (Writes.grows (Writes.drainQueue (Writes.emit n) _ _) hrest)))
    · obtain hleft | hspent := lt_or_ge (action.price player) player.actionPoints
      · exact .inr ⟨player, hplayer, hquiet, hleft⟩
      · have hidle' : t.gs.isBusy = false := by
          rw [← hidle]
          simp only [GameState.isBusy, GameState.hasOpenFrames, hframes, hpipelines, w₁]
        refine .inl (.preceded (hgrows.trans
          (Writes.grows (Writes.executeAction (Writes.emit n) _ _) hexecute)) ?_)
        exact drainQueue_announced (by rw [hturn]) hidle' hpaid
          (by simpa [Player.decreaseActionPoints] using hspent)
          hrest

end

/-! ## Screens -/

section
variable {T : Table} {w w' : World}

/-- What the screens are drawn from stands. -/
structure SameScreens (T : Table) (w w' : World) : Prop where
  gs : w'.gs = w.gs
  playerOrder : w'.playerOrder = w.playerOrder
  turnClock : turnClockView T w' = turnClockView T w

/-- A screen is the same as itself. -/
theorem SameScreens.refl : SameScreens T w w := ⟨rfl, rfl, rfl⟩

/-- Every seat sees what it saw. -/
theorem SameScreens.playerView (h : SameScreens T w w') (seat : String) :
    playerView T w' seat = playerView T w seat := by
  unfold HereToSlaughter.playerView
  rw [h.gs, h.playerOrder, h.turnClock]

/-- The clock is shown by its deadline, which does not move as time passes. -/
theorem SameScreens.tick (ms : Nat) : SameScreens T w { w with now := w.now + ms } := by
  refine ⟨rfl, rfl, ?_⟩
  unfold turnClockView TurnManagerState.getRemainingMs TurnManagerState.getTurnDeadline
  cases T.config.turnTimeMs with
  | none => rfl
  | some turnTimeMs =>
    cases w.turnManager.remainingMs with
    | none => rfl
    | some ms => cases w.turnManager.clock <;> rfl

end

/-- A write that leaves the window of its id as it is leaves the game as it is. -/
theorem Reach.modifyWindow_same {setup : GameSetup} {w : World} (h : Reach setup w)
    {frameId windowId : Nat} {win : Window} {f : Window → Window}
    (hfound : w.gs.windowById windowId = some (frameId, win)) (hsame : f win = win) :
    w.gs.modifyWindow windowId f = w.gs := by
  have hframe : ∀ e ∈ w.gs.frames.entries, e.2.modifyWindow windowId f = e.2 := by
    intro e he
    have hwindows : e.2.windows.map (fun v => if v.id = windowId then f v else v) =
        e.2.windows := by
      refine (List.map_congr_left fun v hv => ?_).trans (List.map_id _)
      split <;> rename_i hid
      · have hv := (course_whole_iff.2 h).tagged.windowById_of_mem he hv
        rw [hid, hfound] at hv
        cases hv
        exact hsame
      · rfl
    rw [GameFrame.modifyWindow, hwindows]
  have hframes : w.gs.frames.mapValues (fun _ frame => frame.modifyWindow windowId f) =
      w.gs.frames := by
    refine OrderedMap.ext ?_
    rw [OrderedMap.entries_mapValues]
    exact (List.map_congr_left fun e he => by rw [hframe e he, id]).trans (List.map_id _)
  rw [GameState.modifyWindow, hframes]

/-! ## Inputs -/

/-- The inputs that move what a seat is shown and announce nothing. -/
inductive Hushed (T : Table) (w : World) : Input → Prop
  /-- A pass of a window that still waits for another seat. -/
  | waits {seat : String} {frameId windowId : Nat} {win : Window}
    (hfound : w.gs.windowById windowId = some (frameId, win)) (hopen : win.isOpen = true)
    (hcan : win.canPass seat = true) (hfresh : seat ∉ win.passedBy)
    (hall : allPassed w.gs.board (win.pass seat) = false) :
    Hushed T w (.command seat (.passWindow windowId))
  /-- The last pass of a window under a newer one. -/
  | overtaken {seat : String} {frameId windowId : Nat} {win : Window}
    (hfound : w.gs.windowById windowId = some (frameId, win)) (hopen : win.isOpen = true)
    (hcan : win.canPass seat = true) (hall : allPassed w.gs.board (win.pass seat) = true)
    (hafter : w.gs.hasOpenFramesAfter frameId = true)
    (hmoves : seat ∉ win.passedBy ∨ win.deadline ≠ w.now + win.clockMs) :
    Hushed T w (.command seat (.passWindow windowId))
  /-- The lapse of a roll or a challenge under a newer window: its clock runs again. -/
  | rearmed {frameId windowId : Nat} {win : Window}
    (hfound : w.gs.windowById windowId = some (frameId, win)) (hopen : win.isOpen = true)
    (hpassable : win.isPassable = true) (hdue : win.deadline ≤ w.now)
    (hafter : w.gs.hasOpenFramesAfter frameId = true)
    (hmoves : win.deadline ≠ w.now + win.clockMs) : Hushed T w (.windowLapse windowId)
  /-- An action that is paid for, finds nothing to do and leaves its seat points. -/
  | unspoken {playerId : String} {kind : ActionKind} {player : Player}
    (hcurrent : w.gs.board.currentPlayerId = some playerId)
    (hphase : w.gs.board.gamePhase ≠ .concluded) (hidle : w.gs.isBusy = false)
    (hplayer : w.gs.board.players.get? playerId = some player)
    (hcan : Action.canExecute T w.gs.board ⟨playerId, kind⟩ = .ok .accepted)
    (hquiet : kind.isQuiet T w.gs.board playerId = true)
    (hleft : Action.price ⟨playerId, kind⟩ player < player.actionPoints) :
    Hushed T w (.command playerId (.action kind))
  /-- The lapse of a turn's clock that finds the turn or the game over. -/
  | stopped {turn : Nat} {deadline : Int} (hclock : w.turnManager.clock = some turn)
    (hdeadline : w.turnManager.getTurnDeadline = some deadline) (hdue : deadline ≤ w.now)
    (hover : turn ≠ w.turnManager.turn ∨ w.turnManager.phase ≠ .action ∨
      w.gs.board.gamePhase = .concluded ∨ w.gs.board.currentPlayerId = none) :
    Hushed T w .turnLapse

/-- Every run from `w` that returns announces something, or ends in a state of `Q`. -/
def Tells {α : Type} (Q : World → Prop) (m : EngineM α) (w : World) : Prop :=
  ∀ ⦃a w'⦄, m w = .ok a w' → Announced w w' ∨ Q w'

namespace Tells

variable {α β : Type} {Q : World → Prop} {w : World}

/-- What announces tells. -/
theorem announces {m : EngineM α} (hm : Announces m) : Tells Q m w := fun _ _ h => .inl (hm h)

/-- What announces where it is run tells there. -/
theorem announces' {m : EngineM α} (hm : ∀ ⦃a w'⦄, m w = .ok a w' → Announced w w') : Tells Q m w :=
  fun _ _ h => .inl (hm h)

/-- What only returns tells if nothing needs telling. -/
theorem pure {a : α} (h : Q w) : Tells Q (Pure.pure a) w := by
  intro a w' hrun
  cases hrun
  exact .inr h

/-- What throws returns on no way through it. -/
theorem throw (e : EngineError) : Tells Q (MonadExcept.throw e : EngineM α) w := by
  intro a w' h
  cases h

/-- Looking first. -/
theorem reads {m : EngineM α} {f : α → EngineM β} {a : α} (hm : m w = .ok a w)
    (hf : Tells Q (f a) w) : Tells Q (m >>= f) w := by
  intro b w' h
  obtain ⟨a', t, hrun, h⟩ := ran_of_bind h
  cases hm.symm.trans hrun
  exact hf h

/-- A write that announces nothing. -/
theorem writes {m : EngineM α} {f : α → EngineM β} {a : α} {t : World} (hm : m w = .ok a t)
    (hgrows : Grows w t) (hf : Tells Q (f a) t) : Tells Q (m >>= f) w := by
  intro b w' h
  obtain ⟨a', t', hrun, h⟩ := ran_of_bind h
  cases hm.symm.trans hrun
  exact (hf h).imp (.preceded hgrows) id

/-- What is returned does not matter. -/
theorem ends {m : EngineM α} {b : β} (hm : Tells Q m w) :
    Tells Q (m >>= fun _ => Pure.pure b) w := by
  intro b' w' h
  obtain ⟨a, t, hrun, hend⟩ := ran_of_bind h
  cases hend
  exact hm hrun

/-- A check that throws ends it. -/
theorem orThrow {x : Except EngineError α} {f : α → EngineM β}
    (hf : ∀ a, x = .ok a → Tells Q (f a) w) : Tells Q (EngineM.orThrow x >>= f) w := by
  cases x with
  | ok a => exact reads rfl (hf a rfl)
  | error e =>
    intro b w' h
    cases h

/-- A conditional tells if its branch does. -/
theorem ite {c : Prop} [Decidable c] {m₁ m₂ : EngineM α} (h₁ : c → Tells Q m₁ w)
    (h₂ : ¬ c → Tells Q m₂ w) : Tells Q (if c then m₁ else m₂) w := by
  split
  · exact h₁ ‹_›
  · exact h₂ ‹_›

end Tells

section
variable {T : Table} {n fuel : Nat} {w w' : World} {Q : World → Prop}

/-- An answer is told, or refused. -/
theorem submitChoice_tells {windowId : Nat} {playerId : String} {choice : Option Pick}
    (hsame : Q w) :
    Tells Q (submitChoice T (emit T n) windowId playerId choice) w := by
  refine .reads (a := w.gs) rfl ?_
  split
  · exact .pure hsame
  · refine .ite (fun _ => ?_) fun _ => .pure hsame
    split
    · exact .announces .submitToRoll
    · exact .pure hsame
    · refine .ite (fun _ => .pure hsame) fun _ => ?_
      split
      · exact .announces (.first .resolveChoice fun _ => .pure _)
      · refine .reads (a := w.gs) rfl (.ite (fun _ => ?_) fun _ => .throw _)
        exact .announces (.first .resolveChoice fun _ => .pure _)

/-- A card that is spent is announced, whatever aims it. -/
theorem submitReaction_tells {check : Except EngineError RequestResult} {run : EngineM Unit}
    (hsame : Q w) (hrun : Tells Q run w) : Tells Q (submitReaction check run) w := by
  exact .orThrow fun result _ => .ite (fun _ => hrun.ends) fun _ => .pure hsame

/-- A modifier is told, or there was nothing to play it on. -/
theorem playModifier_tells {playerId cardId : String} {value : Int} {targetPlayerId : Option String}
    (hsame : Q w) : Tells Q (playModifier (emit T n) playerId cardId value targetPlayerId) w := by
  refine .reads (a := w.gs) rfl ?_
  split
  · exact .announces (.next (Writes.spendCard _ _ _) fun _ => .emit n _)
  · exact .pure hsame

/-- So is a challenge. -/
theorem playChallenge_tells {playerId cardId : String} (hsame : Q w) :
    Tells Q (playChallenge (emit T n) playerId cardId) w := by
  refine .reads (a := w.gs) rfl ?_
  split
  · exact .pure hsame
  · split
    · exact .pure hsame
    · exact .announces (.next (Writes.spendCard _ _ _) fun _ => .emit n _)

/-- A look that ends is told, or none was due. -/
theorem revealLapse_tells (hsame : Q w) : Tells Q (revealLapse (emit T n)) w := by
  refine .reads (a := w) rfl ?_
  split
  · exact .pure hsame
  · refine .ite (fun _ => ?_) fun _ => .pure hsame
    refine .writes rfl (.of_eq rfl) (.announces (.next ?_ fun _ => .emit n _))
    exact Writes.state (fun gs => (GameState.hideRevealed_all _ _ gs).1)
      fun gs => (GameState.hideRevealed_all _ _ gs).2.1

/-! ### The turn -/

/-- An action that is refused or queued shows nothing, and one that is taken over an idle board is
announced, unless it finds nothing to do. -/
theorem enqueue_tells {playerId : String} {kind : ActionKind}
    (hserved : w.gs.board.gamePhase ≠ .concluded → w.gs.board.currentPlayerId = some playerId →
      w.gs.isBusy = false → w.turnManager.actionQueue = []) :
    Tells (fun w' => SameScreens T w w' ∨ Hushed T w (.command playerId (.action kind)))
      (enqueue T (emit T n) fuel ⟨playerId, kind⟩) w := by
  have hsame : ∀ result : RequestResult, Tells (fun w' => SameScreens T w w' ∨
      Hushed T w (.command playerId (.action kind))) (pure result) w :=
    fun _ => .pure (.inl .refl)
  refine .reads (a := w.gs) rfl (.ite (fun _ => hsame _) fun hphase => .reads (a := w) rfl (.ite
    (fun _ => .throw _) fun _ => .ite (fun _ => hsame _) fun howner => .ite (fun _ => hsame _)
    fun _ => .orThrow fun check hcheck => .ite (fun haccepted => ?_) fun _ => hsame _))
  have hcurrent : w.gs.board.currentPlayerId = some playerId := (not_not.1 howner).symm
  have hcan : Action.canExecute T w.gs.board ⟨playerId, kind⟩ = .ok .accepted :=
    RequestResult.isAccepted_iff.1 haccepted ▸ hcheck
  let w₁ : World := { w with
    turnManager :=
      { w.turnManager with actionQueue := w.turnManager.actionQueue ++ [⟨playerId, kind⟩] }
    history := .queued ⟨playerId, kind⟩ w.turnManager.turn :: w.history }
  refine .reads (a := w) rfl
    (.writes rfl (List.suffix_cons _ _) (.writes (t := w₁) rfl (.of_eq rfl) ?_))
  intro result w' hrun
  obtain ⟨_, t, hdrain, hend⟩ := ran_of_bind hrun
  cases hend
  replace hdrain := ran_drain (w := w₁) hcurrent hdrain
  cases hbusy : w.gs.isBusy with
  | true =>
    obtain rfl := drainQueue_busy (w := w₁) (by simp [w₁]) hbusy hdrain
    exact .inr (.inl ⟨rfl, rfl, rfl⟩)
  | false =>
    have hqueue : w₁.turnManager.actionQueue = [⟨playerId, kind⟩] := by
      change w.turnManager.actionQueue ++ _ = _
      rw [hserved hphase hcurrent hbusy, List.nil_append]
    obtain hsaid | ⟨player, hplayer, hquiet, hleft⟩ :=
      drainAction_announced (w := w₁) hqueue hbusy hcan hdrain
    · exact .inl hsaid
    · exact .inr (.inr (.unspoken hcurrent hphase hbusy hplayer hcan hquiet hleft))

/-- A turn that lapses ends, and that is told; a clock that finds no turn to end stops unheard. -/
theorem lapse_tells {turn : Nat} {deadline : Int} (hclock : w.turnManager.clock = some turn)
    (hdeadline : w.turnManager.getTurnDeadline = some deadline) (hdue : deadline ≤ w.now)
    (hserved : ∀ playerId, w.gs.board.gamePhase ≠ .concluded →
      w.gs.board.currentPlayerId = some playerId → w.gs.isBusy = false →
      w.turnManager.actionQueue = []) :
    Tells (fun w' => SameScreens T w w' ∨ Hushed T w .turnLapse)
    (lapse T (emit T n) fuel turn) w := by
  let w₁ : World := { w with turnManager := { w.turnManager with clock := none } }
  refine .writes (t := w₁) rfl (.of_eq rfl)
    (.reads (a := w₁) rfl (.ite (fun hover => ?_) fun _ => .ite
    (fun hover => ?_) fun hphase => .ite (fun _ => .throw _) fun hidle => ?_))
  · exact .pure (.inr (.stopped hclock hdeadline hdue (hover.imp id .inl)))
  · exact .pure (.inr (.stopped hclock hdeadline hdue (.inr (.inr (.inl hover)))))
  · split
    · exact .pure (.inr (.stopped hclock hdeadline hdue (.inr (.inr (.inr ‹_›)))))
    · rename_i playerId hcurrent
      refine .announces' fun a w' hrun => ?_
      obtain ⟨points, t, hpoints, hrun⟩ := ran_of_bind hrun
      obtain ⟨player, hplayer, rfl, rfl⟩ := ran_getActionPoints hpoints
      obtain ⟨_, t, hpay, hdrain⟩ := ran_of_bind hrun
      obtain ⟨_, _, rfl⟩ := ran_decreaseActionPoints hpay
      have hidle' : w.gs.isBusy = false := Bool.eq_false_iff.2 hidle
      have hqueue : w.turnManager.actionQueue = [] := hserved playerId hphase hcurrent hidle'
      have hpaid := Board.points_decreaseActionPoints hplayer player.actionPoints
      have hspent : (player.decreaseActionPoints player.actionPoints).actionPoints ≤ 0 := by
        simp [Player.decreaseActionPoints]
      exact .congr rfl (drainQueue_announced (w := { w₁ with
        gs := w₁.gs.modifyBoard (Board.decreaseActionPoints playerId player.actionPoints) })
        hqueue hidle' hpaid hspent (ran_drain hcurrent hdrain))

/-- The turn timer is told, unless it was not due or found no turn to end. -/
theorem turnLapse_tells
    (hserved : ∀ playerId, w.gs.board.gamePhase ≠ .concluded →
      w.gs.board.currentPlayerId = some playerId → w.gs.isBusy = false →
      w.turnManager.actionQueue = []) :
    Tells (fun w' => SameScreens T w w' ∨ Hushed T w .turnLapse)
    (turnLapse T (emit T n) fuel) w := by
  refine .reads (a := w) rfl ?_
  split
  · exact .ite (fun hdue => lapse_tells ‹_› ‹_› hdue hserved) fun _ => .pure (.inl .refl)
  · exact .pure (.inl .refl)

end

/-! ## Runs -/

section
variable {setup : GameSetup} {w w' : World}

/-- A pass is told by what it settles; one that settles nothing is shown to nobody, or is hushed.
-/
theorem Reach.pass_tells (h : Reach setup w) {windowId fuel : Nat} {seat : String} :
    Tells (fun w' => SameScreens setup.table w w' ∨
      Hushed setup.table w (.command seat (.passWindow windowId)))
      (handle setup.table fuel (.command seat (.passWindow windowId))) w := by
  intro _ w' hrun
  obtain ⟨-, rfl⟩ | ⟨frameId, win, hfound, hopen, hcan, hdone⟩ := pass_run hrun
  · exact .inr (.inl .refl)
  have hpassable := Window.isPassable_of_canPass hcan
  have hid := (GameState.hasWindow_windowById hfound).2
  -- a seat that has passed already changes nothing
  have hagain : seat ∈ win.passedBy → win.pass seat = win := by
    intro hmem
    rcases win with ⟨_, _, _, _, _, body⟩
    cases body with
    | roll | challenge => simp_all [Window.pass, Window.passedBy, Window.insertPass]
    | choice => rfl
  split at hdone <;> rename_i hall
  · obtain hsaid | ⟨-, hafter, rfl⟩ :=
      resolve_announced ((Window.isOpen_pass seat win).trans hopen) hdone
    · exact .inl (hsaid.congr rfl)
    · rw [hasOpenFramesAfter_pass] at hafter
      by_cases hmoves : seat ∉ win.passedBy ∨ win.deadline ≠ w.now + win.clockMs
      · exact .inr (.inr (.overtaken hfound hopen hcan hall hafter hmoves))
      · obtain ⟨hmem, hclock⟩ := not_or.1 hmoves
        have hpassed := hagain (not_not.1 hmem)
        have hreset : Window.resetTimer w.now win = win := by
          rw [Window.resetTimer, ← not_not.1 hclock]
        refine .inr (.inl ⟨?_, rfl, rfl⟩)
        change ((w.gs.modifyWindow windowId (Window.pass seat)).modifyWindow (win.pass seat).id
          (Window.resetTimer w.now)) = w.gs
        rw [h.modifyWindow_same hfound hpassed, hpassed, hid, h.modifyWindow_same hfound hreset]
  · by_cases hfresh : seat ∈ win.passedBy
    · subst hdone
      exact .inr (.inl ⟨h.modifyWindow_same hfound (hagain hfresh), rfl, rfl⟩)
    · exact .inr (.inr (.waits hfound hopen hcan hfresh (Bool.eq_false_iff.2 hall)))

/-- A window's timer is told, unless it only starts the clock again. -/
theorem Reach.windowLapse_tells (h : Reach setup w) {windowId fuel : Nat} :
    Tells (fun w' => SameScreens setup.table w w' ∨ Hushed setup.table w (.windowLapse windowId))
      (windowLapse setup.table (emit setup.table fuel) windowId) w := by
  refine .reads (a := w.gs) rfl ?_
  split
  · exact .pure (.inl .refl)
  · rename_i frameId win hfound
    refine .reads (a := w.now) rfl (.ite (fun hdue => ?_) fun _ => .pure (.inl .refl))
    intro _ w' hrun
    by_cases hopen : win.isOpen = true
    · obtain hsaid | ⟨hpassable, hafter, rfl⟩ := resolve_announced hopen hrun
      · exact .inl hsaid
      · by_cases hmoves : win.deadline = w.now + win.clockMs
        · have hid := (GameState.hasWindow_windowById hfound).2
          refine .inr (.inl ⟨h.modifyWindow_same (hid ▸ hfound) ?_, rfl, rfl⟩)
          rw [Window.resetTimer, ← hmoves]
        · exact .inr (.inr (.rearmed hfound hopen hpassable hdue hafter hmoves))
    · unfold resolve at hrun
      rw [if_pos (by simpa [Window.isOpen] using hopen)] at hrun
      cases hrun
      exact .inr (.inl .refl)

/-- Every input is told, shown to nobody, or hushed. -/
theorem Reach.handle_tells (h : Reach setup w) {fuel : Nat} (input : Input) :
    Tells (fun w' => SameScreens setup.table w w' ∨ Hushed setup.table w input)
      (handle setup.table fuel input) w := by
  have hsame : SameScreens setup.table w w ∨ Hushed setup.table w input := .inl .refl
  have hserved : ∀ playerId, w.gs.board.gamePhase ≠ .concluded →
      w.gs.board.currentPlayerId = some playerId → w.gs.isBusy = false →
      w.turnManager.actionQueue = [] := fun _ hphase hcurrent => h.served hphase hcurrent
  cases input with
  | tick ms =>
    intro _ w' hrun
    cases hrun
    exact .inr (.inl (.tick ms))
  | windowLapse windowId => exact h.windowLapse_tells
  | turnLapse => exact turnLapse_tells hserved
  | revealLapse => exact revealLapse_tells hsame
  | command playerId command =>
    cases command with
    | action kind => exact .ends (enqueue_tells (hserved playerId))
    | applyModifier =>
      exact .ends (.reads (a := w.gs) rfl (submitReaction_tells hsame (playModifier_tells hsame)))
    | challenge =>
      refine .ends (.reads (a := w.now) rfl (.reads (a := w.gs) rfl ?_))
      exact submitReaction_tells hsame (playChallenge_tells hsame)
    | submitChoice => exact .ends (submitChoice_tells hsame)
    | passWindow => exact h.pass_tells

/-- **Nothing else moves the board silently.** An input that is none of the silent ones and changes
what some seat is shown has announced an event, in a run in which no input throws half-way. -/
theorem Reach.told (h : Reach setup w) {input : Input} (hstep : Step setup.table w input w')
    (hloud : ¬ Hushed setup.table w input)
    (hseen : ∃ seat, playerView setup.table w' seat ≠ playerView setup.table w seat) :
    Announced w w' := by
  obtain ⟨seat, hne⟩ := hseen
  have htells : Announced w w' ∨ SameScreens setup.table w w' ∨ Hushed setup.table w input := by
    cases hstep with
    | threw => exact .inr (.inl .refl)
    | ok hrun => exact h.handle_tells input hrun
  obtain hsaid | hsame | hsilent := htells
  · exact hsaid
  · exact absurd (hsame.playerView seat) hne
  · exact absurd hsilent hloud

end

/-- A card lies in the deck once the hands are dealt. -/
def cardInDeck : GameSetup :=
  tableForTwo 1 [heroCard "hero-001" .fighter 8, heroCard "hero-002" .thief 8,
    heroCard "hero-003" .bard 8] []

/-- The first seat draws the card, and is shown a deck that is one card shorter. -/
theorem cardInDeck_played :
    ((cardInDeck.play 40 []).any fun w =>
      match (handle cardInDeck.table 40 (.command "A" (.action .drawCard))).run w with
      | .ok _ w' => (playerView cardInDeck.table w "A").toOption.map (·.mainDeckCount) = some 1 &&
        (playerView cardInDeck.table w' "A").toOption.map (·.mainDeckCount) = some 0
      | .error _ _ => false) = true := by
  decide +kernel

/-- A draw from a deck with one card in it is announced. -/
theorem Reach.told_cardInDeck : ∃ w w', Reach cardInDeck w ∧
    Step cardInDeck.table w (.command "A" (.action .drawCard)) w' ∧ Announced w w' := by
  obtain ⟨w, h, hplayed⟩ := Reach.of_play _ _ _ _ cardInDeck_played
  cases hrun : (handle cardInDeck.table 40 (.command "A" (.action .drawCard))).run w with
  | error => simp [hrun] at hplayed
  | ok _ w' =>
    simp only [hrun, Bool.and_eq_true, decide_eq_true_eq] at hplayed
    refine ⟨w, w', h, .ok hrun, h.told (.ok hrun) ?_ ⟨"A", fun hsame => ?_⟩⟩
    · intro hsilent
      cases hsilent with
      | unspoken _ _ _ _ _ hquiet => cases hquiet
    · rw [hsame, hplayed.1] at hplayed
      cases hplayed.2

end HereToSlaughter
