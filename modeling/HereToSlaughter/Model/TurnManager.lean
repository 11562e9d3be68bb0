import HereToSlaughter.Model.Actions

/-!
# The turn manager

The action queue, the turn and its clock. An action that is taken runs at once on an idle board; one
that may wait is queued and asked again when its moment comes. The turn ends when the queue is
empty, the budget is gone and the board is idle.

Reference: `pipelines/turn-manager.ts`.
-/

namespace HereToSlaughter

open EngineM

/-! ## The clock -/

namespace TurnManagerState

/-- `pauseClock`: the elapsed part comes off what the turn has left. -/
def pauseClock (now : Nat) (tm : TurnManagerState) : TurnManagerState :=
  match tm.clock with
  | none => tm
  | some _ =>
    { tm with
      clock := none
      remainingMs := tm.remainingMs.map fun ms => ms - ((now : Int) - tm.runningSince) }

/-- `resumeClock`: nothing without a turn, without a clock, or while it already runs. -/
def resumeClock (now : Nat) (tm : TurnManagerState) : TurnManagerState :=
  if tm.remainingMs.isNone ∨ tm.clock.isSome ∨ tm.phase ≠ .action then tm
  else { tm with clock := some tm.turn, runningSince := now }

/-- `stopClock`. -/
def stopClock (now : Nat) (tm : TurnManagerState) : TurnManagerState :=
  { tm.pauseClock now with remainingMs := none }

/-- When the running clock lapses: `getTurnDeadline`. -/
def getTurnDeadline (tm : TurnManagerState) : Option Int :=
  match tm.clock, tm.remainingMs with
  | some _, some ms => some (tm.runningSince + ms)
  | _, _ => none

/-- `getRemainingMs`. -/
def getRemainingMs (now : Nat) (tm : TurnManagerState) : Option Int :=
  match tm.remainingMs, tm.clock with
  | none, _ => none
  | some ms, none => some ms
  | some ms, some _ => some (max 0 (ms - ((now : Int) - tm.runningSince)))

end TurnManagerState

/-- Change the turn manager. -/
def modifyTurnManager (f : Nat → TurnManagerState → TurnManagerState) : EngineM Unit :=
  modify fun w => { w with turnManager := f w.now w.turnManager }

/-- `syncClock`: the clock stands still while a window is open. -/
def syncClock : EngineM Unit := do
  if (← getGs).hasOpenFrames then modifyTurnManager TurnManagerState.pauseClock
  else modifyTurnManager TurnManagerState.resumeClock

/-- `TurnManager.onEvent`. -/
def TurnManager.onEvent (event : GameEvent) : EngineM Unit :=
  match event.type with
  | .reactionWindowOpened => modifyTurnManager TurnManagerState.pauseClock
  | .frameResolved => syncClock
  | _ => pure ()

/-! ## Turns -/

section
variable (T : Table) (em : Emit)

/-- What standing effects add to the budget of a turn. -/
def actionPointBonus (b : Board) (playerId : String) : Int :=
  ((b.getEffects .actionPointBonus playerId).map fun effect => effect.value.getD 0).sum

/-- The board at the start of a turn: whose it is, a fresh slate and a full budget. -/
def Board.startTurn (playerId : String) (b : Board) : Board :=
  let b := ({ b with currentPlayerId := some playerId }.clearUsedAbilities.clearChallengedCards)
    |>.resetActionPoints playerId
  b.increaseActionPoints playerId (actionPointBonus b playerId)

/-- `TurnManager.startTurn`: nothing for an id the table never seated. -/
def startTurn (playerId : String) : EngineM Unit := do
  if (← getGs).board.isSeated playerId then
    modifyBoard (Board.startTurn playerId)
    modifyTurnManager fun now tm =>
      { ({ tm with phase := .action, turn := tm.turn + 1 } : TurnManagerState).stopClock now with
        remainingMs := T.config.turnTimeMs.map Int.ofNat }
    em (.turnStarted playerId)
    syncClock
  else pure ()

/-- `TurnManager.endTurn`. -/
def endTurn : EngineM Unit := do
  modifyTurnManager TurnManagerState.stopClock
  modifyBoard Board.clearUsedAbilities
  modifyTurnManager fun _ tm => { tm with phase := .end }
  em (.turnEnded ((← getGs).board.currentPlayerId.getD ""))

/-- The last statement of `drain`: the turn is over when the budget is gone and the board idle. -/
def endTurnIfDue (playerId : String) : EngineM Unit := do
  if (← getActionPoints playerId) ≤ 0 ∧ !(← getGs).isBusy then endTurn em else pure ()

/-- One action off the front of the queue, run if it may be. -/
def runQueued (fuel : Nat) (action : Action) (rest : List Action) : EngineM Unit := do
  let check ← orThrow (action.canExecute T (← getGs).board)
  modifyTurnManager fun _ tm => { tm with actionQueue := rest }
  if check.isAccepted then
    mark (.executed action (← get).turnManager.turn (← getGs))
    action.execute T em fuel
  else pure ()

/-- The loop of `TurnManager.drain` for the seat whose turn it was when the drain began. -/
def drainQueue (playerId : String) : Nat → EngineM Unit
  | 0 => throw .outOfFuel
  | fuel + 1 => do
    match (← get).turnManager.actionQueue with
    | [] => endTurnIfDue em playerId
    | action :: rest =>
      if (← getGs).isBusy then pure ()
      else
        runQueued T em fuel action rest
        drainQueue playerId fuel

/-- `TurnManager.drain`. -/
def TurnManager.drain (fuel : Nat) : EngineM Unit := do
  match (← getGs).board.currentPlayerId with
  | none => pure ()
  | some playerId => drainQueue T em playerId fuel

/-- `TurnManager.enqueue`. Throws outside the action phase. -/
def enqueue (fuel : Nat) (action : Action) : EngineM RequestResult := do
  let gs ← getGs
  if gs.board.gamePhase = .concluded then return .refused .gameOver
  else if (← get).turnManager.phase ≠ .action then
    fail "TurnManager.enqueue outside the action phase"
  else if some action.playerId ≠ gs.board.currentPlayerId then return .refused .notYourTurn
  else if action.kind.isReactable && gs.isBusy then return .refused .busy
  else
    let check ← orThrow (action.canExecute T gs.board)
    if check.isAccepted then
      mark (.queued action (← get).turnManager.turn)
      modifyTurnManager fun _ tm => { tm with actionQueue := tm.actionQueue ++ [action] }
      TurnManager.drain T em fuel
      return .accepted
    else return check

/-- `TurnManager.lapse`: the budget is forfeited and the drain ends the turn. Throws on a busy
board. -/
def lapse (fuel : Nat) (turn : Nat) : EngineM Unit := do
  modifyTurnManager fun _ tm => { tm with clock := none }
  let w ← get
  if turn ≠ w.turnManager.turn ∨ w.turnManager.phase ≠ .action then pure ()
  else if w.gs.board.gamePhase = .concluded then pure ()
  else if w.gs.isBusy then
    fail "TurnManager: the turn clock lapsed on a busy board — it pauses while a window is open."
  else match w.gs.board.currentPlayerId with
    | none => pure ()
    | some playerId =>
      decreaseActionPoints playerId (← getActionPoints playerId)
      TurnManager.drain T em fuel

end

end HereToSlaughter
