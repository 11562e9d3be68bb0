import HereToSlaughter.Model.GameLog
import HereToSlaughter.Model.TaskManager
import HereToSlaughter.Model.TurnManager

/-!
# The engine

`GameEngine`, the last of the three managers that hear every event, and the emitter that ties them
together: an event goes to the turn manager, to the task manager, to the engine and to the log, and
whatever they emit in answer goes out before the next of them hears it. The source recurses through
the emitter without a bound; here `emit` counts the nesting down, and a run that would go deeper
than the fuel it is given stops with `outOfFuel`.

Reference: `game-engine.ts`, `conditions/win-conditions.ts`, `events/game-event-emitter.ts`.
-/

namespace HereToSlaughter

open EngineM

/-! ## Winning -/

/-- `isMetBy` of `SlayMonsters` and of `AllClassesInParty`. The classes a win can ask for are the
game's six, whatever the configured number. -/
def WinConditionConfig.isMetBy (cards : Cards) (b : Board) (playerId : String)
    (condition : WinConditionConfig) : Bool :=
  match condition.type with
  | .slayMonsters =>
    condition.value ≤ (((b.parties.get? playerId).map Party.monsterIds).getD []).length
  | .partyClasses =>
    min condition.value HeroClass.all.length ≤ (b.getPartyClasses cards playerId).dedup.length

/-- Whether one seat meets the configured conditions, all of them or any. -/
def winsBy (T : Table) (b : Board) (playerId : String) : Bool :=
  if T.config.requireAllWinConditions then
    T.config.winConditions.all fun condition => condition.isMetBy T.cards b playerId
  else T.config.winConditions.any fun condition => condition.isMetBy T.cards b playerId

/-- `checkWinConditions`: the first seat that wins. No conditions are never met. -/
def checkWinConditions (T : Table) (b : Board) : Option String :=
  if T.config.winConditions = [] then none else b.seats.find? (winsBy T b)

section
variable (T : Table) (em : Emit)

/-- `GameEngine.concludeIfDue`: whether the game is concluded, now or earlier. -/
def concludeIfDue : EngineM Bool := do
  let gs ← getGs
  if gs.board.gamePhase = .concluded then return true
  else if !(← get).dirty || gs.hasPendingOutcome then return false
  else
    modify fun w => { w with dirty := false }
    match checkWinConditions T gs.board with
    | none => return false
    | some winnerId =>
      modifyTurnManager TurnManagerState.stopClock
      conclude em winnerId
      em (.gameEnded winnerId)
      return true

/-- The seat after this one, in the order the turns go round. -/
def nextSeat (playerOrder : List String) (currentPlayerId : String) : Option String :=
  playerOrder[(match playerOrder.findIdx? (· = currentPlayerId) with
    | some i => i + 1
    | none => 0) % playerOrder.length]?

/-- `GameEngine.startNextTurn`. -/
def startNextTurn (currentPlayerId : String) : EngineM Unit := do
  match nextSeat (← get).playerOrder currentPlayerId with
  | none => pure ()
  | some playerId => startTurn T em playerId

/-- `GameEngine.onEvent`. -/
def GameEngine.onEvent (fuel : Nat) (event : GameEvent) : EngineM Unit := do
  modify fun w => { w with dirty := true }
  let concluded ← concludeIfDue T em
  if concluded then pure ()
  else match event.type with
    | .turnEnded => startNextTurn T em event.playerId
    | .frameResolved => TurnManager.drain T em fuel
    | _ => pure ()

end

/-! ## The emitter -/

/-- What the listeners do with an event, in the order they were added. -/
def hear (T : Table) (em : Emit) (fuel : Nat) (event : GameEvent) : EngineM Unit := do
  TurnManager.onEvent event
  TaskManager.onEvent T em fuel event
  GameEngine.onEvent T em fuel event
  GameLog.onEvent T.cards event

/-- `GameEventEmitter.emit`. -/
def emit (T : Table) : Nat → Emit
  | 0, _ => throw .outOfFuel
  | n + 1, event => do
    mark (.emitted event (← getGs))
    hear T (emit T n) n event

/-- `GameEngine.start`: `GameStarted`, then the first turn. -/
def start (T : Table) (n : Nat) (playerOrder : List String) : EngineM Unit := do
  modify fun w => { w with playerOrder }
  modifyBoard fun b => { b with gamePhase := .turns }
  emit T n .gameStarted
  match playerOrder with
  | [] => pure ()
  | first :: _ => startTurn T (emit T n) first

end HereToSlaughter
