import HereToSlaughter.Model.GameState

/-!
# A running game

`Table` is what is fixed once a game is created: the registered cards, the rule tables, the
configuration and the stream of random numbers. `World` is everything that changes: the game state
and the private fields of the managers that listen to the emitter, with the clock, the place in
the random stream and the counter that stands for `crypto.randomUUID()`.

`World.history` is a ghost: operations write a mark to it and nothing reads it. The properties of
runs are stated on it (which event was emitted over which state, which frame was opened and how it
settled, which action was queued and executed), because a state alone does not remember them.

Engine operations are programs of `EngineM`, which threads the world through and stops at a thrown
error. An operation that announces something takes the emitter as its argument `em`; the knot is
tied in `Model/Engine.lean`.
-/

namespace HereToSlaughter

open Lib

/-! ## What is fixed -/

/-- `WinConditionConfig`. -/
structure WinConditionConfig where
  type : WinConditionType
  value : Int
  deriving DecidableEq

/-- `GameConfig`, the fields the engine reads. -/
structure GameConfig where
  minPlayers : Nat := 2
  maxPlayers : Nat := 4
  startingHandSize : Nat := 5
  actionPointsPerTurn : Nat := 3
  cardSets : List String := ["base"]
  winConditions : List WinConditionConfig := [⟨.slayMonsters, 3⟩, ⟨.partyClasses, 6⟩]
  requireAllWinConditions : Bool := false
  reactionCountdownMs : Nat := 5000
  turnTimeMs : Option Nat := none
  deriving DecidableEq

/-- What a game is created with and never changes. `rng` is the stream `Math.random()` is read
from: its `n`-th number answers the `n`-th draw. -/
structure Table where
  cards : Cards
  rules : Rules
  config : GameConfig
  rng : Nat → Nat

/-! ## What changes -/

/-- The nine actions of `server/src/game/actions`, with the card each names. -/
inductive ActionKind
  | drawCard
  | playHero (cardId : String)
  | playItem (cardId targetHeroId : String)
  | playMagic (cardId : String)
  | rollOnHero (cardId : String)
  | rollOnLeader (cardId : String)
  | attackMonster (cardId : String)
  | reDraw
  | endTurn
  deriving DecidableEq

/-- `IAction`. -/
structure Action where
  playerId : String
  kind : ActionKind
  deriving DecidableEq

/-- The private fields of `TurnManager`. `clock` is the running timer, as the number of the turn
its lapse carries. -/
structure TurnManagerState where
  phase : TurnPhase := .start
  actionQueue : List Action := []
  remainingMs : Option Int := none
  runningSince : Nat := 0
  clock : Option Nat := none
  turn : Nat := 0
  deriving DecidableEq

/-- A reveal whose timer is running: `RevealTask`'s `setTimeout`. -/
structure Reveal where
  ownerId : String
  seats : List String
  cardIds : List String
  due : Nat
  deriving DecidableEq

/-- `LogLine`. `sound` is left out, `soundWindowId` kept. -/
structure LogLine where
  text : String
  soundWindowId : Option Nat := none
  /-- The seats that saw the card, and the line as they read it. -/
  seen : Option (List String × String) := none
  deriving DecidableEq

/-- One event as `GameLog` records it, with the line it is told by, if any. -/
structure LogRecord where
  «at» : Nat
  event : GameEvent
  line : Option LogLine
  deriving DecidableEq

/-- A mark of the ghost history. -/
inductive Mark
  /-- An event went out over this state. -/
  | emitted (event : GameEvent) (gs : GameState)
  /-- A frame opened over this state. -/
  | opened (frameId : Nat) (gs : GameState)
  /-- A frame was released. -/
  | released (frameId : Nat) (before after : GameState)
  /-- A frame was restored. -/
  | restored (frameId : Nat) (before after : GameState)
  /-- A card was spent into a window of this frame, over this state. -/
  | spent (playerId cardId : String) (frameId : Nat) (gs : GameState)
  /-- An item went on a hero, into the gear of this seat's party, over this state. -/
  | equipped (playerId heroId itemId : String) (gs : GameState)
  /-- An action was queued in this turn. -/
  | queued (action : Action) (turn : Nat)
  /-- An action was executed in this turn, over this state. -/
  | executed (action : Action) (turn : Nat) (gs : GameState)
  /-- A step suspended its pipeline on a frame. -/
  | suspended (pid frameId : Nat)
  /-- The game was concluded over this state. -/
  | concluded (winnerId : String) (gs : GameState)

/-- Everything that changes in a running game. -/
structure World where
  gs : GameState
  turnManager : TurnManagerState := {}
  /-- `TaskManager.draining`. -/
  draining : Bool := false
  /-- `GameEngine.playerOrder`. -/
  playerOrder : List String := []
  /-- `GameEngine.dirty`. -/
  dirty : Bool := false
  log : List LogRecord := []
  reveals : List Reveal := []
  now : Nat := 0
  randomAt : Nat := 0
  nextId : Nat := 0
  /-- Ghost. -/
  history : List Mark := []

/-! ## Engine programs -/

/-- A program over the world that may throw. -/
abbrev EngineM := EStateM EngineError World

/-- `IGameEventEmitter.emit`. -/
abbrev Emit := GameEvent → EngineM Unit

namespace EngineM

/-- Throw an `Error` with this text. -/
def fail {α : Type} (message : String) : EngineM α := throw (.thrown message)

/-- A computation on values that may throw. -/
def orThrow {α : Type} : Except EngineError α → EngineM α
  | .ok a => pure a
  | .error e => throw e

/-- The game state. -/
def getGs : EngineM GameState := return (← get).gs

/-- Change the game state. -/
def modifyGs (f : GameState → GameState) : EngineM Unit :=
  modify fun w => { w with gs := f w.gs }

/-- Change the board. -/
def modifyBoard (f : Board → Board) : EngineM Unit := modifyGs (GameState.modifyBoard f)

/-- Write a mark to the ghost history. -/
def mark (m : Mark) : EngineM Unit := modify fun w => { w with history := m :: w.history }

/-- `crypto.randomUUID()`. -/
def freshId : EngineM Nat := modifyGet fun w => (w.nextId, { w with nextId := w.nextId + 1 })

/-- `Math.floor(Math.random() * n)`. -/
def random (rng : Nat → Nat) (n : Nat) : EngineM Nat :=
  modifyGet fun w => (rng w.randomAt % n, { w with randomAt := w.randomAt + 1 })

/-- `Date.now()`. -/
def now : EngineM Nat := return (← get).now

/-- `roll2Dice`. -/
def roll2Dice (rng : Nat → Nat) : EngineM Int := do
  let a ← random rng 6
  let b ← random rng 6
  return (a + 1 : Int) + (b + 1)

/-- Throw unless the player is seated: the guard of the doors that go through `requirePlayer`. -/
def requirePlayer (playerId : String) : EngineM Player := do
  orThrow ((← getGs).board.requirePlayer playerId)

/-- `GameState.getParty`. -/
def getParty (playerId : String) : EngineM Party := do
  orThrow ((← getGs).board.getParty playerId)

/-- Run a program on every element of a list, in order. -/
def forEach {α : Type} (act : α → EngineM Unit) : List α → EngineM Unit
  | [] => pure ()
  | a :: rest => do act a; forEach act rest

end EngineM

end HereToSlaughter
