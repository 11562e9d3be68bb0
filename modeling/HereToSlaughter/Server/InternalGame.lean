import HereToSlaughter.Auth.Service
import HereToSlaughter.Lobby.Service
import HereToSlaughter.Model.BaseGameCards
import HereToSlaughter.Model.CreateGame

/-!
# The lobby's door to the game server

The table's settings as the lobby edits them, the request the lobby hands over with the seats, and
the game server's answer: the shape of the request checked, the settings turned into the engine's
configuration, and a game of the base set dealt.

Reference: `shared/src/contracts/game-settings.ts`, `shared/src/contracts/internal-game.ts`,
`game-server/internal-game.controller.ts`, `game-server/game-registry.service.ts`,
`game-server/game-config-for.ts`.
-/

namespace HereToSlaughter

/-! ## The settings -/

/-- `WinConditionModeSchema`. -/
inductive WinConditionMode
  | monstersOrClasses | monstersAndClasses
  deriving DecidableEq

/-- `CardSetSchema`. -/
inductive CardSet
  | base
  deriving DecidableEq

/-- The set as the cards name theirs. -/
def CardSet.toText : CardSet → String
  | .base => "base"

/-- `MAX_PLAYER_COUNT`. -/
def MAX_PLAYER_COUNT : Nat := 4

/-- `REACTION_SPEEDS`. -/
def REACTION_SPEEDS : List (String × Nat) := [("fast", 5000), ("moderate", 10000), ("slow", 20000)]

/-- `GameSettings` whole, with the values of `DEFAULT_GAME_SETTINGS`. -/
structure TableSettings extends GameSettings where
  winCondition : WinConditionMode := .monstersOrClasses
  monsterCount : Nat := 3
  cardSet : CardSet := .base
  turnTimeMs : Nat := 60000
  reactionTimeMs : Nat := 10000
  deriving DecidableEq

/-- `DEFAULT_GAME_SETTINGS`. -/
def DEFAULT_GAME_SETTINGS : TableSettings := {}

/-- `FAST_GAME_SETTINGS`. -/
def FAST_GAME_SETTINGS : TableSettings :=
  { DEFAULT_GAME_SETTINGS with turnTimeMs := 30000, reactionTimeMs := 5000 }

/-- The field is at fault unless it passes. -/
def atFault (field : String) (passes : Bool) : List String := if passes then [] else [field]

/-- `GameSettingsSchema`: the fields at fault. -/
def GameSettingsSchema (settings : TableSettings) : List String :=
  atFault "playerCount" (MIN_PLAYER_COUNT ≤ settings.playerCount &&
    settings.playerCount ≤ MAX_PLAYER_COUNT) ++
  atFault "monsterCount" (2 ≤ settings.monsterCount && settings.monsterCount ≤ 5) ++
  atFault "turnTimeMs" (10000 ≤ settings.turnTimeMs && settings.turnTimeMs ≤ 120000) ++
  atFault "reactionTimeMs" ((REACTION_SPEEDS.map Prod.snd).contains settings.reactionTimeMs)

/-! ## The configuration -/

/-- `winConditionsFor`: both printed conditions, always. -/
def winConditionsFor (settings : TableSettings) : List WinConditionConfig :=
  [⟨.slayMonsters, settings.monsterCount⟩, ⟨.partyClasses, HeroClass.all.length⟩]

/-- `gameConfigFor`. What the settings do not name keeps its default. -/
def gameConfigFor (settings : TableSettings) : GameConfig where
  minPlayers := MIN_PLAYER_COUNT
  maxPlayers := settings.playerCount
  cardSets := [settings.cardSet.toText]
  winConditions := winConditionsFor settings
  requireAllWinConditions := settings.winCondition = .monstersAndClasses
  reactionCountdownMs := settings.reactionTimeMs
  turnTimeMs := some settings.turnTimeMs

/-! ## The request -/

/-- `CreateGameRequest`: the seats in the order of the ready list, and the settings. -/
structure CreateGameRequest where
  players : List LobbyPlayer
  settings : TableSettings
  deriving DecidableEq

/-- `SeatedAccountSchema`: the fields at fault, once trimmed. -/
def SeatedAccountSchema (player : LobbyPlayer) : List String :=
  atFault "accountId" (trim player.accountId ≠ "") ++ atFault "username" (trim player.username ≠ "")

/-- What the schema makes of a seat. -/
def LobbyPlayer.trimmed (player : LobbyPlayer) : LobbyPlayer :=
  ⟨trim player.accountId, trim player.username⟩

/-- `CreateGameRequestSchema.safeParse`: the paths of the fields at fault, or the request with every
seat trimmed. -/
def CreateGameRequestSchema (request : CreateGameRequest) :
    Except (List String) CreateGameRequest :=
  let paths := (request.players.zipIdx.flatMap fun e =>
      (SeatedAccountSchema e.1).map fun field => s!"players.{e.2}.{field}") ++
    (GameSettingsSchema request.settings).map fun field => s!"settings.{field}"
  if paths = [] then .ok { request with players := request.players.map LobbyPlayer.trimmed }
  else .error paths

/-! ## The door -/

/-- What `GameRegistryService.create` calls `createGame` with: the account ids are the player ids,
and a seat is called what its account is. -/
def setupFor (request : CreateGameRequest) (rng : Nat → Nat) : GameSetup where
  playerIds := request.players.map LobbyPlayer.accountId
  config := gameConfigFor request.settings
  cards := baseGameCards
  names playerId :=
    (request.players.findRev? fun player => player.accountId = playerId).map LobbyPlayer.username
  rng := rng

/-- How the door answers when it deals no game: the paths of the fields at fault cross the wire,
what the engine throws does not. -/
inductive CreateGameError
  | invalidRequest (paths : List String)
  | thrown (error : EngineError)
  deriving DecidableEq

/-- `InternalGameController.createGame`: the game it answers with, and the table it holds from then
on. -/
def InternalGameController.createGame (game : CreatedGame) (rng : Nat → Nat)
    (request : CreateGameRequest) : Except CreateGameError (CreatedGame × World) :=
  match CreateGameRequestSchema request with
  | .error paths => .error (.invalidRequest paths)
  | .ok request =>
    match HereToSlaughter.createGame (setupFor request rng) with
    | .error error => .error (.thrown error)
    | .ok w => .ok (game, w)

end HereToSlaughter
