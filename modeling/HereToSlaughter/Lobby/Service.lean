import HereToSlaughter.Lib.Interleaving
import HereToSlaughter.Lib.OrderedMap

/-!
# The lobby

One lobby serves every account. Its calls read the ready list, the settings and the assignments,
and write to them, with an await after each read and each write, so between what a call has read and
what it writes upon it any other call may run. A call is modelled by the await point it stands at,
with the values it keeps across it. Each operation of the stores is a single go.

What a call does after its last write (the snapshot it answers with, and the updates it publishes)
only reads.

Reference: `lobby/lobby.service.ts`, `lobby/stores/in-memory-lobby.store.ts`,
`lobby/stores/in-memory-game-assignment.store.ts`.
-/

namespace HereToSlaughter

open Lib

/-! ## The stores -/

/-- `LobbyPlayer`. -/
structure LobbyPlayer where
  accountId : String
  username : String
  deriving DecidableEq

/-- `GameSettings`, of which the lobby reads how many seats there are. -/
structure GameSettings where
  playerCount : Nat := 4
  deriving DecidableEq

/-- `GameAssignment`. -/
structure GameAssignment where
  accountId : String
  gameId : String
  webSocketUrl : String
  assignedAt : Nat
  deriving DecidableEq

/-- `MIN_PLAYER_COUNT`. -/
def MIN_PLAYER_COUNT : Nat := 2

/-- The errors a call of the lobby ends with. -/
inductive LobbyError
  | lobbyFull (capacity : Nat)
  | accountAlreadyInGame
  | onlyHostCanStart
  | onlyHostCanChangeSettings
  | invalidReadyPlayerCount (minimum maximum : Nat)
  | gameServerUnavailable
  | gameStartInProgress
  | duplicateAccountInBatch (accountId : String)
  | accountHasActiveGame (accountId : String)
  deriving DecidableEq

/-- The two stores, and the flag of the service. -/
structure Lobby where
  readyPlayers : List LobbyPlayer := []
  settings : GameSettings := {}
  assignments : OrderedMap String GameAssignment := .empty
  gameStartInProgress : Bool := false

namespace Lobby

/-- The account is on the ready list. -/
def isReady (l : Lobby) (accountId : String) : Bool :=
  l.readyPlayers.any fun player => player.accountId = accountId

/-- The account is assigned to a game. -/
def isAssigned (l : Lobby) (accountId : String) : Bool := l.assignments.has accountId

/-- `InMemoryLobbyStore.addReadyPlayer`. -/
def addReadyPlayer (player : LobbyPlayer) (l : Lobby) : Except LobbyError Lobby :=
  if l.isReady player.accountId then .ok l
  else if l.settings.playerCount ≤ l.readyPlayers.length then
    .error (.lobbyFull l.settings.playerCount)
  else .ok { l with readyPlayers := l.readyPlayers ++ [player] }

/-- `InMemoryLobbyStore.removeReadyPlayer`. -/
def removeReadyPlayer (accountId : String) (l : Lobby) : Lobby :=
  { l with readyPlayers := l.readyPlayers.eraseP fun player => player.accountId = accountId }

/-- `InMemoryLobbyStore.removeReadyPlayers`. -/
def removeReadyPlayers (accountIds : List String) (l : Lobby) : Lobby :=
  { l with readyPlayers := l.readyPlayers.filter fun player => player.accountId ∉ accountIds }

/-- The validation of `InMemoryGameAssignmentStore.assign`: the first assignment that cannot be
stored, if there is one. -/
def firstRefused (l : Lobby) (incomingAccountIds : List String) :
    List GameAssignment → Option LobbyError
  | [] => none
  | assignment :: assignments =>
    if assignment.accountId ∈ incomingAccountIds then
      some (.duplicateAccountInBatch assignment.accountId)
    else if l.isAssigned assignment.accountId then
      some (.accountHasActiveGame assignment.accountId)
    else l.firstRefused (assignment.accountId :: incomingAccountIds) assignments

/-- `InMemoryGameAssignmentStore.assign`: the whole group or nobody. -/
def assign (newAssignments : List GameAssignment) (l : Lobby) : Except LobbyError Lobby :=
  match l.firstRefused [] newAssignments with
  | some error => .error error
  | none => .ok { l with
      assignments := newAssignments.foldl
        (fun m assignment => m.set assignment.accountId assignment) l.assignments }

/-- `InMemoryGameAssignmentStore.removeByGameId`. -/
def removeByGameId (gameId : String) (l : Lobby) : Lobby :=
  { l with assignments := l.assignments.filter fun _ assignment => assignment.gameId ≠ gameId }

end Lobby

/-! ## The calls -/

/-- What the game server answers with when it has dealt a game. -/
structure CreatedGame where
  gameId : String
  webSocketUrl : String
  deriving DecidableEq

/-- What a call is given from outside as it goes on: the answer of the game server, and the time. -/
structure Outside where
  game : Option CreatedGame := none
  now : Nat := 0

/-- A call, by the await point it stands at, with what it keeps across it. -/
inductive Call
  | ready (account : LobbyPlayer)
  | readyChecked (account : LobbyPlayer) (assignment : Option GameAssignment)
  | readyListed (account : LobbyPlayer) (readyPlayers : List LobbyPlayer)
  | readyCounted (account : LobbyPlayer) (readyPlayers : List LobbyPlayer) (playerCount : Nat)
  | unready (account : LobbyPlayer)
  | updateSettings (account : LobbyPlayer) (settings : GameSettings)
  | settingsListed (account : LobbyPlayer) (settings : GameSettings)
    (readyPlayers : List LobbyPlayer)
  | settingsWritten (settings : GameSettings) (readyPlayers : List LobbyPlayer)
  | startGame (hostAccountId : String)
  | startListed (hostAccountId : String) (readyPlayers : List LobbyPlayer)
  | startCounted (readyPlayers : List LobbyPlayer) (playerCount : Nat)
  | startPlayers (players : List LobbyPlayer)
  | startLookedUp (players : List LobbyPlayer) (existing : List (Option GameAssignment))
  | startSettled (players : List LobbyPlayer) (settings : GameSettings)
  | startRequested (players : List LobbyPlayer) (settings : GameSettings)
  | startAssigned (accountIds : List String)
  | startFreed
  | startThrown (error : LobbyError)
  | completeGame (gameId : String)
  | answering
  | ended (error : Option LobbyError)

namespace Call

/-- The call as it is made. -/
def isRequest : Call → Bool
  | .ready _ | .unready _ | .updateSettings .. | .startGame _ | .completeGame _ => true
  | _ => false

/-- The call has returned or thrown. -/
def isEnded : Call → Bool
  | .ended _ => true
  | _ => false

/-- The rest of `ready`, from where it stands. -/
def resumeReady : Call → Lobby → Call × Lobby
  | .ready account, l => (.readyChecked account (l.assignments.get? account.accountId), l)
  | .readyChecked account assignment, l =>
    if assignment.isSome then (.ended (some .accountAlreadyInGame), l)
    else (.readyListed account l.readyPlayers, l)
  | .readyListed account readyPlayers, l =>
    -- repeating a ready request changes nothing
    if readyPlayers.any fun player => player.accountId = account.accountId then (.answering, l)
    else (.readyCounted account readyPlayers l.settings.playerCount, l)
  | .readyCounted account readyPlayers playerCount, l =>
    if playerCount ≤ readyPlayers.length then (.ended (some (.lobbyFull playerCount)), l)
    else
      match l.addReadyPlayer account with
      | .error error => (.ended (some error), l)
      | .ok l => (.answering, l)
  | call, l => (call, l)

/-- The rest of `updateSettings`. -/
def resumeSettings : Call → Lobby → Call × Lobby
  | .updateSettings account settings, l => (.settingsListed account settings l.readyPlayers, l)
  | .settingsListed account settings readyPlayers, l =>
    if readyPlayers.head?.map LobbyPlayer.accountId ≠ some account.accountId then
      (.ended (some .onlyHostCanChangeSettings), l)
    else (.settingsWritten settings readyPlayers, { l with settings })
  | .settingsWritten settings readyPlayers, l =>
    (.answering, l.removeReadyPlayers
      ((readyPlayers.drop settings.playerCount).map LobbyPlayer.accountId))
  | call, l => (call, l)

/-- The rest of `startGame`. A throw out of `getStartPlayers` or out of the store passes an await of
its own before the flag is let go. -/
def resumeStart (outside : Outside) : Call → Lobby → Call × Lobby
  | .startGame hostAccountId, l =>
    if l.gameStartInProgress then (.ended (some .gameStartInProgress), l)
    else (.startListed hostAccountId l.readyPlayers, { l with gameStartInProgress := true })
  | .startListed hostAccountId readyPlayers, l =>
    if readyPlayers.head?.map LobbyPlayer.accountId ≠ some hostAccountId then
      (.startThrown .onlyHostCanStart, l)
    else (.startCounted readyPlayers l.settings.playerCount, l)
  | .startCounted readyPlayers playerCount, l =>
    if readyPlayers.length < MIN_PLAYER_COUNT ∨ playerCount < readyPlayers.length then
      (.startThrown (.invalidReadyPlayerCount MIN_PLAYER_COUNT playerCount), l)
    else (.startPlayers readyPlayers, l)
  | .startPlayers players, l =>
    (.startLookedUp players (players.map fun player => l.assignments.get? player.accountId), l)
  | .startLookedUp players existing, l =>
    if existing.any Option.isSome then
      (.ended (some .accountAlreadyInGame), { l with gameStartInProgress := false })
    else (.startSettled players l.settings, l)
  | .startSettled players settings, l => (.startRequested players settings, l)
  | .startRequested players _, l =>
    match outside.game with
    | none => (.ended (some .gameServerUnavailable), { l with gameStartInProgress := false })
    | some game =>
      match l.assign (players.map fun player =>
        ⟨player.accountId, game.gameId, game.webSocketUrl, outside.now⟩) with
      | .error error => (.startThrown error, l)
      | .ok l => (.startAssigned (players.map LobbyPlayer.accountId), l)
  | .startAssigned accountIds, l => (.startFreed, l.removeReadyPlayers accountIds)
  | .startFreed, l => (.ended none, { l with gameStartInProgress := false })
  | .startThrown error, l => (.ended (some error), { l with gameStartInProgress := false })
  | call, l => (call, l)

/-- One go of a call, from its await point to the next. -/
def resume (call : Call) (outside : Outside) (l : Lobby) : Call × Lobby :=
  match call with
  | .ready .. | .readyChecked .. | .readyListed .. | .readyCounted .. => call.resumeReady l
  | .unready account => (.answering, l.removeReadyPlayer account.accountId)
  | .updateSettings .. | .settingsListed .. | .settingsWritten .. => call.resumeSettings l
  | .completeGame gameId => (.answering, l.removeByGameId gameId)
  | .answering => (.ended none, l)
  | .ended error => (.ended error, l)
  | call => call.resumeStart outside l

end Call

/-- `LobbyService`, with the calls that have come in. -/
def lobbyService : Service Lobby Call Outside where
  start := {}
  begins call := call.isRequest = true
  resume := Call.resume

instance (call : Call) : Decidable (lobbyService.begins call) :=
  inferInstanceAs (Decidable (call.isRequest = true))

/-- A call goes on this many times, with nothing from outside. -/
def goOn (i times : Nat) : List (Service.Move Call Outside) := List.replicate times (.go i {})

/-- An account asks to be ready, and is answered. -/
def becomesReady (i : Nat) (accountId : String) : List (Service.Move Call Outside) :=
  .call (.ready ⟨accountId, accountId⟩) :: goOn i 5

end HereToSlaughter
