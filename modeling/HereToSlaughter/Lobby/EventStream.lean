import HereToSlaughter.Lobby.Service

/-!
# The lobby's event stream

Browsers keep a connection open on which the lobby sends them its state, every change of it, and the
address of the game they are put in. What is sent to a connection goes through its chain of
deliveries, one after the other; the first of them loads the initial state. A call of the lobby that
has changed something publishes that before it goes on, and waits until it is delivered.

The browser of an account opens connections and closes them at any time.

Reference: `lobby/lobby-event-stream.service.ts`, `lobby/lobby.service.ts`.
-/

namespace HereToSlaughter

open Lib

/-! ## Events -/

/-- `LobbyPlayerState`. -/
inductive LobbyPlayerState
  | idle | ready | inGame
  deriving DecidableEq

/-- `LobbySnapshot`. -/
structure LobbySnapshot where
  readyPlayers : List LobbyPlayer
  settings : GameSettings
  self : LobbyPlayer
  state : LobbyPlayerState
  isHost : Bool
  deriving DecidableEq

/-- `LobbySseEvent`. -/
inductive LobbySseEvent
  | lobbyUpdated (snapshot : LobbySnapshot)
  | gameAssigned (gameId webSocketUrl : String)
  deriving DecidableEq

/-- `LobbyService.getSnapshot`. -/
def Lobby.getSnapshot (account : LobbyPlayer) (l : Lobby) : LobbySnapshot :=
  let state := if l.isAssigned account.accountId then .inGame
    else if l.isReady account.accountId then .ready else .idle
  { readyPlayers := l.readyPlayers
    settings := l.settings
    self := account
    state
    -- the first ready player is the host
    isHost := state = .ready &&
      l.readyPlayers.head?.map LobbyPlayer.accountId = some account.accountId }

/-- What `LobbyService.events` opens a connection with. -/
def Lobby.initialEvents (account : LobbyPlayer) (l : Lobby) : List LobbySseEvent :=
  .lobbyUpdated (l.getSnapshot account) ::
    ((l.assignments.get? account.accountId).map fun assignment =>
      LobbySseEvent.gameAssigned assignment.gameId assignment.webSocketUrl).toList

/-! ## Connections -/

/-- A link of a chain of deliveries: the initial state that is still to be loaded, or what is to be
sent. -/
inductive Delivery
  | load
  | send (events : List LobbySseEvent)

/-- `LobbyConnection`, with the `Set` of the account's connections it has been added to, and what
the browser has been sent on it. Each delivery bears the ticket of the publication it is part of. -/
structure LobbyConnection where
  id : Nat
  inSet : Nat
  account : LobbyPlayer
  closed : Bool := false
  delivery : List (Nat × Delivery)
  received : List LobbySseEvent := []

/-- One link of the chain is run. A closed connection lets it pass. -/
def LobbyConnection.deliver (l : Lobby) (connection : LobbyConnection) : LobbyConnection :=
  match connection.delivery with
  | [] => connection
  | (ticket, .load) :: rest =>
    { connection with delivery :=
        if connection.closed then rest
        else (ticket, .send (l.initialEvents connection.account)) :: rest }
  | (_, .send events) :: rest =>
    { connection with
      delivery := rest
      received := if connection.closed then connection.received else connection.received ++ events }

/-- The lobby and the connections to it. `everAssigned` is a note of who has ever been assigned to
which game, which nobody reads. -/
structure Streams where
  lobby : Lobby := {}
  connections : List LobbyConnection := []
  nextId : Nat := 0
  everAssigned : List GameAssignment := []

namespace Streams

/-- The connections in `connectionsByAccountId`. -/
def openConnections (s : Streams) : List LobbyConnection :=
  s.connections.filter fun connection => !connection.closed

/-- `LobbyEventStreamService.open`: the connection is added to the others of its account before the
state is loaded. -/
def addConnection (account : LobbyPlayer) (s : Streams) : Streams :=
  let beside := s.openConnections.find? fun connection =>
    connection.account.accountId = account.accountId
  { s with
    connections := s.connections ++
      [{ id := s.nextId
         inSet := (beside.map LobbyConnection.inSet).getD s.nextId
         account
         delivery := [(s.nextId, .load)] }]
    nextId := s.nextId + 1 }

/-- The connection of this id, changed. -/
def modifyConnection (id : Nat) (f : LobbyConnection → LobbyConnection) (s : Streams) : Streams :=
  { s with connections := s.connections.map fun connection =>
      if connection.id = id then f connection else connection }

/-- `removeConnection`, as the browser closes the connection. -/
def removeConnection (id : Nat) : Streams → Streams :=
  modifyConnection id fun connection => { connection with closed := true }

/-- The chain of a connection moves on. -/
def deliver (id : Nat) (s : Streams) : Streams :=
  s.modifyConnection id (LobbyConnection.deliver s.lobby)

/-- `enqueue`, on every open connection what it is to be sent. -/
def enqueue (ticket : Nat) (events : LobbyConnection → List LobbySseEvent)
    (s : Streams) : Streams :=
  { s with connections := s.connections.map fun connection =>
      if connection.closed then connection
      else { connection with delivery := connection.delivery ++
        (events connection).map fun event => (ticket, .send [event]) } }

/-- A delivery of this publication has not been run yet. -/
def isDelivering (ticket : Nat) (s : Streams) : Bool :=
  s.connections.any fun connection => connection.delivery.any fun delivery => delivery.1 = ticket

/-- A snapshot for every account that is connected, for all of its connections. -/
def readSnapshots (s : Streams) : List (Nat × LobbySnapshot) :=
  (s.openConnections.map LobbyConnection.inSet).eraseDups.filterMap fun set =>
    (s.openConnections.find? fun connection => connection.inSet = set).map fun connection =>
      (set, s.lobby.getSnapshot connection.account)

end Streams

/-! ## Publishing -/

/-- What a call still has to publish, or to wait for. -/
inductive Publication
  | lobbyUpdated
  | snapshots (ticket : Nat) (read : List (Nat × LobbySnapshot))
  | gameAssigned (assignments : List GameAssignment)
  | delivering (ticket : Nat)

/-- One go of `publishLobbyUpdated` or of `publishGameAssignments`, and what is left of it. -/
def Streams.publish (s : Streams) : Publication → List Publication × Streams
  | .lobbyUpdated => ([.snapshots s.nextId s.readSnapshots], { s with nextId := s.nextId + 1 })
  | .snapshots ticket [] => ([.delivering ticket], s)
  | .snapshots ticket ((set, snapshot) :: read) =>
    ([.snapshots ticket read], s.enqueue ticket fun connection =>
      if connection.inSet = set then [.lobbyUpdated snapshot] else [])
  | .gameAssigned assignments =>
    ([.delivering s.nextId],
      { s.enqueue s.nextId fun connection =>
          (assignments.filter fun assignment =>
            assignment.accountId = connection.account.accountId).map fun assignment =>
              .gameAssigned assignment.gameId assignment.webSocketUrl with
        nextId := s.nextId + 1 })
  | .delivering ticket => (if s.isDelivering ticket then [.delivering ticket] else [], s)

/-- What a call that goes on like this has to publish next. -/
def Call.publications (call : Call) (after : Call) (l : Lobby)
    (newAssignments : List GameAssignment) :
    List Publication :=
  match call, after with
  | .readyCounted .., .answering | .settingsWritten .., _ => [.lobbyUpdated]
  | .unready account, _ => if l.isReady account.accountId then [.lobbyUpdated] else []
  | .completeGame gameId, _ =>
    if l.assignments.values.any fun assignment => assignment.gameId = gameId then [.lobbyUpdated]
    else []
  | .startAssigned _, _ => [.lobbyUpdated, .gameAssigned newAssignments]
  | _, _ => []

/-- The group a call has just assigned. -/
def Call.newlyAssigned (call : Call) (outside : Outside) (after : Call) : List GameAssignment :=
  match call, after, outside.game with
  | .startRequested players _, .startAssigned _, some game => players.map fun player =>
      ⟨player.accountId, game.gameId, game.webSocketUrl, outside.now⟩
  | _, _, _ => []

/-- A call of the lobby with what it has to publish before it goes on and the group it has assigned;
or the browser's: a connection it opens, that moves on, that it closes. -/
inductive StreamCall
  | lobby (call : Call) (due : List Publication) (newAssignments : List GameAssignment)
  | events (account : LobbyPlayer)
  | connection (id : Nat)
  | close (id : Nat)
  | gone

namespace StreamCall

/-- The call as it is made. -/
def isRequest : StreamCall → Bool
  | .lobby call [] [] => call.isRequest
  | .events _ | .close _ => true
  | _ => false

/-- One go of a call. -/
def resume (k : StreamCall) (outside : Outside) (s : Streams) : StreamCall × Streams :=
  match k with
  | .lobby call [] newAssignments =>
    let (after, l) := call.resume outside s.lobby
    let assigned := call.newlyAssigned outside after
    (.lobby after (call.publications after s.lobby newAssignments) (newAssignments ++ assigned),
      { s with lobby := l, everAssigned := s.everAssigned ++ assigned })
  | .lobby call (publication :: due) newAssignments =>
    let (rest, s) := s.publish publication
    (.lobby call (rest ++ due) newAssignments, s)
  | .events account => (.connection s.nextId, s.addConnection account)
  | .connection id => (.connection id, s.deliver id)
  | .close id => (.gone, s.removeConnection id)
  | .gone => (.gone, s)

end StreamCall

/-- The lobby with the connections to it. -/
def streamService : Service Streams StreamCall Outside where
  start := {}
  begins k := k.isRequest = true
  resume := StreamCall.resume

instance (k : StreamCall) : Decidable (streamService.begins k) :=
  inferInstanceAs (Decidable (k.isRequest = true))

end HereToSlaughter
