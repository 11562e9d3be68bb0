import HereToSlaughter.Lib.Memory
import HereToSlaughter.Runs.Basic
import HereToSlaughter.Server.GameRegistry

/-!
# Commands from the wire

The gateway answers a command from memory when its id has been answered before, and else hands it
to the registry or to the engine and remembers what it said. A seat keeps its last 64 answers, and
loses them when it leaves its table.

What reaches the gateway from any number of sockets, and what the timers of the tables do in
between, is one sequence of uninterrupted entries (`GameGateway.Run`), with a receipt for every
command.

Reference: `game-server/{game.gateway,command-ledger,command-dispatcher.service,seat}.ts`.
-/

namespace HereToSlaughter

open Lib

/-! ## Seats -/

/-- `Seat`. -/
structure Seat where
  gameId : String
  accountId : String
  deriving DecidableEq

/-- `seatRoom`. -/
def seatRoom (seat : Seat) : String := seat.gameId ++ ":" ++ seat.accountId

/-- The id of a game is a UUID; all that matters of it here is that it has no colon. -/
def IsGameId (gameId : String) : Prop := ':' ∉ gameId.toList

/-- Two seats have two rooms. -/
theorem seatRoom_injective {seat other : Seat} (h : IsGameId seat.gameId)
    (hother : IsGameId other.gameId) (hroom : seatRoom seat = seatRoom other) : seat = other := by
  have hlist := congrArg String.toList hroom
  simp only [seatRoom, String.toList_append, List.append_assoc] at hlist
  change seat.gameId.toList ++ ':' :: seat.accountId.toList =
    other.gameId.toList ++ ':' :: other.accountId.toList at hlist
  have htake : ∀ {l : List Char} (l' : List Char), ':' ∉ l →
      (l ++ ':' :: l').takeWhile (· ≠ ':') = l := by
    intro l l' hl
    have hall : ∀ c ∈ l, decide (c ≠ ':') = true := fun c hc =>
      decide_eq_true fun heq => hl (heq ▸ hc)
    rw [List.takeWhile_append_of_pos hall]
    simp
  have hgame := (htake _ h).symm.trans (hlist ▸ htake _ hother)
  have haccount := (List.cons.inj (List.append_cancel_left (hgame ▸ hlist))).2
  obtain ⟨gameId, accountId⟩ := seat
  obtain ⟨gameId', accountId'⟩ := other
  obtain rfl := String.toList_injective hgame
  obtain rfl := String.toList_injective haccount
  rfl

/-! ## Answers -/

/-- What a command is told: what the engine or the registry said, or that something broke. -/
inductive Answer
  | result (result : RequestResult)
  | internalError
  deriving DecidableEq

/-- `CommandResult`. -/
structure CommandResult where
  commandId : Option String
  answer : Answer
  deriving DecidableEq

/-- `REMEMBERED_PER_SEAT`. -/
def REMEMBERED_PER_SEAT : Nat := 64

/-- `CommandLedger`: what each seat was last answered, by room and command id. -/
structure CommandLedger where
  bySeat : OrderedMap String (OrderedMap String CommandResult) := .empty

namespace CommandLedger

/-- The answers of one room. -/
def answers (ledger : CommandLedger) (room : String) : OrderedMap String CommandResult :=
  (ledger.bySeat.get? room).getD .empty

/-- `recalled`. -/
def recalled (ledger : CommandLedger) (room commandId : String) : Option CommandResult :=
  (ledger.answers room).get? commandId

/-- `forget`. -/
def forget (room : String) (ledger : CommandLedger) : CommandLedger :=
  { bySeat := ledger.bySeat.erase room }

/-- `remember`: one answer more, at the expense of the oldest. -/
def remember (room commandId : String) (result : CommandResult) (ledger : CommandLedger) :
    CommandLedger :=
  { bySeat := ledger.bySeat.set room
      ((ledger.answers room).keep REMEMBERED_PER_SEAT commandId result) }

/-- A room that is forgotten has no answers. -/
@[simp] theorem answers_forget_self (ledger : CommandLedger) (room : String) :
    (ledger.forget room).answers room = .empty := by simp [forget, answers]

/-- The others keep theirs. -/
theorem answers_forget_of_ne (ledger : CommandLedger) {room other : String} (h : other ≠ room) :
    (ledger.forget room).answers other = ledger.answers other := by
  simp [forget, answers, OrderedMap.get?_erase_of_ne _ h]

/-- An answer is kept with those of its room. -/
@[simp] theorem answers_remember_self (ledger : CommandLedger) (room commandId : String)
    (result : CommandResult) : (ledger.remember room commandId result).answers room =
      (ledger.answers room).keep REMEMBERED_PER_SEAT commandId result := by
  simp [remember, answers]

/-- The other rooms are left alone. -/
theorem answers_remember_of_ne (ledger : CommandLedger) {room other : String} (h : other ≠ room)
    (commandId : String) (result : CommandResult) :
    (ledger.remember room commandId result).answers other = ledger.answers other := by
  simp [remember, answers, OrderedMap.get?_set_of_ne _ h]

end CommandLedger

/-! ## Commands -/

/-- The id of a well-formed envelope: a UUID, and so not empty. -/
abbrev CommandId := { commandId : String // commandId ≠ "" }

/-- What a socket sends, as far as it can be parsed. A malformed envelope may still carry an id. -/
inductive Message
  | malformed (commandId : Option String)
  | leaveGame (commandId : CommandId)
  | engine (commandId : CommandId) (command : Command)

/-- `commandIdOf`. -/
def Message.commandId : Message → Option String
  | .malformed commandId => commandId
  | .leaveGame commandId | .engine commandId _ => some commandId.1

/-- An id is looked up and remembered unless it is missing or empty: `if (commandId)`. -/
def readableId (commandId : Option String) : Option String := commandId.filter (· ≠ "")

/-- A hosted game: what it was dealt from, and how it stands. -/
structure HostedGame where
  setup : GameSetup
  world : World

/-- `CommandDispatcherService.dispatch`: an engine that throws has still run. `fuel` is the depth
of the call stack. -/
def dispatch (fuel : Nat) (accountId : String) (message : Message) (game : HostedGame) :
    CommandResult × HostedGame :=
  match message with
  | .engine commandId command =>
    let T := game.setup.table
    match (route T (emit T fuel) fuel accountId command).run game.world with
    | .ok result w => (⟨some commandId.1, .result result⟩, { game with world := w })
    | .error _ w => (⟨some commandId.1, .internalError⟩, { game with world := w })
  | message => (⟨message.commandId, .internalError⟩, game)

/-- What became of a command. -/
inductive Fate
  /-- It was answered from memory. -/
  | recalled
  /-- Its table was gone. -/
  | tableGone
  /-- It could not be parsed. -/
  | unread
  /-- The registry was asked to let the seat go. -/
  | left (accepted : Bool)
  /-- The engine was asked to run it. -/
  | run
  deriving DecidableEq

/-- One command that came in, with its answer. -/
structure Receipt where
  seat : Seat
  commandId : Option String
  result : CommandResult
  fate : Fate
  deriving DecidableEq

/-- The command was run: by the engine, or by the registry. -/
def Receipt.wasRun (receipt : Receipt) : Bool :=
  match receipt.fate with
  | .run | .left _ => true
  | _ => false

/-- The gateway with the tables behind it. -/
structure GameGateway where
  registry : GameRegistry := {}
  games : OrderedMap String HostedGame := .empty
  ledger : CommandLedger := {}

namespace GameGateway

/-- `GameRegistryService.get`: a table that is still held. -/
def get (g : GameGateway) (gameId : String) : Option HostedGame :=
  if g.registry.games.has gameId then g.games.get? gameId else none

/-- A game goes on, and the registry sees on its board when it is over. -/
def hold (gameId : String) (game : HostedGame) (g : GameGateway) : GameGateway :=
  { g with
    games := g.games.set gameId game
    registry := if game.world.gs.board.gamePhase = .concluded then g.registry.conclude gameId
      else g.registry }

/-- What the table of a seat makes of a message, past the ledger. -/
def serve (fuel : Nat) (seat : Seat) (message : Message) (game : HostedGame) (g : GameGateway) :
    Receipt × GameGateway :=
  match message with
  | .leaveGame commandId =>
    let (result, registry) := g.registry.leave seat.gameId seat.accountId
    (⟨seat, some commandId.1, ⟨some commandId.1, .result result⟩, .left result.isAccepted⟩,
      { g with
        registry
        ledger := if result.isAccepted then g.ledger.forget (seatRoom seat) else g.ledger })
  | message =>
    let (result, game) := dispatch fuel seat.accountId message game
    (⟨seat, message.commandId, result,
      match message with | .engine .. => .run | _ => .unread⟩, g.hold seat.gameId game)

/-- An answer is remembered under its id, if it has one. -/
def note (receipt : Receipt) (g : GameGateway) : GameGateway :=
  { g with
    ledger := match readableId receipt.commandId with
      | none => g.ledger
      | some commandId => g.ledger.remember (seatRoom receipt.seat) commandId receipt.result }

/-- What is remembered of a message. -/
def recalled (seat : Seat) (message : Message) (g : GameGateway) : Option CommandResult :=
  (readableId message.commandId).bind (g.ledger.recalled (seatRoom seat))

/-- `handleCommand`: memory first, then the table. -/
def handleCommand (fuel : Nat) (seat : Seat) (message : Message) (g : GameGateway) :
    Receipt × GameGateway :=
  match g.recalled seat message with
  | some result => (⟨seat, message.commandId, result, .recalled⟩, g)
  | none =>
    match g.get seat.gameId with
    | none => (⟨seat, message.commandId, ⟨message.commandId, .internalError⟩, .tableGone⟩, g)
    | some game =>
      let (receipt, g) := g.serve fuel seat message game
      (receipt, g.note receipt)

end GameGateway

/-! ## Runs -/

/-- What happens to a table without a command: its seats arrive, its clocks run out. -/
inductive TableEvent
  | arrive (accountId : String)
  | timer (input : Input)

namespace GameGateway

/-- A table is dealt. -/
def create (gameId : String) (setup : GameSetup) (w : World) (g : GameGateway) : GameGateway :=
  { g with
    registry := g.registry.create gameId w.playerOrder
    games := g.games.set gameId ⟨setup, w⟩ }

/-- The game behind a table goes on by itself. -/
def happen (fuel : Nat) (gameId : String) (event : TableEvent) (g : GameGateway) : GameGateway :=
  match g.get gameId with
  | none => g
  | some game =>
    match event with
    | .arrive accountId =>
      let (completes, registry) := g.registry.arrive gameId accountId
      if completes then
        match (startGame game.setup fuel).run game.world with
        | .ok _ w | .error _ w => hold gameId { game with world := w } { g with registry }
      else { g with registry }
    | .timer input =>
      match (handle game.setup.table fuel input).run game.world with
      | .ok _ w | .error _ w => g.hold gameId { game with world := w }

/-- The gateway after some entries: the ids of the games dealt so far, and a receipt for every
command that came in, newest first. A socket is seated at a game that was dealt. -/
inductive Run (fuel : Nat) : GameGateway → List String → List Receipt → Prop
  | start : Run fuel {} [] []
  | create {g dealt log} {w : World} (gameId : String) (setup : GameSetup)
    (h : Run fuel g dealt log) (hid : IsGameId gameId) (hfresh : gameId ∉ dealt)
    (hdeal : createGame setup = .ok w) :
    Run fuel (g.create gameId setup w) (gameId :: dealt) log
  | happen {g dealt log} (gameId : String) (event : TableEvent) (h : Run fuel g dealt log)
    (htimer : ∀ playerId command, event ≠ .timer (.command playerId command)) :
    Run fuel (g.happen fuel gameId event) dealt log
  | command {g dealt log} (seat : Seat) (message : Message) (h : Run fuel g dealt log)
    (hseat : seat.gameId ∈ dealt) :
    Run fuel (g.handleCommand fuel seat message).2 dealt
      ((g.handleCommand fuel seat message).1 :: log)

/-! ## What an entry leaves alone -/

variable {fuel : Nat} {g : GameGateway} {dealt : List String} {log : List Receipt} {seat : Seat}
  {message : Message}

/-- A game is not found where the registry or the gateway has dropped it. -/
theorem get_eq_none {gameId : String} :
    g.get gameId = none ↔ gameId ∉ g.registry.games.keys ∨ gameId ∉ g.games.keys := by
  unfold get
  split
  · rename_i h
    simp [OrderedMap.get?_eq_none, OrderedMap.has_iff.1 h]
  · rename_i h
    exact iff_of_true rfl (.inl fun hmem => h (OrderedMap.has_iff.2 hmem))

/-- No table comes back that has gone. -/
def Shrinks (g g' : GameGateway) : Prop := ∀ gameId, g.get gameId = none → g'.get gameId = none

namespace Shrinks

/-- Tables shrink where no id comes in. -/
theorem of_keys {g' : GameGateway}
    (hregistry : ∀ gameId ∈ g'.registry.games.keys, gameId ∈ g.registry.games.keys)
    (hgames : ∀ gameId ∈ g'.games.keys, gameId ∈ g.games.keys) : Shrinks g g' := by
  intro gameId h
  unfold get at h ⊢
  split
  · rename_i hhas
    rw [if_pos (OrderedMap.has_iff.2 (hregistry _ (OrderedMap.has_iff.1 hhas)))] at h
    exact OrderedMap.get?_eq_none.2 fun hmem => OrderedMap.get?_eq_none.1 h (hgames _ hmem)
  · rfl

/-- Shrunk twice is shrunk. -/
theorem trans {g' g'' : GameGateway} (h : Shrinks g g') (h' : Shrinks g' g'') : Shrinks g g'' :=
  fun gameId hgone => h' gameId (h gameId hgone)

/-- A table that is held is held on. -/
theorem hold {gameId : String} (h : gameId ∈ g.games.keys) (game : HostedGame) :
    Shrinks g (g.hold gameId game) := by
  refine of_keys (fun id hid => ?_) fun id hid => ?_
  · unfold GameGateway.hold at hid
    dsimp only at hid
    split at hid
    · simpa [GameRegistry.conclude] using hid
    · exact hid
  · obtain rfl | hid := OrderedMap.mem_keys_of_mem_keys_set hid
    · exact h
    · exact hid

/-- What arrivals and leavings do to the tables that are held. -/
theorem arrive (gameId accountId : String) :
    Shrinks g { g with registry := (g.registry.arrive gameId accountId).2 } := by
  refine of_keys (fun id hid => ?_) fun _ hid => hid
  dsimp only [GameRegistry.arrive] at hid
  split at hid
  · exact hid
  · rename_i running hget
    have hkey : gameId ∈ g.registry.games.keys := OrderedMap.get?_isSome.1 (by rw [hget]; rfl)
    split at hid <;>
    · obtain rfl | hid := OrderedMap.mem_keys_of_mem_keys_set hid
      · exact hkey
      · exact hid

/-- A departure brings no table in. -/
theorem leave (gameId accountId : String) (ledger : CommandLedger) :
    Shrinks g { g with registry := (g.registry.leave gameId accountId).2, ledger } := by
  refine of_keys (fun id hid => ?_) fun _ hid => hid
  dsimp only [GameRegistry.leave] at hid
  split at hid
  · exact hid
  · rename_i running hget
    have hkey : gameId ∈ g.registry.games.keys := OrderedMap.get?_isSome.1 (by rw [hget]; rfl)
    split at hid
    · exact hid
    · split at hid
      · exact (OrderedMap.mem_keys_erase.1 hid).1
      · obtain rfl | hid := OrderedMap.mem_keys_of_mem_keys_set hid
        · exact hkey
        · exact hid

/-- Remembering an answer changes no table. -/
theorem note (receipt : Receipt) : Shrinks g (g.note receipt) := fun _ h => h

/-- A game that is found is there. -/
theorem mem_keys_of_get {gameId : String} {game : HostedGame} (h : g.get gameId = some game) :
    gameId ∈ g.games.keys := by
  unfold get at h
  split at h
  · exact OrderedMap.get?_isSome.1 (h ▸ rfl)
  · cases h

/-- Nor does a command. -/
theorem handleCommand (fuel : Nat) (seat : Seat) (message : Message) (g : GameGateway) :
    Shrinks g (g.handleCommand fuel seat message).2 := by
  unfold GameGateway.handleCommand
  split
  · exact fun _ h => h
  · split
    · exact fun _ h => h
    · rename_i game hget
      refine trans ?_ (note _)
      unfold serve
      split
      · exact leave _ _ _
      · exact hold (mem_keys_of_get hget) _

/-- Nor does anything else at a table. -/
theorem happen (gameId : String) (event : TableEvent) : Shrinks g (g.happen fuel gameId event) := by
  unfold GameGateway.happen
  split
  · exact fun _ h => h
  · rename_i game hget
    have hkey := mem_keys_of_get hget
    split
    · rename_i accountId
      let g₁ : GameGateway := { g with registry := (g.registry.arrive gameId accountId).2 }
      dsimp only
      split
      · split <;> exact trans (arrive gameId accountId) (hold (g := g₁) hkey _)
      · exact arrive gameId accountId
    · split <;> exact hold hkey _

end Shrinks

/-- Nothing but a command touches what is remembered. -/
theorem ledger_happen (gameId : String) (event : TableEvent) :
    (g.happen fuel gameId event).ledger = g.ledger := by
  unfold happen
  split
  · rfl
  · split
    · dsimp only
      split
      · split <;> rfl
      · rfl
    · split <;> rfl

/-- What a command is answered, and what of it is remembered: it is answered from memory, or its
table is gone, or it is served, and remembered once its seat has been forgotten if it has left. -/
theorem handleCommand_cases (fuel : Nat) (seat : Seat) (message : Message) (g : GameGateway) :
    ∃ receipt g', g.handleCommand fuel seat message = (receipt, g') ∧ receipt.seat = seat ∧
      receipt.commandId = message.commandId ∧
      ((receipt.fate = .recalled ∧ g.recalled seat message = some receipt.result ∧ g' = g) ∨
        g.recalled seat message = none ∧
          ((receipt.fate = .tableGone ∧ g.get seat.gameId = none ∧
              receipt.result = ⟨message.commandId, .internalError⟩ ∧ g' = g) ∨
            receipt.fate ≠ .recalled ∧ receipt.fate ≠ .tableGone ∧ g.get seat.gameId ≠ none ∧
              ((∀ commandId, message ≠ .malformed commandId) ∨
                receipt.wasRun = false ∧ receipt.result = ⟨message.commandId, .internalError⟩) ∧
              ∃ ledger, (ledger = g.ledger ∨
                  receipt.fate = .left true ∧ ledger = g.ledger.forget (seatRoom seat)) ∧
                g'.ledger = (note receipt { g with ledger }).ledger)) := by
  unfold handleCommand
  split
  · rename_i result h
    exact ⟨_, _, rfl, rfl, rfl, .inl ⟨rfl, h, rfl⟩⟩
  · rename_i h
    split
    · rename_i hgone
      exact ⟨_, _, rfl, rfl, rfl, .inr ⟨h, .inl ⟨rfl, hgone, rfl, rfl⟩⟩⟩
    · rename_i game hget
      cases message with
      | malformed commandId =>
        exact ⟨_, _, rfl, rfl, rfl, .inr ⟨h, .inr ⟨by simp, by simp, by simp [hget],
          .inr ⟨rfl, rfl⟩, g.ledger, .inl rfl, rfl⟩⟩⟩
      | leaveGame commandId =>
        refine ⟨_, _, rfl, rfl, rfl, .inr ⟨h, .inr ⟨by simp, by simp, by simp [hget],
          .inl (by simp), _, ?_, rfl⟩⟩⟩
        by_cases haccepted : (g.registry.leave seat.gameId seat.accountId).1.isAccepted = true
        · exact .inr ⟨congrArg Fate.left haccepted, if_pos haccepted⟩
        · exact .inl (if_neg haccepted)
      | engine commandId command =>
        exact ⟨_, _, rfl, rfl, rfl, .inr ⟨h, .inr ⟨by simp, by simp, by simp [hget],
          .inl (by simp), g.ledger, .inl rfl, rfl⟩⟩⟩

/-! ## Runs of a gateway -/

/-- What is remembered of a seat once an answer of its own has been noted. -/
theorem answers_note_self {receipt : Receipt} {ledger : CommandLedger} (h : receipt.seat = seat) :
    (note receipt { g with ledger }).ledger.answers (seatRoom seat) =
      match readableId receipt.commandId with
      | none => ledger.answers (seatRoom seat)
      | some commandId => (ledger.answers (seatRoom seat)).keep REMEMBERED_PER_SEAT commandId
          receipt.result := by
  subst h
  unfold note
  dsimp only
  split
  · rfl
  · exact ledger.answers_remember_self _ _ _

/-- What a seat was answered and remembers of other seats is left alone. -/
theorem answers_handleCommand_of_ne (fuel : Nat) (g : GameGateway) (message : Message)
    {room : String} (h : room ≠ seatRoom seat) :
    (g.handleCommand fuel seat message).2.ledger.answers room = g.ledger.answers room := by
  obtain ⟨receipt, g', heq, hseat, -, hcases⟩ := handleCommand_cases fuel seat message g
  rw [heq]
  obtain ⟨-, -, rfl⟩ | ⟨-, ⟨-, -, -, rfl⟩ | ⟨-, -, -, -, ledger, hledger, hnote⟩⟩ := hcases
  · rfl
  · rfl
  · have hsame : ledger.answers room = g.ledger.answers room := by
      obtain rfl | ⟨-, rfl⟩ := hledger
      · rfl
      · exact g.ledger.answers_forget_of_ne h
    rw [hnote, ← hsame]
    unfold note
    dsimp only
    split
    · rfl
    · exact ledger.answers_remember_of_ne (hseat ▸ h) _ _

/-- The other ids of a seat that came in and were not answered from memory. -/
def anew (seat : Seat) (commandId : Option String) (log : List Receipt) : List String :=
  log.filterMap fun r =>
    if r.seat = seat ∧ r.commandId ≠ commandId ∧ r.fate ≠ .recalled then r.commandId else none

/-- What is sent anew only grows. -/
theorem subset_anew_cons (seat : Seat) (commandId : Option String) (r : Receipt)
    (log : List Receipt) :
    anew seat commandId log ⊆ anew seat commandId (r :: log) := by
  unfold anew
  rw [List.filterMap_cons]
  split
  · exact List.Subset.refl _
  · exact List.subset_cons_self _ _

/-- A new command of the seat is one more. -/
theorem anew_cons {commandId : Option String} {r : Receipt} {newId : String} (hseat : r.seat = seat)
    (hnew : r.commandId = some newId) (hne : commandId ≠ some newId) (hfate : r.fate ≠ .recalled) :
    anew seat commandId (r :: log) = newId :: anew seat commandId log := by
  unfold anew
  rw [List.filterMap_cons, if_pos ⟨hseat, fun heq => hne (heq.symm.trans hnew), hfate⟩, hnew]

/-- What is remembered of a message with a readable id. -/
theorem recalled_eq (g : GameGateway) (seat : Seat) {commandId : String}
    (hid : readableId message.commandId = some commandId) :
    g.recalled seat message = (g.ledger.answers (seatRoom seat)).get? commandId := by
  unfold recalled
  rw [hid]
  rfl

/-- What is not remembered of a message is not held. -/
theorem notMem_of_recalled {newId : String} (h : g.recalled seat message = none)
    (hid : readableId message.commandId = some newId) :
    newId ∉ (g.ledger.answers (seatRoom seat)).keys :=
  OrderedMap.get?_eq_none.1 (recalled_eq g seat hid ▸ h)

/-- Fewer ids are fewer distinct ids. -/
theorem length_dedup_le {l l' : List String} (h : l ⊆ l') : l.dedup.length ≤ l'.dedup.length :=
  (List.subperm_of_subset (List.nodup_dedup l) fun _ ha =>
    List.mem_dedup.2 (h (List.mem_dedup.1 ha))).length_le

namespace Run

/-- The games that were dealt have the ids of games. -/
theorem isGameId (h : Run fuel g dealt log) : ∀ gameId ∈ dealt, IsGameId gameId := by
  induction h with
  | start => exact fun _ h => absurd h List.not_mem_nil
  | create gameId _ _ hid _ _ ih => exact List.forall_mem_cons.2 ⟨hid, ih⟩
  | happen _ _ _ _ ih => exact ih
  | command _ _ _ _ ih => exact ih

/-- A run up to a command. -/
theorem upTo {after before : List Receipt} {r : Receipt} (h : Run fuel g dealt log)
    (hlog : log = after ++ r :: before) :
    ∃ g dealt seat message, Run fuel g dealt before ∧ seat.gameId ∈ dealt ∧
      r = (g.handleCommand fuel seat message).1 := by
  induction h generalizing after with
  | start => simp at hlog
  | create _ _ _ _ _ _ ih => exact ih hlog
  | happen _ _ _ _ ih => exact ih hlog
  | @command g dealt _ seat message h hseat ih =>
    cases after with
    | nil =>
      obtain ⟨rfl, rfl⟩ := List.cons.inj hlog
      exact ⟨g, dealt, seat, message, h, hseat, rfl⟩
    | cons _ after => exact ih (List.cons.inj hlog).2

/-- What is remembered of a seat it was answered. -/
theorem answered (h : Run fuel g dealt log) (hgame : IsGameId seat.gameId) :
    ∀ commandId ∈ (g.ledger.answers (seatRoom seat)).keys,
      ∃ r ∈ log, r.seat = seat ∧ r.commandId = some commandId := by
  induction h with
  | start => exact fun _ h => absurd h List.not_mem_nil
  | create _ _ _ _ _ _ ih => exact ih
  | happen _ _ _ _ ih =>
    rw [ledger_happen]
    exact ih
  | @command g _ log other message h hother ih =>
    have hlater : ∀ {r₀ : Receipt} {commandId : String}, (∃ r ∈ log, r.seat = seat ∧
        r.commandId = some commandId) → ∃ r ∈ r₀ :: log, r.seat = seat ∧
          r.commandId = some commandId :=
      fun ⟨r, hr, hsame⟩ => ⟨r, List.mem_cons_of_mem _ hr, hsame⟩
    by_cases hne : seatRoom seat = seatRoom other
    · obtain rfl := seatRoom_injective hgame (h.isGameId _ hother) hne
      obtain ⟨receipt, g', heq, hseat, -, hcases⟩ := handleCommand_cases fuel seat message g
      rw [heq]
      intro commandId hmem
      obtain ⟨-, -, rfl⟩ | ⟨-, ⟨-, -, -, rfl⟩ | ⟨-, -, -, -, ledger, hledger, hnote⟩⟩ := hcases
      · exact hlater (ih commandId hmem)
      · exact hlater (ih commandId hmem)
      · have hold : ∀ c ∈ (ledger.answers (seatRoom seat)).keys,
            c ∈ (g.ledger.answers (seatRoom seat)).keys := by
          obtain rfl | ⟨-, rfl⟩ := hledger
          · exact fun _ hc => hc
          · rw [CommandLedger.answers_forget_self]
            exact fun _ hc => absurd hc List.not_mem_nil
        dsimp only at hmem
        rw [hnote, answers_note_self hseat] at hmem
        split at hmem
        · exact hlater (ih commandId (hold _ hmem))
        · rename_i c hc
          obtain rfl | hmem := OrderedMap.mem_keys_of_mem_keys_keep hmem
          · refine ⟨receipt, List.mem_cons_self, hseat, ?_⟩
            exact (Option.filter_eq_some_iff.1 hc).1
          · exact hlater (ih commandId (hold _ hmem))
    · rw [answers_handleCommand_of_ne fuel g message hne]
      exact fun commandId hmem => hlater (ih commandId hmem)

/-- An answer that was given anew is remembered as long as the seat stays and few others of its
ids are answered anew. -/
theorem kept {between before : List Receipt} {r : Receipt} {commandId : String}
    (h : Run fuel g dealt log) (hlog : log = between ++ r :: before)
    (hgame : IsGameId r.seat.gameId) (hid : readableId r.commandId = some commandId)
    (hanew : r.fate ≠ .recalled) (hthere : r.fate ≠ .tableGone)
    (hfew : (anew r.seat r.commandId between).dedup.length < REMEMBERED_PER_SEAT)
    (hstays : ∀ x ∈ between, x.seat = r.seat → x.fate ≠ .left true) :
    (g.ledger.answers (seatRoom r.seat)).Kept commandId r.result
      (anew r.seat r.commandId between) := by
  induction h generalizing between with
  | start => simp at hlog
  | create _ _ _ _ _ _ ih => exact ih hlog hfew hstays
  | happen _ _ _ _ ih =>
    rw [ledger_happen]
    exact ih hlog hfew hstays
  | @command g _ log seat message h hseat ih =>
    obtain ⟨x, g', heq, hxseat, hxid, hcases⟩ := handleCommand_cases fuel seat message g
    rw [heq] at hlog ⊢
    cases between with
    | nil =>
      obtain ⟨rfl, rfl⟩ := List.cons.inj hlog
      obtain ⟨hrecalled, -⟩ | ⟨hnew, ⟨hgone, -⟩ | ⟨-, -, -, -, ledger, hledger, hnote⟩⟩ := hcases
      · exact absurd hrecalled hanew
      · exact absurd hgone hthere
      · dsimp only
        rw [hnote, answers_note_self rfl, hid]
        refine OrderedMap.Kept.self ?_ (by decide)
        rw [hxseat]
        obtain rfl | ⟨-, rfl⟩ := hledger
        · exact notMem_of_recalled hnew (hxid ▸ hid)
        · rw [CommandLedger.answers_forget_self]
          exact List.not_mem_nil
    | cons y between =>
      obtain ⟨rfl, rfl⟩ := List.cons.inj hlog
      have hsub := subset_anew_cons r.seat r.commandId x between
      have hkept := ih rfl (Nat.lt_of_le_of_lt (length_dedup_le hsub) hfew)
        fun y hy => hstays y (List.mem_cons_of_mem _ hy)
      by_cases hroom : seatRoom r.seat = seatRoom seat
      · have hsame := seatRoom_injective hgame (h.isGameId _ hseat) hroom
        obtain ⟨-, -, rfl⟩ | ⟨hnew, ⟨-, -, -, rfl⟩ | ⟨hfate, -, -, -, ledger, hledger, hnote⟩⟩ :=
          hcases
        · exact hkept.mono hsub
        · exact hkept.mono hsub
        · obtain rfl | ⟨hleft, -⟩ := hledger
          · dsimp only
            rw [hnote, answers_note_self (hxseat.trans hsame.symm)]
            split
            · exact hkept.mono hsub
            · rename_i newId hnewId
              have hnotMem := notMem_of_recalled hnew (hxid ▸ hnewId)
              rw [← hsame] at hnotMem
              have hxnew : x.commandId = some newId := (Option.filter_eq_some_iff.1 hnewId).1
              have hne : r.commandId ≠ some newId := by
                intro hcommand
                obtain rfl :=
                  Option.some.inj ((Option.filter_eq_some_iff.1 hid).1.symm.trans hcommand)
                exact hnotMem (OrderedMap.get?_isSome.1 (by rw [hkept.get?]; rfl))
              rw [anew_cons (hxseat.trans hsame.symm) hxnew hne hfate] at hfew ⊢
              exact hkept.keep hnotMem hfew
          · exact absurd hleft (hstays x List.mem_cons_self (hxseat.trans hsame.symm))
      · have hother := answers_handleCommand_of_ne fuel g message hroom
        rw [heq] at hother
        dsimp only at hother ⊢
        rw [hother]
        exact hkept.mono hsub

/-- A table that is gone answers no seat of it any more, and remembers nothing new. -/
theorem gone {between before : List Receipt} {r : Receipt} (h : Run fuel g dealt log)
    (hlog : log = between ++ r :: before) (hgone : r.fate = .tableGone) :
    r.seat.gameId ∈ dealt ∧ g.get r.seat.gameId = none ∧
      r.result = ⟨r.commandId, .internalError⟩ ∧
      ∀ commandId, readableId r.commandId = some commandId →
        commandId ∉ (g.ledger.answers (seatRoom r.seat)).keys := by
  induction h generalizing between with
  | start => simp at hlog
  | create gameId _ _ _ hfresh _ ih =>
    obtain ⟨hdealt, hget, hrest⟩ := ih hlog
    have hne : r.seat.gameId ≠ gameId := fun heq => hfresh (heq ▸ hdealt)
    refine ⟨List.mem_cons_of_mem _ hdealt, ?_, hrest⟩
    rw [get_eq_none] at hget ⊢
    refine hget.imp (fun h hmem => h ?_) fun h hmem => h ?_ <;>
    exact (OrderedMap.mem_keys_of_mem_keys_set hmem).resolve_left hne
  | happen gameId event _ _ ih =>
    obtain ⟨hdealt, hget, hrest⟩ := ih hlog
    rw [ledger_happen]
    exact ⟨hdealt, Shrinks.happen gameId event _ hget, hrest⟩
  | @command g _ log seat message h hseat ih =>
    obtain ⟨x, g', heq, hxseat, hxid, hcases⟩ := handleCommand_cases fuel seat message g
    have hshrinks := Shrinks.handleCommand fuel seat message g
    rw [heq] at hlog hshrinks ⊢
    cases between with
    | nil =>
      obtain ⟨rfl, rfl⟩ := List.cons.inj hlog
      obtain ⟨hrecalled, -⟩ | ⟨hnew, ⟨-, hget, hresult, rfl⟩ | ⟨-, hthere, -⟩⟩ := hcases
      · exact absurd (hgone.symm.trans hrecalled) (by simp)
      · rw [hxseat, hxid]
        exact ⟨hseat, hget, hresult, fun _ => notMem_of_recalled hnew⟩
      · exact absurd hgone hthere
    | cons y between =>
      obtain ⟨rfl, rfl⟩ := List.cons.inj hlog
      obtain ⟨hdealt, hget, hresult, hnotMem⟩ := ih rfl
      refine ⟨hdealt, hshrinks _ hget, hresult, ?_⟩
      obtain ⟨-, -, rfl⟩ | ⟨-, ⟨-, -, -, rfl⟩ | ⟨-, -, hthere, -⟩⟩ := hcases
      · exact hnotMem
      · exact hnotMem
      · have hroom : seatRoom r.seat ≠ seatRoom seat := fun hroom => by
          rw [seatRoom_injective (h.isGameId _ hdealt) (h.isGameId _ hseat) hroom] at hget
          exact hthere hget
        have hother := answers_handleCommand_of_ne fuel g message hroom
        rw [heq] at hother
        dsimp only at hother ⊢
        rw [hother]
        exact hnotMem

/-- A command without a readable id is never run, and always answered alike. -/
theorem unread (fuel : Nat) (seat : Seat) (g : GameGateway)
    (h : readableId message.commandId = none) :
    (g.handleCommand fuel seat message).1.result = ⟨message.commandId, .internalError⟩ ∧
      (g.handleCommand fuel seat message).1.wasRun = false := by
  obtain ⟨x, g', heq, -, -, hcases⟩ := handleCommand_cases fuel seat message g
  rw [heq]
  obtain ⟨-, hrecalled, -⟩ | ⟨-, ⟨hgone, -, hresult, -⟩ | ⟨-, -, -, hread | hread, -⟩⟩ := hcases
  · simp [recalled, h] at hrecalled
  · exact ⟨hresult, by simp [Receipt.wasRun, hgone]⟩
  · cases message with
    | malformed commandId => exact absurd rfl (hread commandId)
    | leaveGame commandId | engine commandId =>
      simp [readableId, Message.commandId, commandId.2] at h
  · exact ⟨hread.2, hread.1⟩

/-- A command that was sent before is answered as it was the first time, and not run again, as long
as its seat has not left its table and fewer than 64 other ids of the seat were answered anew
meanwhile. Other seats change nothing about what a seat's ids are answered. -/
theorem resent (h : Run fuel g dealt log) :
    (∀ after between before : List Receipt, ∀ r r' : Receipt,
      log = after ++ r' :: (between ++ r :: before) → r'.seat = r.seat →
      r'.commandId = r.commandId → (∀ x ∈ before, x.seat = r.seat → x.commandId ≠ r.commandId) →
      (anew r.seat r.commandId between).dedup.length < REMEMBERED_PER_SEAT →
      (∀ x ∈ between, x.seat = r.seat → x.fate ≠ .left true) →
      r'.result = r.result ∧ r'.wasRun = false) ∧
    ∀ seat other : Seat, seat.gameId ∈ dealt → other.gameId ∈ dealt → other ≠ seat →
      ∀ sent message : Message, (g.handleCommand fuel seat sent).2.recalled other message =
        g.recalled other message := by
  refine ⟨fun after between before r r' hlog hseat hid hfirst hfew hstays => ?_,
    fun seat other hdealt hother hne sent message => ?_⟩
  · obtain ⟨g', dealt', seat', message', h', -, hr'⟩ := h.upTo hlog
    obtain ⟨g₀, dealt₀, seat₀, message₀, h₀, hdealt₀, hr⟩ := h'.upTo rfl
    obtain ⟨x', _, heq', hseat', hid', hcases'⟩ := handleCommand_cases fuel seat' message' g'
    obtain ⟨x, _, heq, hseat₀, hid₀, hcases⟩ := handleCommand_cases fuel seat₀ message₀ g₀
    rw [heq'] at hr'
    rw [heq] at hr
    obtain rfl : r' = x' := hr'
    obtain rfl : r = x := hr
    cases hread : readableId r.commandId with
    | none =>
      have hunread := unread fuel seat₀ g₀ (hid₀ ▸ hread)
      have hunread' := unread fuel seat' g' (hid' ▸ hid.symm ▸ hread)
      rw [heq] at hunread
      rw [heq'] at hunread'
      exact ⟨by rw [hunread.1, hunread'.1, ← hid', ← hid₀, hid], hunread'.2⟩
    | some commandId =>
      have hgame : IsGameId r.seat.gameId := hseat₀ ▸ h₀.isGameId _ hdealt₀
      have hanew : r.fate ≠ .recalled := by
        intro hrecalled
        obtain ⟨-, hmemory, -⟩ | ⟨-, ⟨hgone, -⟩ | ⟨hnot, -⟩⟩ := hcases
        · rw [recalled_eq g₀ seat₀ (hid₀ ▸ hread), ← hseat₀] at hmemory
          obtain ⟨x, hx, hxseat, hxid⟩ := h₀.answered hgame commandId
            (OrderedMap.get?_isSome.1 (by rw [hmemory]; rfl))
          exact hfirst x hx hxseat (hxid.trans (Option.filter_eq_some_iff.1 hread).1.symm)
        · cases hrecalled.symm.trans hgone
        · exact hnot hrecalled
      have hmemory := recalled_eq g' seat' (hid' ▸ hid.symm ▸ hread)
      rw [← hseat', hseat] at hmemory
      by_cases hthere : r.fate = .tableGone
      · obtain ⟨-, hget, hresult, hnotMem⟩ := h'.gone rfl hthere
        rw [OrderedMap.get?_eq_none.2 (hnotMem _ hread)] at hmemory
        obtain ⟨-, hrecalled, -⟩ | ⟨-, ⟨hgone, -, hresult', -⟩ | ⟨-, -, hget', -⟩⟩ := hcases'
        · rw [← hseat', hseat, hmemory] at hrecalled
          cases hrecalled
        · exact ⟨by rw [hresult', hresult, ← hid', hid], by simp [Receipt.wasRun, hgone]⟩
        · exact absurd (by rw [← hseat', hseat, hget]) hget'
      · rw [(h'.kept rfl hgame hread hanew hthere hfew hstays).get?] at hmemory
        obtain ⟨hfate, hrecalled, -⟩ | ⟨hnone, -⟩ := hcases'
        · rw [← hseat', hseat, hmemory] at hrecalled
          exact ⟨(Option.some.inj hrecalled).symm, by simp [Receipt.wasRun, hfate]⟩
        · rw [← hseat', hseat, hmemory] at hnone
          cases hnone
  · have hroom : seatRoom other ≠ seatRoom seat := fun hroom =>
      hne (seatRoom_injective (h.isGameId _ hother) (h.isGameId _ hdealt) hroom)
    unfold recalled CommandLedger.recalled
    rw [answers_handleCommand_of_ne fuel g sent hroom]

end Run

/-! ## A table on the wire -/

/-- Commands that come in one after the other. -/
def receiveAll (fuel : Nat) : List (Seat × Message) → GameGateway × List Receipt →
    GameGateway × List Receipt
  | [], state => state
  | (seat, message) :: rest, (g, log) =>
    receiveAll fuel rest ((g.handleCommand fuel seat message).2,
      (g.handleCommand fuel seat message).1 :: log)

/-- A run goes on with messages to tables that were dealt. -/
theorem run_receiveAll : ∀ {s : List (Seat × Message)} {g : GameGateway} {log : List Receipt},
    Run fuel g dealt log → (∀ e ∈ s, e.1.gameId ∈ dealt) →
      Run fuel (receiveAll fuel s (g, log)).1 dealt
        (receiveAll fuel s (g, log)).2
  | [], _, _, h, _ => h
  | (seat, message) :: rest, _, _, h, hseats =>
    run_receiveAll (s := rest) (h.command seat message (hseats _ List.mem_cons_self)) fun e he =>
      hseats e (List.mem_cons_of_mem _ he)

/-- A table for two, with a deck to draw from. -/
def fourHeroes : GameSetup :=
  tableForTwo 1 ((List.range 4).map fun n => heroCard s!"hero-{n}" .fighter 8) []

/-- The table has been dealt, and both of its seats have arrived. -/
def oneTable : GameGateway :=
  ((create "table" fourHeroes fourHeroes.dealt {}).happen 20 "table" (.arrive "A")).happen 20
    "table" (.arrive "B")

/-- One table is dealt. -/
theorem run_oneTable : Run 20 oneTable ["table"] [] := by
  have hdealt : Run 20 (create "table" fourHeroes fourHeroes.dealt {}) ["table"] [] :=
    .create "table" fourHeroes .start (by unfold IsGameId; decide) List.not_mem_nil rfl
  exact (hdealt.happen "table" (.arrive "A") fun _ _ h => by cases h).happen "table" (.arrive "B")
    fun _ _ h => by cases h

/-- The first seat's command to draw, under an id. -/
def drawAs (commandId : CommandId) : Seat × Message :=
  (⟨"table", "A"⟩, .engine commandId (.action .drawCard))

/-- 64 envelopes of the first seat that cannot be parsed, each with an id of its own. -/
def noise : List (Seat × Message) :=
  (List.range 64).map fun n => (⟨"table", "A"⟩, .malformed (some (toString n)))

/-- The seat's draw is sent again after a command of the same seat and one of the other. -/
def drawnOnce : List (Seat × Message) :=
  [drawAs ⟨"c", by decide⟩, (⟨"table", "A"⟩, .malformed (some "d")),
    (⟨"table", "B"⟩, .engine ⟨"c", by decide⟩ (.action .endTurn)), drawAs ⟨"c", by decide⟩]

/-- 64 ids that were answered, and forgotten, before the first draw are sent once more and push it
out. -/
def drawnTwice : List (Seat × Message) :=
  noise ++ drawAs ⟨"c", by decide⟩ :: noise ++ [drawAs ⟨"c", by decide⟩]

/-- The newest receipt, the `n` before it, the one before these, and the rest. -/
def splitAfter (n : Nat) : List Receipt → Option (Receipt × List Receipt × Receipt × List Receipt)
  | [] => none
  | r' :: rest =>
    match rest.drop n with
    | [] => none
    | r :: before => some (r', rest.take n, r, before)

/-- A log that is split is put together again. -/
theorem splitAfter_some {n : Nat} {r r' : Receipt} {between before : List Receipt}
    (h : splitAfter n log = some (r', between, r, before)) :
    log = r' :: (between ++ r :: before) := by
  unfold splitAfter at h
  split at h
  · cases h
  · split at h
    · cases h
    · rename_i rest _ _ hdrop
      cases h
      rw [← hdrop, List.take_append_drop]

/-- A draw is sent again after two messages, and again after enough to have pushed it out. -/
theorem drawn_received :
    (splitAfter 2 (receiveAll 20 drawnOnce (oneTable, [])).2).any (fun e =>
      e.1.seat = e.2.2.1.seat ∧ e.1.commandId = e.2.2.1.commandId ∧ e.2.2.2 = [] ∧
        (anew e.2.2.1.seat e.2.2.1.commandId e.2.1).dedup.length < REMEMBERED_PER_SEAT ∧
        (∀ x ∈ e.2.1, x.seat = e.2.2.1.seat → x.fate ≠ .left true) ∧ e.2.1.length = 2 ∧
        e.2.2.1.wasRun = true) = true ∧
    (∀ e ∈ drawnTwice, e.1.gameId ∈ ["table"]) ∧
    (splitAfter 64 (receiveAll 20 drawnTwice (oneTable, [])).2).any (fun e =>
      e.1.seat = e.2.2.1.seat ∧ e.1.commandId = e.2.2.1.commandId ∧
        (∀ x ∈ e.2.2.2, x.commandId ≠ e.2.2.1.commandId) ∧
        (∀ x ∈ e.2.1, x.fate ≠ .left true ∧
          ∃ y ∈ e.2.2.2, y.seat = x.seat ∧ y.commandId = x.commandId) ∧
        e.2.2.1.wasRun = true ∧ e.1.wasRun = true) = true := by
  decide +kernel

/-- The draw sent again is recalled, not run. -/
theorem Run.resent_drawsOnce : ∃ (g : GameGateway) (log between before : List Receipt)
    (r r' : Receipt), Run 20 g ["table"] log ∧ log = r' :: (between ++ r :: before) ∧
      r'.commandId = r.commandId ∧ between.length = 2 ∧ r.wasRun = true ∧
      r'.result = r.result ∧ r'.wasRun = false := by
  have hrun := run_receiveAll (s := drawnOnce) run_oneTable (by decide)
  have hcheck := drawn_received.1
  obtain ⟨⟨r', between, r, before⟩, hsplit, hcheck⟩ := Option.any_eq_true _ _ |>.1 hcheck
  obtain ⟨hseat, hid, rfl, hfew, hstays, hlength, hfirst⟩ := of_decide_eq_true hcheck
  have hlog := splitAfter_some hsplit
  obtain ⟨hresult, hnot⟩ := hrun.resent.1 [] between [] r r' hlog hseat hid
    (fun _ hx => absurd hx List.not_mem_nil) hfew hstays
  exact ⟨_, _, between, [], r, r', hrun, hlog, hid, hlength, hfirst, hresult, hnot⟩

/-- A draw is run twice though no other id of its seat was first received in between. -/
theorem not_resent_noise : ∃ (g : GameGateway) (log between before : List Receipt) (r r' : Receipt),
    Run 20 g ["table"] log ∧ log = r' :: (between ++ r :: before) ∧ r'.seat = r.seat ∧
      r'.commandId = r.commandId ∧ (∀ x ∈ before, x.commandId ≠ r.commandId) ∧
      (∀ x ∈ between, x.fate ≠ .left true ∧
        ∃ y ∈ before, y.seat = x.seat ∧ y.commandId = x.commandId) ∧
      r.wasRun = true ∧ r'.wasRun = true := by
  obtain ⟨-, hseats, hcheck⟩ := drawn_received
  have hrun := run_receiveAll run_oneTable hseats
  obtain ⟨⟨r', between, r, before⟩, hsplit, hcheck⟩ := Option.any_eq_true _ _ |>.1 hcheck
  exact ⟨_, _, between, before, r, r', hrun, splitAfter_some hsplit, of_decide_eq_true hcheck⟩

end GameGateway

end HereToSlaughter
