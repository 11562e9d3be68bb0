import HereToSlaughter.Lib.Newest
import HereToSlaughter.Runs.Wins

/-!
# Snapshots on the way out

Every event marks that a flush is due, and the flush that follows the burst shows every seat the
board as it then stands, under the next version. A seat that connects is shown the board at once,
under the version last flushed. The client keeps the newest of what reaches it.

What happens at one table that has started is a sequence of uninterrupted turns of the event loop
(`WatchedGame.Run`): the engine works something off, a seat connects, or the flush runs that is on
its way. What a seat is shown is a parameter: `view` stands for `playerView` together with the lines
of the log the seat may read.

Reference: `game-server/snapshot-publisher.service.ts`, `game-server/game.gateway.ts`,
`client/src/state/useGameState.ts`.
-/

namespace HereToSlaughter

open Lib

/-! ## The watcher -/

namespace WatchedGame

/-- `Watcher`: a flush is on its way, and the game has ended since the last one. -/
structure Watcher where
  pending : Bool := false
  ended : Bool := false

/-- `Watcher.onEvent`. -/
def Watcher.onEvent (event : GameEvent) (watcher : Watcher) : Watcher :=
  { pending := true, ended := watcher.ended || event.type = .gameEnded }

/-- What a watcher makes of some events, newest first. -/
def Watcher.hear (events : List GameEvent) (watcher : Watcher) : Watcher :=
  events.foldr Watcher.onEvent watcher

/-- A flush is on its way once anything was heard. -/
theorem Watcher.pending_hear (watcher : Watcher) : ∀ events : List GameEvent,
    (watcher.hear events).pending = (watcher.pending || !events.isEmpty)
  | [] => by simp [hear]
  | event :: events => by simp [hear, onEvent]

/-- The game has ended once its end was heard. -/
theorem Watcher.ended_hear (watcher : Watcher) : ∀ events : List GameEvent,
    (watcher.hear events).ended = (watcher.ended || events.any GameEvent.isEnd)
  | [] => by simp [hear]
  | event :: events => by
    have ih := ended_hear watcher events
    rw [hear, List.foldr_cons]
    change ((watcher.hear events).ended || GameEvent.isEnd event) = _
    rw [ih, List.any_cons, Bool.or_assoc, Bool.or_comm (events.any _)]

end WatchedGame

/-! ## The publisher -/

/-- The names a snapshot is pushed under. -/
inductive PushName
  /-- `GAME_STARTED`. -/
  | started
  /-- `GAME_SNAPSHOT`. -/
  | snapshot
  /-- `GAME_COMPLETED`. -/
  | completed
  deriving DecidableEq

/-- `GameSnapshot`: what a seat is shown, in the envelope it travels in. -/
structure GameSnapshot (V : Type) where
  gameId : String
  version : Nat
  state : V

/-- A snapshot pushed to the room of a seat. -/
structure Push (V : Type) where
  accountId : String
  event : PushName
  snapshot : GameSnapshot V

/-- `RunningGame`, with the listener the publisher has added to it. -/
structure WatchedGame where
  world : World
  version : Nat := 0
  watcher : WatchedGame.Watcher := {}

variable {V : Type}

namespace WatchedGame

/-- `snapshotOf`. -/
def snapshotOf (gameId : String) (view : World → String → V) (game : WatchedGame)
    (accountId : String) : GameSnapshot V :=
  { gameId, version := game.version, state := view game.world accountId }

/-- One push to every seat. -/
def pushAll (gameId : String) (view : World → String → V) (playerOrder : List String)
    (event : PushName) (game : WatchedGame) : List (Push V) :=
  playerOrder.map fun accountId => ⟨accountId, event, game.snapshotOf gameId view accountId⟩

/-- `push`, before anything is sent: the version of the flush. -/
def bump (game : WatchedGame) : WatchedGame := { game with version := game.version + 1 }

/-- The callback of `setImmediate`, before it pushes: both flags go down. -/
def lower (game : WatchedGame) : WatchedGame := { game with watcher := {} }

/-- The events that went out between two worlds, newest first. -/
def eventsBetween (w w' : World) : List GameEvent :=
  announced (w'.history.take (w'.history.length - w.history.length))

/-- The engine has worked something off, and the watcher has heard it. -/
def goOn (w' : World) (game : WatchedGame) : WatchedGame :=
  { game with world := w', watcher := game.watcher.hear (eventsBetween game.world w') }

end WatchedGame

/-! ## Runs -/

/-- A turn of the event loop, with what it emitted or pushed. -/
inductive Moment (V : Type)
  | entry (events : List GameEvent) (world : World)
  | connection (pushes : List (Push V))
  | flush (completed : Bool) (version : Nat) (pushes : List (Push V))

/-- The event a flush is pushed under. -/
def flushName (completed : Bool) : PushName := if completed then .completed else .snapshot

/-- A started table after some turns of the event loop, newest first. The last seat's arrival starts
it and shows every seat the table; a seat that comes back is shown it again. No input throws
half-way. -/
inductive WatchedGame.Run (setup : GameSetup) (gameId : String) (view : World → String → V) :
    WatchedGame → List (Moment V) → Prop
  | start {fuel w w' game} (deal : createGame setup = .ok w)
    (h : (startGame setup fuel).run w = .ok () w')
    (hgame : game = ({ world := w } : WatchedGame).goOn w') :
    Run setup gameId view game
      [.connection (game.pushAll gameId view setup.playerOrder .started),
       .entry (eventsBetween w w') w']
  | entry {game trace input w'} (h : Run setup gameId view game trace)
    (hstep : Step setup.table game.world input w') :
    Run setup gameId view (game.goOn w') (.entry (eventsBetween game.world w') w' :: trace)
  | connect {game trace} (accountId : String) (h : Run setup gameId view game trace)
    (hseat : accountId ∈ setup.playerOrder) :
    Run setup gameId view game
      (.connection [⟨accountId, .started, game.snapshotOf gameId view accountId⟩] :: trace)
  | flush {game trace} (h : Run setup gameId view game trace)
    (hpending : game.watcher.pending = true) :
    Run setup gameId view game.lower.bump
      (.flush game.watcher.ended game.bump.version
        (game.bump.pushAll gameId view setup.playerOrder (flushName game.watcher.ended)) :: trace)

/-! ## What a trace tells -/

namespace Moment

/-- The moment is a flush. -/
def isFlush : Moment V → Bool
  | .flush .. => true
  | _ => false

/-- A flush that was pushed as the last one. -/
def isCompletion : Moment V → Bool
  | .flush completed _ _ => completed
  | _ => false

end Moment

/-- How often a table has been flushed. -/
def flushes (trace : List (Moment V)) : Nat := trace.countP Moment.isFlush

/-- An entry is no flush. -/
@[simp] theorem flushes_entry (events : List GameEvent) (world : World) (trace : List (Moment V)) :
    flushes (.entry events world :: trace) = flushes trace :=
  List.countP_cons_of_neg (by simp [Moment.isFlush])

/-- Nor is a connection. -/
@[simp] theorem flushes_connection (pushes : List (Push V)) (trace : List (Moment V)) :
    flushes (.connection pushes :: trace) = flushes trace :=
  List.countP_cons_of_neg (by simp [Moment.isFlush])

/-- A flush is one more. -/
@[simp] theorem flushes_flush (completed : Bool) (version : Nat) (pushes : List (Push V))
    (trace : List (Moment V)) :
    flushes (.flush completed version pushes :: trace) = flushes trace + 1 :=
  List.countP_cons_of_pos rfl

/-- The events since the last flush, newest first. -/
def unflushed : List (Moment V) → List GameEvent
  | [] => []
  | .entry events _ :: trace => events ++ unflushed trace
  | .connection _ :: trace => unflushed trace
  | .flush .. :: _ => []

/-- The events of a trace, newest first. -/
def eventsOf : List (Moment V) → List GameEvent
  | [] => []
  | .entry events _ :: trace => events ++ eventsOf trace
  | _ :: trace => eventsOf trace

/-- The world the engine has come to. -/
def worldAfter : List (Moment V) → Option World
  | [] => none
  | .entry _ world :: _ => some world
  | _ :: trace => worldAfter trace

/-- The events of a longer history are those of the history and those between the two. -/
theorem announced_append {w w' : World} (h : w.history <:+ w'.history) :
    announced w'.history = WatchedGame.eventsBetween w w' ++ announced w.history := by
  obtain ⟨new, hnew⟩ := h
  rw [WatchedGame.eventsBetween, ← hnew, List.length_append, Nat.add_sub_cancel,
    List.take_left, announced, List.filterMap_append]
  rfl

/-- A step takes nothing off the history. -/
theorem Step.history {setup : GameSetup} {w w' : World} {input : Input} (h : Reach setup w)
    (hstep : Step setup.table w input w') : w.history <:+ w'.history := by
  obtain ⟨-, -, k, k', -, hpath, -⟩ := h.later (.single ⟨input, hstep⟩)
  exact history_suffix hpath

/-- The end of a game goes out once at most. -/
theorem Reach.ends_once {setup : GameSetup} {w : World} (h : Reach setup w) :
    (announced w.history).countP GameEvent.isEnd ≤ 1 := by
  obtain ⟨k, hwon, -⟩ := h.won
  refine hwon.heralded.once.trans ?_
  obtain hnone | ⟨winnerId, gs, hone⟩ := hwon.verdict.once
  · exact hnone ▸ Nat.zero_le _
  · exact hone ▸ Nat.le_refl _

namespace WatchedGame

variable {setup : GameSetup} {gameId : String} {view : World → String → V} {game : WatchedGame}
  {trace : List (Moment V)}

/-- What the trace of a table says of the table. -/
structure Traced (setup : GameSetup) (game : WatchedGame) (trace : List (Moment V)) : Prop where
  reach : Reach setup game.world
  world : worldAfter trace = some game.world
  version : game.version = flushes trace
  pending : game.watcher.pending = !(unflushed trace).isEmpty
  ended : game.watcher.ended = (unflushed trace).any GameEvent.isEnd
  events : eventsOf trace = announced game.world.history
  /-- Every end of the game was flushed as such or is still to be. -/
  completions : trace.countP Moment.isCompletion + (unflushed trace).countP GameEvent.isEnd =
    (eventsOf trace).countP GameEvent.isEnd

namespace Traced

/-- A connection is greeted and changes nothing. -/
theorem connection (h : Traced setup game trace) (pushes : List (Push V)) :
    Traced setup game (.connection pushes :: trace) :=
  ⟨h.reach, h.world, h.version.trans (by simp), h.pending, h.ended, h.events,
    .trans (by simp [unflushed, Moment.isCompletion]) h.completions⟩

/-- An entry is heard. -/
theorem entry (h : Traced setup game trace) {input : Input} {w' : World}
    (hstep : Step setup.table game.world input w') :
    Traced setup (game.goOn w') (.entry (eventsBetween game.world w') w' :: trace) where
  reach := h.reach.step hstep
  world := rfl
  version := h.version.trans (by simp)
  pending := by
    rw [goOn, Watcher.pending_hear, h.pending, unflushed]
    cases eventsBetween game.world w' <;> simp
  ended := by rw [goOn, Watcher.ended_hear, h.ended, unflushed, List.any_append, Bool.or_comm]
  events := by rw [eventsOf, h.events]; exact (announced_append (hstep.history h.reach)).symm
  completions := by
    have := h.completions
    simp only [unflushed, eventsOf, List.countP_append, List.countP_cons, Moment.isCompletion]
    simp only [Bool.false_eq_true, if_false]
    omega

/-- A flush lowers the flag, and counts. -/
theorem flush (h : Traced setup game trace) (pushes : List (Push V)) :
    Traced setup game.lower.bump
      (.flush game.watcher.ended game.bump.version pushes :: trace) where
  reach := h.reach
  world := h.world
  version := by simp [bump, lower, h.version]
  pending := rfl
  ended := rfl
  events := h.events
  completions := by
    have honce := h.reach.ends_once
    rw [← h.events] at honce
    have hcompletions := h.completions
    rw [h.ended]
    by_cases hend : (unflushed trace).any GameEvent.isEnd = true
    · -- the one end there is goes out with this flush
      have hpos : 0 < (unflushed trace).countP GameEvent.isEnd :=
        List.countP_pos_iff.2 (List.any_eq_true.1 hend)
      rw [List.countP_cons_of_pos (by simpa [Moment.isCompletion] using hend)]
      simp only [unflushed, eventsOf, List.countP_nil]
      omega
    · have hzero : (unflushed trace).countP GameEvent.isEnd = 0 := by
        refine List.countP_eq_zero.2 fun event hevent hisEnd => hend ?_
        exact List.any_eq_true.2 ⟨event, hevent, hisEnd⟩
      rw [List.countP_cons_of_neg (by simpa [Moment.isCompletion] using hend)]
      simp only [unflushed, eventsOf, List.countP_nil]
      omega

end Traced

/-- A run is traced. -/
theorem Run.traced (h : Run setup gameId view game trace) : Traced setup game trace := by
  induction h with
  | start deal hstart hgame =>
    rename_i fuel w w' game
    subst hgame
    obtain ⟨hdealt, -⟩ := GameSetup.createGame_ok deal
    have hsuffix : w.history <:+ w'.history := by rw [hdealt]; exact List.nil_suffix
    have hevents : announced w'.history = eventsBetween w w' := by
      rw [announced_append hsuffix, hdealt]
      exact List.append_nil _
    have hentry : Traced (V := V) setup
      (goOn w' { world := w }) [.entry (eventsBetween w w') w'] := by
      refine ⟨.start deal hstart, rfl, rfl, ?_, ?_, ?_, ?_⟩
      · simp [goOn, Watcher.pending_hear, unflushed]
      · simp [goOn, Watcher.ended_hear, unflushed]
      · simp [eventsOf, goOn, hevents]
      · simp [unflushed, eventsOf, Moment.isCompletion]
    exact hentry.connection _
  | entry _ hstep ih => exact ih.entry hstep
  | connect _ _ _ ih => exact ih.connection _
  | flush _ _ ih => exact ih.flush _

/-! ## What every moment shows -/

/-- What is pushed shows the world the engine has come to: under the version last flushed where a
seat connects, under the next one where the table is flushed. A flush has something to tell, and is
the last one when that is the end of the game. -/
def Shows (setup : GameSetup) (gameId : String) (view : World → String → V)
    (before : List (Moment V)) : Moment V → Prop
  | .entry .. => True
  | .connection pushes => ∃ world, worldAfter before = some world ∧
      ∀ p ∈ pushes, p.snapshot = ⟨gameId, flushes before, view world p.accountId⟩
  | .flush completed version pushes =>
    version = flushes before + 1 ∧ unflushed before ≠ [] ∧
      completed = (unflushed before).any GameEvent.isEnd ∧
      ∃ world, worldAfter before = some world ∧ pushes = setup.playerOrder.map fun accountId =>
        ⟨accountId, flushName completed, gameId, version, view world accountId⟩

end WatchedGame

/-! ## The client -/

/-- `accept`: a snapshot no newer than the one that is held is dropped. -/
def accept (current : Option (GameSnapshot V)) (next : GameSnapshot V) : Option (GameSnapshot V) :=
  newer GameSnapshot.version current next

/-- What the client holds after some snapshots, in the order they came in. -/
def held (received : List (GameSnapshot V)) : Option (GameSnapshot V) := received.foldl accept none

namespace WatchedGame

variable {setup : GameSetup} {gameId : String} {view : World → String → V} {game : WatchedGame}
  {trace : List (Moment V)}

/-- A game that is played on without a flush. -/
theorem Run.playOn {fuel : Nat} :
    ∀ {inputs : List Input} {game : WatchedGame} {trace : List (Moment V)}
    {w : World}, Run setup gameId view game trace → flushes trace = 0 →
    HereToSlaughter.playOn setup.table fuel inputs game.world = some w →
    ∃ game trace, Run setup gameId view game trace ∧ flushes trace = 0 ∧ game.world = w
  | [], game, trace, _, h, hnone, hplay => ⟨game, trace, h, hnone, Option.some.inj hplay⟩
  | input :: inputs, game, trace, w, h, hnone, hplay => by
    unfold HereToSlaughter.playOn at hplay
    split at hplay
    · exact (h.entry (.ok ‹_›)).playOn (by simpa using hnone) hplay
    · cases hplay

/-- A game that was played on a watched table, and not flushed yet. -/
theorem Run.of_play (gameId : String) (view : World → String → V) {fuel : Nat} {inputs : List Input}
    {P : World → Bool} (h : (setup.play fuel inputs).any P = true) :
    ∃ (game : WatchedGame) (trace : List (Moment V)), Run setup gameId view game trace ∧
      flushes trace = 0 ∧ P game.world = true := by
  obtain ⟨w, hplay, hp⟩ := Option.any_eq_true _ _ |>.1 h
  unfold GameSetup.play at hplay
  split at hplay
  · cases hplay
  · split at hplay
    · have hstart : Run setup gameId view _ _ := .start ‹_› ‹_› rfl
      obtain ⟨game, trace, hrun, hnone, rfl⟩ := hstart.playOn rfl hplay
      exact ⟨game, trace, hrun, hnone, hp⟩
    · cases hplay

end WatchedGame

end HereToSlaughter
