import HereToSlaughter.Lib.Slices
import HereToSlaughter.Runs.Recorded
import HereToSlaughter.Server.GameStore
import HereToSlaughter.Server.Publisher

/-!
# The stored story

The log of a table numbers its events and its lines as it records them. A flush takes off it what
has been recorded since the last one and hands it to the store, which takes a record in by its
number and leaves a number it has alone. A flush may land late, after those that were sent after it,
twice, or not at all.

The tables hold no record twice and none that is not the log's (`Run.stored`), whatever has landed.
Once everything has that was sent, and no flush is on its way, they are the log, and that is every
event the engine has emitted.

Reference: `views/game-log.ts`, `game-server/snapshot-publisher.service.ts`,
`persistence/postgres-game.store.ts`.
-/

namespace HereToSlaughter

open Lib

/-! ## The records of a log -/

/-- `EventRecord`, without its number. -/
structure EventRecord where
  «at» : Nat
  event : GameEvent
  deriving DecidableEq

/-- `LogRecord` of the source, a line that is told, without its number. -/
structure LineRecord where
  «at» : Nat
  playerId : String
  line : LogLine
  deriving DecidableEq

/-- `GameLog.events`. -/
def eventRecords (log : List LogRecord) : List EventRecord :=
  log.map fun record => ⟨record.at, record.event⟩

/-- `GameLog.lines`. -/
def lineRecords (log : List LogRecord) : List LineRecord :=
  log.filterMap fun record => record.line.map fun line => ⟨record.at, record.event.playerId, line⟩

/-- `GameLog.drainedEvents` and `GameLog.drainedLines`. -/
structure Drained where
  events : Nat := 0
  lines : Nat := 0

/-- What `GameLog.drain` returns. -/
structure Batch where
  events : List (Nat × EventRecord)
  lines : List (Nat × LineRecord)

/-- `GameLog.drain`: everything recorded since the last one. -/
def GameLog.drain (log : List LogRecord) (drained : Drained) : Batch × Drained :=
  (⟨(numbered (eventRecords log)).drop drained.events,
    (numbered (lineRecords log)).drop drained.lines⟩,
      ⟨(eventRecords log).length, (lineRecords log).length⟩)

/-- Records of events are only added. -/
theorem eventRecords_grow {log log' : List LogRecord} (h : log <+: log') :
    eventRecords log <+: eventRecords log' := h.map _

/-- So are records of lines. -/
theorem lineRecords_grow {log log' : List LogRecord} (h : log <+: log') :
    lineRecords log <+: lineRecords log' := h.filterMap _

/-- A seat reads every line, under its number. -/
theorem entriesFor_eq (log : List LogRecord) (viewerId : String) :
    entriesFor log viewerId = (numbered (lineRecords log)).map fun entry =>
      { seq := entry.1, «at» := entry.2.at, playerId := entry.2.playerId
        text := entry.2.line.readBy viewerId, soundWindowId := entry.2.line.soundWindowId } := by
  have hlines : lineRecords log = (log.filterMap fun record =>
      record.line.map fun line => (record, line)).map fun entry =>
        ⟨entry.1.at, entry.1.event.playerId, entry.2⟩ := by
    rw [List.map_filterMap, lineRecords]
    refine congrArg (log.filterMap ·) (funext fun record => ?_)
    rw [Option.map_map]
    rfl
  rw [hlines, numbered_map, List.map_map]
  exact mapIdx_eq_map_numbered (fun i (entry : LogRecord × LogLine) => (⟨i, entry.1.at,
    entry.1.event.playerId, entry.2.readBy viewerId, entry.2.soundWindowId⟩ : LogEntry)) _

/-- What a seat reads of the story it reads of every longer one. -/
theorem entriesFor_grow {log log' : List LogRecord} (h : log <+: log') (viewerId : String) :
    entriesFor log viewerId <+: entriesFor log' viewerId := by
  rw [entriesFor_eq, entriesFor_eq]
  exact (numbered_grow (lineRecords_grow h)).map _

/-- In a run in which no input throws half-way the log holds every event that has gone out, once
each, under times that do not run backwards, and whatever comes in is told after what a seat could
read before. -/
theorem Reach.story {setup : GameSetup} {w : World} (h : Reach setup w) :
    (w.log.map LogRecord.event).Perm (announced w.history) ∧
      (w.log.Pairwise fun record later => record.at ≤ later.at) ∧
      ∀ input w', Step setup.table w input w' →
        ∀ viewerId, entriesFor w.log viewerId <+: entriesFor w'.log viewerId :=
  ⟨h.logged.events, h.logged.sorted, fun _ _ hstep viewerId =>
    entriesFor_grow hstep.recorded.log_grow viewerId⟩

/-- The game that two classes win is told to its end. -/
theorem Reach.story_twoClassesWin : ∃ w, Reach twoClassesWin w ∧
    (∃ event ∈ announced w.history, event.type = .gameEnded) ∧
    (w.log.map LogRecord.event).Perm (announced w.history) := by
  obtain ⟨w, h, hplayed⟩ := Reach.of_play _ _ _ _ twoClassesWin_played
  obtain ⟨-, hend⟩ := of_decide_eq_true hplayed
  exact ⟨w, h, by simpa [GameEvent.isEnd] using hend, h.story.1⟩

/-! ## What is sent to the store -/

section
variable {V : Type} (winner : V → Option String)

/-- A flush of a table: the seats' views, and the records. -/
abbrev TableFlush (V : Type) := GameFlush (List (String × V)) EventRecord LineRecord

/-- `views[running.game.playerOrder[0]].winnerId`. -/
def winnerOf (views : List (String × V)) : Option String :=
  views.head?.bind fun view => winner view.2

/-- What `SnapshotPublisherService.push` hands to the store, besides what it pushes. -/
def tableFlush (completed : Bool) (version : Nat) (pushes : List (Push V)) (world : World)
    (batch : Batch) : TableFlush V :=
  let views := pushes.map fun push => (push.accountId, push.snapshot.state)
  { version, «at» := world.now, events := batch.events, lines := batch.lines, views
    winnerId := if completed then winnerOf winner views else none }

/-- What a table has sent to the store, oldest first, and where its log was last drained. -/
def sentOf : List (Moment V) → Drained × List (TableFlush V)
  | [] => ({}, [])
  | .flush completed version pushes :: before =>
    match worldAfter before with
    | none => sentOf before
    | some world =>
      let (batch, drained) := GameLog.drain world.log (sentOf before).1
      (drained, (sentOf before).2 ++ [tableFlush winner completed version pushes world batch])
  | _ :: before => sentOf before

end

/-! ## The tables -/

section
variable {A : Type}

/-- Taking records in keeps what is there, and takes in each record once. -/
theorem holds_insertRecords {l : List A} : ∀ (records table : List (Nat × A)), Holds l table →
    (∀ record ∈ records, record ∈ numbered l) →
    Holds l (insertRecords table records) ∧
      ∀ record, record ∈ insertRecords table records ↔ record ∈ table ∨ record ∈ records
  | [], table, htable, _ => ⟨htable, fun record => by simp [insertRecords]⟩
  | record :: records, table, htable, hrecords => by
    have hrecord := hrecords record List.mem_cons_self
    have hrest : ∀ other ∈ records, other ∈ numbered l := fun other hother =>
      hrecords other (List.mem_cons_of_mem _ hother)
    rw [insertRecords, List.foldl_cons]
    split
    · next htaken =>
      -- the number is taken, and by this very record
      obtain ⟨other, hother, hfst⟩ := List.mem_map.1 htaken
      obtain rfl := Holds.eq_of_fst (htable.sub other hother) hrecord hfst
      obtain ⟨hholds, hmem⟩ := holds_insertRecords records table htable hrest
      refine ⟨hholds, fun entry => (hmem entry).trans ?_⟩
      rw [List.mem_cons]
      constructor
      · rintro (h | h)
        · exact .inl h
        · exact .inr (.inr h)
      · rintro (h | rfl | h)
        · exact .inl h
        · exact .inl hother
        · exact .inr h
    · next hfree =>
      obtain ⟨hholds, hmem⟩ := holds_insertRecords records _ (htable.insert hrecord hfree) hrest
      refine ⟨hholds, fun entry => (hmem entry).trans ?_⟩
      rw [List.mem_append, List.mem_singleton, List.mem_cons, or_assoc]

variable {V E L : Type}

/-- A flush inserts its events, whatever its version. -/
@[simp] theorem StoredRow.gameEvents_flush (row : StoredRow V E L) (flush : GameFlush V E L) :
    (row.flush flush).gameEvents = insertRecords row.gameEvents flush.events := by
  unfold StoredRow.flush StoredRow.update
  split <;> rfl

/-- So it does its lines. -/
@[simp] theorem StoredRow.gameLog_flush (row : StoredRow V E L) (flush : GameFlush V E L) :
    (row.flush flush).gameLog = insertRecords row.gameLog flush.lines := by
  unfold StoredRow.flush StoredRow.update
  split <;> rfl

/-- One of the two tables of a row, filled from one of the two lists of a flush. -/
theorem holds_land {l : List A} {table : StoredRow V E L → List (Nat × A)}
    {records : GameFlush V E L → List (Nat × A)}
    (hflush : ∀ row flush, table (row.flush flush) = insertRecords (table row) (records flush)) :
    ∀ (landed : List (GameFlush V E L)) (row : StoredRow V E L), Holds l (table row) →
      (∀ flush ∈ landed, ∀ record ∈ records flush, record ∈ numbered l) →
      Holds l (table (row.land landed)) ∧ ∀ record, record ∈ table (row.land landed) ↔
        record ∈ table row ∨ ∃ flush ∈ landed, record ∈ records flush
  | [], row, hrow, _ => ⟨hrow, fun record => by simp [StoredRow.land]⟩
  | flush :: landed, row, hrow, hrecords => by
    obtain ⟨hone, hmem⟩ := holds_insertRecords (records flush) (table row) hrow
      (hrecords flush List.mem_cons_self)
    rw [← hflush] at hone
    obtain ⟨hholds, hrest⟩ := holds_land hflush landed (row.flush flush) hone
      fun f hf => hrecords f (List.mem_cons_of_mem _ hf)
    refine ⟨hholds, fun record => (hrest record).trans ?_⟩
    rw [hflush, hmem record, or_assoc]
    simp only [List.mem_cons, exists_eq_or_imp]

end

/-! ## Over a run -/

namespace WatchedGame

section
variable {V : Type} {winner : V → Option String} {setup : GameSetup} {gameId : String}
  {view : World → String → V} {game : WatchedGame} {trace : List (Moment V)}

/-- What has been sent of a log. -/
structure Sent (log : List LogRecord) (sent : Drained × List (TableFlush V)) : Prop where
  events : Sliced (eventRecords log) sent.1.events (sent.2.map GameFlush.events)
  lines : Sliced (lineRecords log) sent.1.lines (sent.2.map GameFlush.lines)

/-- All of it has. -/
def SentAll (log : List LogRecord) (sent : Drained × List (TableFlush V)) : Prop :=
  sent.1.events = (eventRecords log).length ∧ sent.1.lines = (lineRecords log).length

/-- Nothing has been sent yet. -/
theorem Sent.nil (log : List LogRecord) : Sent log (({}, []) : Drained × List (TableFlush V)) :=
  ⟨.nil _, .nil _⟩

/-- The log may grow past what was sent. -/
theorem Sent.grow {log log' : List LogRecord} {sent : Drained × List (TableFlush V)}
    (h : Sent log sent) (hgrows : log <+: log') : Sent log' sent :=
  ⟨h.events.grow (eventRecords_grow hgrows), h.lines.grow (lineRecords_grow hgrows)⟩

/-- A flush sends what the log has gained since the last one. -/
theorem sentOf_flush {completed : Bool} {version : Nat} {pushes : List (Push V)} {world : World}
    (h : worldAfter trace = some world) : sentOf winner (.flush completed version pushes :: trace) =
      ((GameLog.drain world.log (sentOf winner trace).1).2, (sentOf winner trace).2 ++
        [tableFlush winner completed version pushes world
          (GameLog.drain world.log (sentOf winner trace).1).1]) := by
  rw [sentOf, h]

/-- A flush sends all that had not been sent. -/
theorem Sent.flush {completed : Bool} {version : Nat} {pushes : List (Push V)} {world : World}
    (h : Sent world.log (sentOf winner trace)) (hworld : worldAfter trace = some world) :
    Sent world.log (sentOf winner (.flush completed version pushes :: trace)) ∧
      SentAll world.log (sentOf winner (.flush completed version pushes :: trace)) := by
  rw [sentOf_flush hworld]
  refine ⟨⟨?_, ?_⟩, rfl, rfl⟩
  · rw [List.map_append]
    exact h.events.drain
  · rw [List.map_append]
    exact h.lines.drain

/-- Nothing went out, so nothing was recorded. -/
theorem log_eq_of_recorded {w w' : World} (h : Recorded w w') (hnone : eventsBetween w w' = []) :
    w'.log = w.log := by
  obtain ⟨-, marks, records, hhistory, hlog, hrecounts⟩ := h
  have hmarks : announced marks = [] := by
    rw [← hnone, eventsBetween, hhistory, List.length_append, Nat.add_sub_cancel, List.take_left]
  have hrecords : records = [] := by
    have hperm := hrecounts.events
    rw [hmarks] at hperm
    exact List.map_eq_nil_iff.1 hperm.eq_nil
  rw [hlog, hrecords, List.append_nil]

/-- What a table has sent is its log up to some point, and all of it unless a flush is on its
way. -/
theorem Run.sent (winner : V → Option String) (h : Run setup gameId view game trace) :
    Sent game.world.log (sentOf winner trace) ∧
      (game.watcher.pending = false → SentAll game.world.log (sentOf winner trace)) := by
  induction h with
  | @start fuel w w' game deal hstart hgame =>
    subst hgame
    refine ⟨.nil _, fun hpending => ?_⟩
    obtain ⟨rfl, -⟩ := GameSetup.createGame_ok deal
    rw [goOn, Watcher.pending_hear] at hpending
    have hnone := List.isEmpty_iff.1 (by simpa using hpending)
    have hlog := log_eq_of_recorded (Recorded.relate ((Recorded.start fuel).returns hstart)) hnone
    change SentAll w'.log _
    rw [hlog]
    exact ⟨rfl, rfl⟩
  | @entry game trace input w' hrun hstep ih =>
    obtain ⟨hsent, hall⟩ := ih
    refine ⟨hsent.grow hstep.recorded.log_grow, fun hpending => ?_⟩
    rw [goOn, Watcher.pending_hear, Bool.or_eq_false_iff] at hpending
    obtain ⟨hquiet, hnone⟩ := hpending
    have hlog := log_eq_of_recorded hstep.recorded (List.isEmpty_iff.1 (by simpa using hnone))
    change SentAll w'.log _
    rw [hlog]
    exact hall hquiet
  | connect _ _ _ ih => exact ih
  | flush hrun _ ih =>
    obtain ⟨hsent, hall⟩ := ih.1.flush hrun.traced.world
    exact ⟨hsent, fun _ => hall⟩

/-- What has been sent carries the versions the table was flushed under, and tells of a winner in
the flush that was pushed as the last one, if in any. -/
theorem Run.versions (winner : V → Option String) (h : Run setup gameId view game trace) :
    (sentOf winner trace).2.map GameFlush.version = (List.range (flushes trace)).map (· + 1) ∧
      (sentOf winner trace).2.countP GameFlush.concludes ≤ trace.countP Moment.isCompletion := by
  induction h with
  | start => exact ⟨rfl, Nat.le_refl _⟩
  | entry _ _ ih => simpa [sentOf, Moment.isCompletion] using ih
  | connect _ _ _ ih => simpa [sentOf, Moment.isCompletion] using ih
  | @flush game trace hrun _ ih =>
    obtain ⟨hversions, hwinners⟩ := ih
    rw [sentOf_flush hrun.traced.world]
    constructor
    · rw [List.map_append, hversions, flushes_flush, List.range_succ, List.map_append]
      exact congrArg (_ ++ [·]) (congrArg (· + 1) hrun.traced.version)
    · rw [List.countP_append, List.countP_singleton, List.countP_cons]
      refine Nat.add_le_add hwinners ?_
      cases game.watcher.ended <;> simp [Moment.isCompletion, GameFlush.concludes, tableFlush]
      split <;> simp

/-- The flushes a table has sent are such as the publisher produces. -/
theorem Run.published (h : Run setup gameId view game trace) :
    Published (sentOf winner trace).2 := by
  obtain ⟨hversions, hwinners⟩ := h.versions winner
  refine ⟨fun flush hflush => ?_, ?_, ?_⟩
  · have hmem := List.mem_map_of_mem (f := GameFlush.version) hflush
    rw [hversions] at hmem
    obtain ⟨i, -, hi⟩ := List.mem_map.1 hmem
    exact hi ▸ Nat.succ_pos i
  · rw [hversions, List.pairwise_map]
    exact List.pairwise_lt_range.imp Nat.succ_lt_succ
  · have honce := h.traced.reach.ends_once
    rw [← h.traced.events, ← h.traced.completions] at honce
    exact hwinners.trans (Nat.le_trans (Nat.le_add_right _ _) honce)

/-- Whatever has landed of what a table has sent, in whatever order and however often, the tables
hold records of its log and none of them twice. When all of it has landed and no flush is on its
way, they hold the log, and that is every event that has gone out. So it is in a run in which no
input throws half-way. -/
theorem Run.stored (h : Run setup gameId view game trace) {landed : List (TableFlush V)}
    (hlanded : ∀ flush ∈ landed, flush ∈ (sentOf winner trace).2) :
    Holds (eventRecords game.world.log) (StoredRow.land {} landed).gameEvents ∧
      Holds (lineRecords game.world.log) (StoredRow.land {} landed).gameLog ∧
      (game.watcher.pending = false → (∀ flush ∈ (sentOf winner trace).2, flush ∈ landed) →
        (StoredRow.land {} landed).gameEvents.Perm (numbered (eventRecords game.world.log)) ∧
        (StoredRow.land {} landed).gameLog.Perm (numbered (lineRecords game.world.log)) ∧
        ((StoredRow.land {} landed).gameEvents.map fun record => record.2.event).Perm
          (announced game.world.history)) := by
  obtain ⟨hsent, hall⟩ := h.sent winner
  obtain ⟨hevents, hmemEvents⟩ := holds_land StoredRow.gameEvents_flush landed {} (.nil _)
    fun flush hflush record hrecord =>
      hsent.events.mem (List.mem_map_of_mem (hlanded flush hflush)) hrecord
  obtain ⟨hlines, hmemLines⟩ := holds_land StoredRow.gameLog_flush landed {} (.nil _)
    fun flush hflush record hrecord =>
      hsent.lines.mem (List.mem_map_of_mem (hlanded flush hflush)) hrecord
  refine ⟨hevents, hlines, fun hpending hland => ?_⟩
  obtain ⟨hdrainedEvents, hdrainedLines⟩ := hall hpending
  have hpermEvents := hevents.perm fun record hrecord => by
    obtain ⟨slice, hslice, hmem⟩ := hsent.events.mem_of_drained hdrainedEvents hrecord
    obtain ⟨flush, hflush, rfl⟩ := List.mem_map.1 hslice
    exact (hmemEvents record).2 (.inr ⟨flush, hland flush hflush, hmem⟩)
  have hpermLines := hlines.perm fun record hrecord => by
    obtain ⟨slice, hslice, hmem⟩ := hsent.lines.mem_of_drained hdrainedLines hrecord
    obtain ⟨flush, hflush, rfl⟩ := List.mem_map.1 hslice
    exact (hmemLines record).2 (.inr ⟨flush, hland flush hflush, hmem⟩)
  refine ⟨hpermEvents, hpermLines, ?_⟩
  have hmap := hpermEvents.map fun record : Nat × EventRecord => record.2.event
  refine hmap.trans ?_
  have hlog : (numbered (eventRecords game.world.log)).map (fun record => record.2.event) =
      game.world.log.map LogRecord.event := by
    calc (numbered (eventRecords game.world.log)).map (fun record => record.2.event)
        = ((numbered (eventRecords game.world.log)).map Prod.snd).map EventRecord.event := by
          rw [List.map_map]; rfl
      _ = game.world.log.map LogRecord.event := by
          rw [map_snd_numbered, eventRecords, List.map_map]; rfl
  rw [hlog]
  exact h.traced.reach.logged.events

end

/-- The game that two classes win is stored, though its one flush lands twice. -/
theorem Run.stored_twoClassesWin : ∃ (game : WatchedGame) (trace : List (Moment Board)),
    Run twoClassesWin "table" (fun w _ => w.gs.board) game trace ∧
      ((StoredRow.land {}
      ((sentOf Board.winnerId trace).2 ++ (sentOf Board.winnerId trace).2)).gameEvents.map
        fun record => record.2.event).Perm (announced game.world.history) := by
  obtain ⟨game, trace, h, -, hplayed⟩ :=
    Run.of_play "table" (fun w _ => w.gs.board) twoClassesWin_played
  have hboth : ∀ flush : TableFlush Board, ∀ trace : List (Moment Board),
      flush ∈ (sentOf Board.winnerId trace).2 ++ (sentOf Board.winnerId trace).2 →
        flush ∈ (sentOf Board.winnerId trace).2 := fun flush trace hflush =>
    (List.mem_append.1 hflush).elim id id
  cases hpending : game.watcher.pending with
  | false =>
    obtain ⟨-, -, hall⟩ := h.stored (hboth · trace)
    exact ⟨game, trace, h, (hall hpending fun _ hflush => List.mem_append_left _ hflush).2.2⟩
  | true =>
    have hflushed := h.flush hpending
    obtain ⟨-, -, hall⟩ := hflushed.stored (hboth · _)
    exact ⟨_, _, hflushed, (hall rfl fun _ hflush => List.mem_append_left _ hflush).2.2⟩

end WatchedGame

end HereToSlaughter
