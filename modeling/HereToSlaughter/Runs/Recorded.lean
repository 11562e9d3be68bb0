import HereToSlaughter.Writes.Announced
import HereToSlaughter.Runs.Wins

/-!
# What the game log records

The log hears an event after everybody else, so what was announced in answer to an event is recorded
before it. Whatever the order, an event that goes out is recorded, once, and the records carry times
that do not run backwards: `Recorded` says so between two states, and every operation keeps to it.

Reference: `views/game-log.ts`, `events/game-event-emitter.ts`.
-/

namespace HereToSlaughter

open Lib EngineM

/-! ## Between two states -/

/-- What a log has recorded since a time, of the events that went out. -/
structure Recounts (since : Nat) (records : List LogRecord) (events : List GameEvent) (now : Nat) :
    Prop where
  events : (records.map LogRecord.event).Perm events
  since : ∀ record ∈ records, since ≤ record.at
  until_ : ∀ record ∈ records, record.at ≤ now
  sorted : records.Pairwise fun record later => record.at ≤ later.at

/-- From one state to a later one, the log has recorded what went out. -/
def Recorded (w w' : World) : Prop :=
  w.now ≤ w'.now ∧ ∃ marks records, w'.history = marks ++ w.history ∧ w'.log = w.log ++ records ∧
    Recounts w.now records (announced marks) w'.now

/-- Nothing said is recounted by nothing. -/
theorem Recounts.nil {since now : Nat} : Recounts since [] [] now where
  events := .nil
  since _ h := by cases h
  until_ _ h := by cases h
  sorted := .nil

/-- One event is recounted by its record. -/
theorem Recounts.single (event : GameEvent) (line : Option LogLine) (now : Nat) :
    Recounts now [⟨now, event, line⟩] [event] now where
  events := .refl _
  since record hrecord := by rw [List.mem_singleton.1 hrecord]
  until_ record hrecord := by rw [List.mem_singleton.1 hrecord]
  sorted := List.pairwise_singleton _ _

/-- Two accounts in a row are one. -/
theorem Recounts.append {since now now' : Nat} {records records' : List LogRecord}
    {events events' : List GameEvent} (h : Recounts since records events now)
    (h' : Recounts now records' events' now') (hle : since ≤ now) (hle' : now ≤ now') :
    Recounts since (records ++ records') (events' ++ events) now' where
  events := by
    rw [List.map_append]
    exact (h.events.append h'.events).trans List.perm_append_comm
  since record hrecord := by
    obtain hrecord | hrecord := List.mem_append.1 hrecord
    · exact h.since record hrecord
    · exact Nat.le_trans hle (h'.since record hrecord)
  until_ record hrecord := by
    obtain hrecord | hrecord := List.mem_append.1 hrecord
    · exact Nat.le_trans (h.until_ record hrecord) hle'
    · exact h'.until_ record hrecord
  sorted := by
    refine List.pairwise_append.2 ⟨h.sorted, h'.sorted, fun record hrecord later hlater => ?_⟩
    exact Nat.le_trans (h.until_ record hrecord) (h'.since later hlater)

/-- One change announces nothing, and nothing is recorded. -/
theorem Change.quiet {w w' : World} (h : Change w w') : w.now ≤ w'.now ∧
    ∃ marks, w'.history = marks ++ w.history ∧ announced marks = [] ∧ w'.log = w.log := by
  have hsame : ∀ {w' : World}, w'.now = w.now → w'.history = w.history → w'.log = w.log →
      w.now ≤ w'.now ∧ ∃ marks, w'.history = marks ++ w.history ∧ announced marks = [] ∧
        w'.log = w.log := fun hnow hhistory hlog =>
    ⟨Nat.le_of_eq hnow.symm, [], hhistory, rfl, hlog⟩
  cases h with
  | tick ms => exact ⟨Nat.le_add_right _ _, [], rfl, rfl, rfl⟩
  | @note m hnote =>
    refine ⟨Nat.le_refl _, [m], rfl, ?_, rfl⟩
    cases m with
    | emitted => cases hnote
    | _ => rfl
  | openFrame frameId => exact ⟨Nat.le_refl _, [_], rfl, rfl, rfl⟩
  | releaseFrame frameId =>
    unfold World.releaseFrame
    split
    · exact ⟨Nat.le_refl _, [_], rfl, rfl, rfl⟩
    · exact hsame rfl rfl rfl
  | restoreFrame frameId =>
    unfold World.restoreFrame
    split
    · exact ⟨Nat.le_refl _, [_], rfl, rfl, rfl⟩
    · exact hsame rfl rfl rfl
  | spend => exact ⟨Nat.le_refl _, [_], rfl, rfl, rfl⟩
  | _ => exact hsame rfl rfl rfl

namespace Recorded

variable {w w' w'' : World}

/-- Nothing went out, and nothing was recorded. -/
theorem quiet (marks : List Mark) (hnow : w.now ≤ w'.now)
    (hhistory : w'.history = marks ++ w.history) (hmarks : announced marks = [])
    (hlog : w'.log = w.log) : Recorded w w' :=
  ⟨hnow, marks, [], hhistory, by rw [hlog, List.append_nil], hmarks ▸ .nil⟩

/-- Two stretches that are recorded are recorded as one. -/
theorem trans (h : Recorded w w') (h' : Recorded w' w'') : Recorded w w'' := by
  obtain ⟨hnow, marks, records, hhistory, hlog, hrecounts⟩ := h
  obtain ⟨hnow', marks', records', hhistory', hlog', hrecounts'⟩ := h'
  refine ⟨Nat.le_trans hnow hnow', marks' ++ marks, records ++ records', ?_, ?_, ?_⟩
  · rw [hhistory', hhistory, List.append_assoc]
  · rw [hlog', hlog, List.append_assoc]
  · rw [announced, List.filterMap_append]
    exact hrecounts.append hrecounts' hnow hnow'

instance : Std.Refl Recorded := ⟨fun _ => quiet [] (Nat.le_refl _) rfl rfl rfl⟩

instance : IsTrans World Recorded := ⟨fun _ _ _ => trans⟩

/-- No write but an announcement is to be recorded. -/
theorem change (h : Change w w') : Recorded w w' := by
  obtain ⟨hnow, marks, hhistory, hmarks, hlog⟩ := h.quiet
  exact quiet marks hnow hhistory hmarks hlog

instance : Allows Recorded where
  change _ _ h := .single (change h)
  opens := Along.inserting (fun _ => .single (change .drawId))
    fun _ _ _ _ => .single (quiet [] (Nat.le_refl _) rfl rfl rfl)

/-- What each write records a path of them records. -/
theorem relate (h : Relation.ReflTransGen Recorded w w') : Recorded w w' := by
  induction h with
  | refl => exact Std.Refl.refl _
  | tail _ hstep ih => exact ih.trans hstep

/-- An event is recorded after what was announced while it was heard. -/
theorem announce {event : GameEvent}
    (h : Recorded { w with history := .emitted event w.gs :: w.history } w')
    (line : Option LogLine) :
    Recorded w { w' with log := w'.log ++ [⟨w'.now, event, line⟩] } := by
  obtain ⟨hnow, marks, records, hhistory, hlog, hrecounts⟩ := h
  have hboth := hrecounts.append (.single event line w'.now) hnow (Nat.le_refl _)
  refine ⟨hnow, marks ++ [.emitted event w.gs], records ++ [⟨w'.now, event, line⟩], ?_, ?_, ?_⟩
  · rw [hhistory, List.append_assoc]
    rfl
  · rw [← List.append_assoc, ← hlog]
  · have hmarks : announced (marks ++ [.emitted event w.gs]) = announced marks ++ [event] :=
      List.filterMap_append
    refine { hboth with events := hboth.events.trans ?_ }
    rw [hmarks]
    exact List.perm_append_comm

/-- The log only grows. -/
theorem log_grow (h : Recorded w w') : w.log <+: w'.log := by
  obtain ⟨-, -, records, -, hlog, -⟩ := h
  exact ⟨records, hlog.symm⟩

/-! ## Over an input -/

variable {T : Table}

/-- An event that goes out is recorded once everything it brought about has been, by induction on
the nesting of events. -/
theorem emit : ∀ n event, Along False Recorded (HereToSlaughter.emit T n event)
  | 0, _ => .throw _
  | n + 1, event => by
    refine .of_returns fun w a w' h => ?_
    obtain ⟨w₁, w₂, w₃, hturn, htask, hengine, rfl⟩ := Writes.ran_emit h
    have hclock : Along False Recorded (TurnManager.onEvent event) := Writes.turnManager event
    have hheard : Recorded { w with history := .emitted event w.gs :: w.history } w₃ :=
      (relate (hclock.returns hturn)).trans <|
        (relate ((Writes.taskManager (emit n) _ _).returns htask)).trans <|
          relate ((Writes.gameEngine (emit n) _ _).returns hengine)
    exact .single (announce hheard _)

/-- Whatever an input announces is recorded by the time it has been handled. -/
theorem handle (fuel : Nat) (input : Input) :
    Along False Recorded (HereToSlaughter.handle T fuel input) :=
  Writes.handles emit fuel input fun _ _ _ =>
    .modifies fun _ => .single (quiet [] (Nat.le_refl _) rfl rfl rfl)

/-- What a start that returns says is recorded. -/
theorem start {setup : GameSetup} (fuel : Nat) : Along False Recorded (startGame setup fuel) :=
  .bind .get fun _ => Writes.starts emit fuel _

end Recorded

/-! ## Over a run -/

/-- So is what a step says. -/
theorem Step.recorded {T : Table} {w w' : World} {input : Input} (h : Step T w input w') :
    Recorded w w' := by
  cases h with
  | ok h => exact Recorded.relate ((Recorded.handle _ _).returns h)
  | threw => exact Std.Refl.refl _

section
variable {setup : GameSetup} {w : World}

/-- The log holds every event that has gone out, each once, under times that do not run
backwards. -/
theorem Reach.logged (h : Reach setup w) : Recounts 0 w.log (announced w.history) w.now := by
  induction h with
  | @start fuel w w' deal h =>
    obtain ⟨rfl, -⟩ := GameSetup.createGame_ok deal
    obtain ⟨-, marks, records, hhistory, hlog, hrecounts⟩ :=
      Recorded.relate ((Recorded.start fuel).returns h)
    have hmarks : w'.history = marks := hhistory.trans (List.append_nil _)
    have hrecords : w'.log = records := hlog
    rw [hmarks, hrecords]
    exact hrecounts
  | @step w w' input _ h ih =>
    obtain ⟨hnow, marks, records, hhistory, hlog, hrecounts⟩ := h.recorded
    rw [hhistory, hlog, announced, List.filterMap_append]
    exact ih.append hrecounts (Nat.zero_le _) hnow

end

end HereToSlaughter
