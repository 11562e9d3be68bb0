import HereToSlaughter.Refine.Inputs
import HereToSlaughter.Writes.Tasks

/-!
# What the engine writes

Every event is heard without a window being passed, by induction on the nesting of events, and so
is every input but a pass.

Reference: `pipelines/{task,turn,reaction}-manager.ts`, `game-engine.ts`.
-/

namespace HereToSlaughter

open Lib EngineM

namespace Writes

section
variable {r : World → World → Prop} [Allows r] {thrown : Prop} {T : Table} {em : Emit}
  (hem : ∀ event, Along thrown r (em event))
include hem

/-! ## The task manager -/

/-- The sweep takes the effects the event ends, then announces each. -/
theorem sweepExpired (cards : Cards) (event : GameEvent) :
    Along thrown r (HereToSlaughter.sweepExpired cards em event) :=
  .bind getGs fun _ => .bind (door (Doors.foldl (fun _ _ => .single (.retire ..)) _)) fun _ =>
    forEach (fun _ => hem _) _

omit hem in
/-- Each ability the event wakes gets a pipeline of its own, under a fresh id. -/
theorem addPipelines (event : GameEvent) (sources : List AbilitySource) :
    Along thrown r (HereToSlaughter.addPipelines event sources) := by
  refine forEach (fun source => ?_) _
  exact .bind freshId fun _ => state (fun _ => rfl) fun _ => rfl

omit hem in
/-- A frame that resolves wakes the pipelines that waited for it. -/
theorem wakeOn (event : GameEvent) : Along thrown r (HereToSlaughter.wakeOn event) := by
  unfold HereToSlaughter.wakeOn
  split
  · exact state (fun _ => rfl) fun _ => rfl
  · exact .pure ()

omit hem in
/-- A pipeline pauses on the frame its step opened, if that frame is still open. -/
theorem pauseOn (pid frameId : Nat) (step : Task) :
    Along thrown r (HereToSlaughter.pauseOn pid frameId step) :=
  .bind getGs fun _ => .ite (.bind (mark rfl) fun _ => state (fun _ => rfl) fun _ => rfl)
    (fail _)

omit hem in
/-- The flag of a drain is up around what it runs, and down after, thrown or not. -/
theorem whileDraining {act : EngineM Unit} (hact : Along thrown r act) :
    Along thrown r (HereToSlaughter.whileDraining act) := by
  have hflag : ∀ (w : World) (draining : Bool),
      Relation.ReflTransGen r w { w with draining } := fun w draining =>
    AllowsChange.change (.managers w.turnManager draining w.dirty w.reveals w.randomAt)
  refine ⟨fun w a w' h => ?_, fun hthrown w e w' h => ?_⟩
  · unfold HereToSlaughter.whileDraining at h
    split at h
    · rename_i hrun
      cases h
      exact ((hflag w true).trans (hact.returns hrun)).trans (hflag _ false)
    · cases h
  · unfold HereToSlaughter.whileDraining at h
    split at h
    · cases h
    · rename_i hrun
      cases h
      exact ((hflag w true).trans (hact.throws hthrown hrun)).trans (hflag _ false)

omit [Allows r] in
/-- A card whose last printed pipeline is spent is announced, nothing more. -/
theorem announceIfCardIsDone (spent : AbilityPipeline) :
    Along thrown r (HereToSlaughter.announceIfCardIsDone em spent) :=
  .ite (.pure ()) (.bind getGs fun _ => .ite (.pure ()) (hem _))

/-- One step: the context it starts from, the step, the context it leaves. -/
theorem runStep (fuel : Nat) (top : AbilityPipeline) (step : Task) (steps : List Task) :
    Along thrown r (HereToSlaughter.runStep T em fuel top step steps) :=
  .bind (state (fun _ => rfl) fun _ => rfl) fun _ => .bind (execute hem _ _ _) fun _ =>
    .bind (state (fun _ => rfl) fun _ => rfl) fun _ => .pure _

/-- The loop of a drain, by induction on its fuel: a spent pipeline goes, a step runs, or the loop
stops at a pause. -/
theorem drainLoop : ∀ fuel, Along thrown r (HereToSlaughter.drainLoop T em fuel)
  | 0 => .throw _
  | fuel + 1 => by
    refine .bind getGs fun gs => ?_
    split
    · exact .pure ()
    · refine .ite (.pure ()) ?_
      split
      · refine .bind (state (fun _ => rfl) fun _ => rfl) fun _ => ?_
        exact .bind (announceIfCardIsDone hem _) fun _ => drainLoop fuel
      · refine .bind (runStep hem _ _ _ _) fun suspended => ?_
        split
        · exact pauseOn _ _ _
        · exact drainLoop fuel

/-- A drain runs its loop unless one is running already. -/
theorem drain (fuel : Nat) : Along thrown r (HereToSlaughter.drain T em fuel) :=
  .bind .get fun _ => .ite (.pure ()) (whileDraining (drainLoop hem fuel))

/-- `TaskManager`: the sweep, the pipelines that wake, those that are new, then the drain. -/
theorem taskManager (fuel : Nat) (event : GameEvent) :
    Along thrown r (TaskManager.onEvent T em fuel event) := by
  refine .bind getGs fun _ => .ite (.pure ()) (.bind (sweepExpired hem _ _) fun _ => ?_)
  exact .bind (wakeOn event) fun _ => .bind getGs fun _ => .bind (addPipelines _ _) fun _ =>
    drain hem fuel

/-! ## The turn manager -/

omit hem in
/-- The turn clock stands while a frame is open, and runs otherwise. -/
theorem syncClock : Along thrown r HereToSlaughter.syncClock :=
  .bind getGs fun _ => .ite (modifyTurnManager _) (modifyTurnManager _)

omit hem in
/-- `TurnManager` only moves its own clock as it listens. -/
theorem turnManager (event : GameEvent) : Along thrown r (TurnManager.onEvent event) := by
  unfold TurnManager.onEvent
  split
  · exact modifyTurnManager _
  · exact syncClock
  · exact .pure ()

/-- A turn starts: its points, its abilities, its clock. -/
theorem startTurn (playerId : String) : Along thrown r (HereToSlaughter.startTurn T em playerId) :=
  .bind getGs fun _ => .ite (.bind (door fun b => .startTurn b _) fun _ =>
    .bind (modifyTurnManager _) fun _ => .bind (hem _) fun _ => syncClock) (.pure ())

/-- A turn ends: its clock and its used abilities go before it is announced. -/
theorem endTurn : Along thrown r (HereToSlaughter.endTurn em) :=
  .bind (modifyTurnManager _) fun _ => .bind (door fun b => .clearUsedAbilities b) fun _ =>
    .bind (modifyTurnManager _) fun _ => .bind getGs fun _ => hem _

/-- A turn ends when its points are spent on an idle board. -/
theorem endTurnIfDue (playerId : String) :
    Along thrown r (HereToSlaughter.endTurnIfDue em playerId) :=
  .bind (getActionPoints _) fun _ => .bind getGs fun _ => .ite (endTurn hem) (.pure ())

/-- A queued action runs if it is still allowed, and is dropped if not. -/
theorem runQueued (fuel : Nat) (action : Action) (queue : List Action) :
    Along thrown r (HereToSlaughter.runQueued T em fuel action queue) :=
  .bind getGs fun _ => .bind (orThrow _) fun _ => .bind (modifyTurnManager _) fun _ =>
    .ite (.bind .get fun _ => .bind getGs fun _ => .bind (mark rfl) fun _ =>
      executeAction hem _ _) (.pure ())

/-- The queue runs one action after the other, until the board holds the turn up. -/
theorem drainQueue (playerId : String) :
    ∀ fuel, Along thrown r (HereToSlaughter.drainQueue T em playerId fuel)
  | 0 => .throw _
  | fuel + 1 => by
    refine .bind .get fun w => ?_
    split
    · exact endTurnIfDue hem _
    · exact .bind getGs fun _ => .ite (.pure ()) (.bind (runQueued hem _ _ _) fun _ =>
        drainQueue playerId fuel)

/-- `TurnManager.drain` runs the queue of the seat whose turn it is. -/
theorem drainTurn (fuel : Nat) : Along thrown r (TurnManager.drain T em fuel) := by
  refine .bind getGs fun gs => ?_
  split
  · exact .pure ()
  · exact drainQueue hem _ _

/-- An action enqueued is accepted into the queue, which then runs as far as it gets; one that is
refused writes nothing. -/
theorem enqueue (fuel : Nat) (action : Action) :
    Along thrown r (HereToSlaughter.enqueue T em fuel action) := by
  refine .bind getGs fun gs => .ite (.pure _) (.bind .get fun w => .ite (fail _) ?_)
  refine .ite (.pure _) (.ite (.pure _) (.bind (orThrow _) fun check => .ite ?_ (.pure _)))
  refine .bind .get fun _ => .bind (mark rfl) fun _ => .bind (modifyTurnManager _) fun _ => ?_
  exact .bind (drainTurn hem _) fun _ => .pure _

/-- A turn that has lapsed loses the points it has left. -/
theorem lapse (fuel turn : Nat) : Along thrown r (HereToSlaughter.lapse T em fuel turn) := by
  refine .bind (modifyTurnManager _) fun _ => .bind .get fun w => ?_
  refine .ite (.pure ()) (.ite (.pure ()) (.ite (fail _) ?_))
  split
  · exact .pure ()
  · exact .bind (getActionPoints _) fun _ =>
      .bind (playerDoor _ fun b => .decreaseActionPoints b _ _) fun _ => drainTurn hem _

/-! ## The game engine -/

/-- The game concludes once a winner is due and the board has changed since the last look. -/
theorem concludeIfDue : Along thrown r (HereToSlaughter.concludeIfDue T em) := by
  refine .bind getGs fun gs => .ite (.pure _) (.bind .get fun w => .ite (.pure _) ?_)
  refine .bind
    (modifies fun w => .managers w.turnManager w.draining _ w.reveals w.randomAt) fun _ => ?_
  split
  · exact .pure _
  · exact .bind (modifyTurnManager _) fun _ => .bind (conclude hem _) fun _ =>
      .bind (hem _) fun _ => .pure _

/-- The turn goes to the next seat in the order. -/
theorem startNextTurn (currentPlayerId : String) :
    Along thrown r (HereToSlaughter.startNextTurn T em currentPlayerId) := by
  refine .bind .get fun w => ?_
  split
  · exact .pure ()
  · exact startTurn hem _

/-- `GameEngine`: a conclusion that is due, or what the event asks for. -/
theorem gameEngine (fuel : Nat) (event : GameEvent) :
    Along thrown r (GameEngine.onEvent T em fuel event) := by
  refine .bind
    (modifies fun w => .managers w.turnManager w.draining _ w.reveals w.randomAt) fun _ => ?_
  refine .bind (concludeIfDue hem) fun concluded => .ite (.pure ()) ?_
  split
  · exact startNextTurn hem _
  · exact drainTurn hem _
  · exact .pure ()

/-- An event is heard along a relation that allows it to be told of. -/
theorem hear (fuel : Nat) (event : GameEvent)
    (hlog : Along thrown r (GameLog.onEvent T.cards event)) :
    Along thrown r (HereToSlaughter.hear T em fuel event) :=
  .bind (turnManager event) fun _ => .bind (taskManager hem _ _) fun _ =>
    .bind (gameEngine hem _ _) fun _ => hlog

end

section
variable {T : Table}

/-- An event that has gone out was heard by the managers, one after the other, and then recorded. -/
theorem ran_emit {n : Nat} {event : GameEvent} {w w' : World} {a : Unit}
    (h : HereToSlaughter.emit T (n + 1) event w = .ok a w') : ∃ w₁ w₂ w₃,
      TurnManager.onEvent event { w with history := .emitted event w.gs :: w.history } = .ok () w₁ ∧
      TaskManager.onEvent T (HereToSlaughter.emit T n) n event w₁ = .ok () w₂ ∧
      GameEngine.onEvent T (HereToSlaughter.emit T n) n event w₂ = .ok () w₃ ∧
      w' = { w₃ with
        log := w₃.log ++
          [{ «at» := w₃.now, event, line := logLine (namesOf T.cards w₃.gs.board) event }] } := by
  obtain ⟨gs, _, hgs, h⟩ := ran_of_bind h
  cases hgs
  obtain ⟨_, _, hmark, h⟩ := ran_of_bind h
  cases hmark
  obtain ⟨_, w₁, hturn, h⟩ := ran_of_bind h
  obtain ⟨_, w₂, htask, h⟩ := ran_of_bind h
  obtain ⟨_, w₃, hengine, h⟩ := ran_of_bind h
  cases h
  exact ⟨w₁, w₂, w₃, hturn, htask, hengine, rfl⟩

/-- An event goes out along a relation that allows it to be announced and recorded, by induction on
the nesting of events. -/
theorem emits {r : World → World → Prop} [Allows r] {thrown : Prop}
    (hannounce : ∀ (w : World) event, Relation.ReflTransGen r w
      { w with history := .emitted event w.gs :: w.history })
    (hrecord : ∀ (w : World) record,
    Relation.ReflTransGen r w { w with log := w.log ++ [record] }) :
    ∀ n event, Along thrown r (HereToSlaughter.emit T n event)
  | 0, _ => .throw _
  | n + 1, event => by
    have hlog : Along thrown r (GameLog.onEvent T.cards event) :=
      .leap fun w => ⟨Pure.pure (), _, rfl, hrecord w _, .pure ()⟩
    exact .leap fun w => ⟨HereToSlaughter.hear T (HereToSlaughter.emit T n) n event, _, rfl,
      hannounce w event, hear (emits hannounce hrecord n) n event hlog⟩

/-- An event is heard without a window being passed. -/
theorem heard {em : Emit} (hem : ∀ event, Writes (em event)) (fuel : Nat) (event : GameEvent) :
    Writes (HereToSlaughter.hear T em fuel event) :=
  hear hem fuel event (.modifies fun _ => .single (.aside rfl rfl))

/-- No event passes a window. -/
theorem emit : ∀ n event, Writes (HereToSlaughter.emit T n event) :=
  emits (fun _ _ => .single (.mark _ rfl)) fun _ _ => .single (.aside rfl rfl)

/-! ## Inputs -/

variable {r : World → World → Prop} [Allows r] {thrown : Prop}

/-- A game starts along a relation that its events go out along. -/
theorem starts (hem : ∀ n event, Along thrown r (HereToSlaughter.emit T n event)) (n : Nat)
    (playerOrder : List String) : Along thrown r (HereToSlaughter.start T n playerOrder) := by
  refine .bind (modifies fun _ => .seat playerOrder) fun _ => ?_
  refine .bind (door fun b => .single (.phase .turns b.winnerId)) fun _ =>
    .bind (hem n _) fun _ => ?_
  split
  · exact .pure ()
  · exact startTurn (hem n) _

/-- A game starts without a window being passed. -/
theorem start (n : Nat) (playerOrder : List String) :
    Writes (HereToSlaughter.start T n playerOrder) := starts emit n playerOrder

omit [Allows r] in
/-- A reaction writes what its run writes, and nothing when it is refused. -/
theorem submitReaction (check : Except EngineError RequestResult) {run : EngineM Unit}
    (hrun : Along thrown r run) : Along thrown r (HereToSlaughter.submitReaction check run) :=
  .bind (orThrow _) fun _ => .ite (.bind hrun fun _ => .pure _) (.pure _)

section
variable {em : Emit} (hem : ∀ event, Along thrown r (em event))
include hem

/-- An answer is handed to the window it names, if that is open and takes it. -/
theorem submitChoice (windowId : Nat) (playerId : String) (choice : Option Pick) :
    Along thrown r (HereToSlaughter.submitChoice T em windowId playerId choice) := by
  refine .bind getGs fun gs => ?_
  split
  · exact .pure _
  · refine .ite ?_ (.pure _)
    split
    · exact submitToRoll hem _ _ _ _ _ _ _
    · exact .pure _
    · exact submitToChoice hem _ _ _ _ _

/-- A pass goes along a relation that allows the pass itself. -/
theorem pass (windowId : Nat) (playerId : String)
    (hpass : Along thrown r (modifyGs (GameState.modifyWindow windowId (Window.pass playerId)))) :
    Along thrown r (HereToSlaughter.pass T em windowId playerId) := by
  refine .bind getGs fun gs => ?_
  split
  · exact .pure _
  · refine .ite (.pure _) (.ite (.pure _) (.bind hpass fun _ => .bind getGs fun gs => ?_))
    exact .ite (.bind (resolve hem _ _) fun _ => .pure _) (.bind (.pure _) fun _ => .pure _)

/-- The turn timer, when it is due, writes what the lapse of the turn writes. -/
theorem turnLapse (fuel : Nat) : Along thrown r (HereToSlaughter.turnLapse T em fuel) := by
  refine .bind .get fun w => ?_
  split
  · exact .ite (lapse hem _ _) (.pure ())
  · exact .pure ()

/-- A look that is over is taken off the views, and that is announced. -/
theorem revealLapse : Along thrown r (HereToSlaughter.revealLapse em) := by
  refine .leap fun w => ?_
  have hget : ∀ act : World → EngineM Unit, (MonadState.get >>= act) w = act w w := fun _ => rfl
  unfold HereToSlaughter.revealLapse
  rw [hget]
  cases hreveals : w.reveals with
  | nil => exact ⟨Pure.pure (), w, rfl, .refl, .pure ()⟩
  | cons reveal reveals =>
    dsimp only
    split
    · refine ⟨do
          modifyGs fun gs =>
            reveal.seats.foldl (fun gs seat => gs.hideRevealed seat reveal.cardIds) gs
          em (.revealEnded reveal.ownerId reveal.cardIds), _, rfl,
        AllowsChange.change (.managers w.turnManager w.draining w.dirty reveals w.randomAt), ?_⟩
      exact .bind (state (fun gs => (GameState.hideRevealed_all _ _ gs).1)
        fun gs => (GameState.hideRevealed_all _ _ gs).2.1) fun _ => hem _
    · exact ⟨Pure.pure (), w, rfl, .refl, .pure ()⟩

end

end

end Writes

/-- An input that passes a window. -/
def Input.isPass : Input → Bool
  | .command _ (.passWindow _) => true
  | _ => false

namespace Writes

/-- Every input is handled along a relation that allows every change, provided events go out along
it and a pass is one of its steps. -/
theorem handles {T : Table} {r : World → World → Prop} [Allows r] {thrown : Prop}
    (hem : ∀ n event, Along thrown r (HereToSlaughter.emit T n event)) (fuel : Nat) (input : Input)
    (hpass : input.isPass = true → ∀ windowId playerId,
      Along thrown r (modifyGs (GameState.modifyWindow windowId (Window.pass playerId)))) :
    Along thrown r (HereToSlaughter.handle T fuel input) := by
  cases input with
  | command playerId command =>
    refine .bind ?_ fun _ => .pure ()
    cases command with
    | action kind => exact enqueue (hem fuel) _ _
    | applyModifier => exact .bind getGs fun _ => submitReaction _ (playModifier (hem fuel) _ _ _ _)
    | challenge =>
      exact .bind now fun _ => .bind getGs fun _ => submitReaction _ (playChallenge (hem fuel) _ _)
    | submitChoice => exact submitChoice (hem fuel) _ _ _
    | passWindow => exact pass (hem fuel) _ _ (hpass rfl _ _)
  | windowLapse => exact windowLapse (hem fuel) _
  | turnLapse => exact turnLapse (hem fuel) _
  | revealLapse => exact revealLapse (hem fuel)
  | tick ms => exact modifies fun _ => .tick ms

/-- Every input but a pass is handled without a window being passed. -/
theorem handle {T : Table} (fuel : Nat) {input : Input} (hpass : input.isPass = false) :
    Writes (HereToSlaughter.handle T fuel input) :=
  handles emit fuel input fun h => absurd (h.symm.trans hpass) (by simp)

end Writes

end HereToSlaughter
