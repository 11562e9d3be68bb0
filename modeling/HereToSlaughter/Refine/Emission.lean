import HereToSlaughter.Machine.Sound

/-!
# Events, as the machine sees them

An event that goes out while a step of a pipeline runs (`Passive`) changes little: effects end,
pipelines are pushed and left for the loop already going, and the game may be found won. This file
follows such an event through the three managers and the log. What an event does from outside a
drain is in `Refine/Drain.lean`.

Reference: `events/game-event-emitter.ts`, `pipelines/task-manager.ts`, `game-engine.ts`.
-/

namespace HereToSlaughter

open Lib EngineM

/-! ## Programs of the engine -/

/-- `m` runs along inner steps. -/
abbrev Runs {α : Type} (T : PrintedTable) (m : EngineM α) (Q : α → Control → World → Prop)
    (k : Control) (s : World) : Prop := Tracks World.shape (innerSystem T) m Q k s

namespace Runs

variable {T : PrintedTable} {α : Type} {k : Control} {s : World}

/-- A check that throws ends the run. -/
theorem orThrow {x : Except EngineError α} {Q : α → Control → World → Prop}
    (h : ∀ a, x = .ok a → Q a k s) : Runs T (EngineM.orThrow x) Q k s := by
  cases x with
  | ok a => exact .pure (h a rfl)
  | error e => exact .throw e

/-- A failure ends the run. -/
theorem fail {message : String} {Q : α → Control → World → Prop} :
    Runs T (EngineM.fail message) Q k s := .throw _

/-- A player that is not there ends the run. -/
theorem requirePlayer {playerId : String} {Q : Player → Control → World → Prop}
    (h : ∀ player, s.gs.board.players.get? playerId = some player → Q player k s) :
    Runs T (EngineM.requirePlayer playerId) Q k s := by
  refine .bind (.reads rfl (orThrow fun player hplayer => h player ?_))
  unfold Board.requirePlayer at hplayer
  split at hplayer <;> simp_all

/-- A party that is not there ends the run. -/
theorem getParty {playerId : String} {Q : Party → Control → World → Prop}
    (h : ∀ party, s.gs.board.parties.get? playerId = some party → Q party k s) :
    Runs T (EngineM.getParty playerId) Q k s := by
  refine .bind (.reads rfl (orThrow fun party hparty => h party ?_))
  unfold Board.getParty at hparty
  split at hparty <;> simp_all

/-- A loop keeps what each of its rounds keeps. -/
theorem forEach {act : α → EngineM Unit} {P : Control → World → Prop} :
    ∀ {l : List α} {k : Control} {s : World}, P k s →
      (∀ a ∈ l, ∀ k s, P k s → Runs T (act a) (fun _ => P) k s) →
      Runs T (EngineM.forEach act l) (fun _ => P) k s
  | [], _, _, hP, _ => .pure hP
  | a :: _, _, _, hP, h => .bind ((h a List.mem_cons_self _ _ hP).mono fun _ _ _ hP' =>
      forEach hP' fun b hb => h b (List.mem_cons_of_mem _ hb))

end Runs

/-! ## What an event may be -/

/-- An event that begins and ends no turn, settles no frame and does not end the game. -/
def GameEventType.isOrdinary : GameEventType → Bool
  | .turnStarted | .turnEnded | .frameResolved | .gameEnded => false
  | _ => true

/-- No rule starts on the event and no effect ends with it. -/
structure Rules.Quiet (rules : Rules) (type : GameEventType) : Prop where
  starts : ∀ steps, ¬ rules.Starts type steps
  expires : ∀ expiry : EffectExpiry, expiry.on ≠ type

/-- Before the first turn only calm rules may start, and none between two turns, or while the
action under way has not taken its slot. -/
structure Control.Allows (k : Control) (rules : Rules) (type : GameEventType) : Prop where
  before : k.between = .before → ∀ steps, rules.Starts type steps → ∀ step ∈ steps,
    step.isCalm = true
  ended : ∀ playerId, k.between = .ended playerId → ∀ steps, ¬ rules.Starts type steps
  due : ∀ steps, rules.Starts type steps → k.due = none

/-- During a turn every event is allowed, once the action under way has its slot. -/
theorem Control.allows_playing {k : Control} (h : k.between = .playing) (hdue : k.due = none)
    (rules : Rules) (type : GameEventType) : k.Allows rules type :=
  ⟨fun hb => by simp [h] at hb, fun _ hb => by simp [h] at hb, fun _ _ => hdue⟩

/-- Quiet events are always allowed. -/
theorem Rules.Quiet.allowed {rules : Rules} {type : GameEventType} (h : rules.Quiet type)
    (k : Control) : k.Allows rules type :=
  ⟨fun _ steps hs => absurd hs (h.starts steps), fun _ _ steps => h.starts steps,
    fun steps hs => absurd hs (h.starts steps)⟩

/-- The types some rule of the game starts on. -/
def startingTypes : List GameEventType :=
  (abilityRegistry.flatMap fun e => e.2.map fun rule => rule.trigger.on) ++
    heroRules.map (fun rule => rule.trigger.on) ++ instanceRules.map fun rule => rule.trigger.on

/-- The types that rules start on are listed. -/
theorem mem_startingTypes {type : GameEventType} {steps : List Task}
    (h : gameRules.Starts type steps) : type ∈ startingTypes := by
  obtain ⟨rule, hrule, rfl, -⟩ := h
  simp only [startingTypes, List.mem_append, List.mem_flatMap, List.mem_map]
  rcases hrule with ⟨cardId, hrule⟩ | hrule | hrule
  · obtain ⟨e, he, hmem⟩ := mem_abilitiesOf hrule
    exact .inl (.inl ⟨e, he, rule, hmem, rfl⟩)
  · exact .inl (.inr ⟨rule, hrule, rfl⟩)
  · exact .inr ⟨rule, hrule, rfl⟩

/-- No rule starts on what goes on around a play, on what ends effects or between two turns. -/
theorem notMem_startingTypes : ∀ type ∈ [GameEventType.cardRemovedFromHand, .diceRolled,
    .effectApplied, .effectExpired, .turnStarted, .turnEnded, .heroRemovedFromParty,
    .itemUnequipped], type ∉ startingTypes := by
  decide +kernel

section
variable (T : PrintedTable)

/-- An event that is not listed, and that no effect waits for, is quiet. -/
theorem quiet_of_notMem {type : GameEventType} (hstarts : type ∉ startingTypes)
    (hexpires : ∀ expiry : EffectExpiry, expiry.on ≠ type) : T.rules.Quiet type :=
  ⟨fun _ h => hstarts (mem_startingTypes (T.printed ▸ h)), hexpires⟩

/-- No rule waits for a card that leaves a hand. -/
theorem quiet_cardRemovedFromHand : T.rules.Quiet .cardRemovedFromHand :=
  quiet_of_notMem T (notMem_startingTypes _ (by simp)) fun expiry => by
    cases expiry <;> simp [EffectExpiry.on]

/-- Nor for dice. -/
theorem quiet_diceRolled : T.rules.Quiet .diceRolled :=
  quiet_of_notMem T (notMem_startingTypes _ (by simp)) fun expiry => by
    cases expiry <;> simp [EffectExpiry.on]

/-- Nor for an effect that is installed. -/
theorem quiet_effectApplied : T.rules.Quiet .effectApplied :=
  quiet_of_notMem T (notMem_startingTypes _ (by simp)) fun expiry => by
    cases expiry <;> simp [EffectExpiry.on]

/-- Nor for one that expires. -/
theorem quiet_effectExpired : T.rules.Quiet .effectExpired :=
  quiet_of_notMem T (notMem_startingTypes _ (by simp)) fun expiry => by
    cases expiry <;> simp [EffectExpiry.on]

end

/-! ## The turn manager and the log -/

/-- Nothing of the game has changed, and nothing of the turn but its clock. -/
structure Aside (s s' : World) : Prop where
  gs : s'.gs = s.gs
  draining : s'.draining = s.draining
  history : s'.history = s.history
  queue : s'.turnManager.actionQueue = s.turnManager.actionQueue
  turn : s'.turnManager.turn = s.turnManager.turn
  phase : s'.turnManager.phase = s.turnManager.phase

namespace Aside

variable {s s' s'' : World}

/-- Where nothing changes the change is aside. -/
theorem refl : Aside s s := ⟨rfl, rfl, rfl, rfl, rfl, rfl⟩

/-- Two changes aside are one. -/
theorem trans (h : Aside s s') (h' : Aside s' s'') : Aside s s'' :=
  ⟨h'.gs.trans h.gs, h'.draining.trans h.draining, h'.history.trans h.history,
    h'.queue.trans h.queue, h'.turn.trans h.turn, h'.phase.trans h.phase⟩

end Aside

namespace TurnManagerState

variable (now : Nat) (tm : TurnManagerState)

/-- A clock that pauses touches neither queue nor turn. -/
theorem pauseClock_rest : (tm.pauseClock now).actionQueue = tm.actionQueue ∧
    (tm.pauseClock now).turn = tm.turn ∧ (tm.pauseClock now).phase = tm.phase := by
  unfold pauseClock
  split <;> exact ⟨rfl, rfl, rfl⟩

/-- Nor does one that goes on. -/
theorem resumeClock_rest : (tm.resumeClock now).actionQueue = tm.actionQueue ∧
    (tm.resumeClock now).turn = tm.turn ∧ (tm.resumeClock now).phase = tm.phase := by
  unfold resumeClock
  split <;> exact ⟨rfl, rfl, rfl⟩

/-- Nor does one that stops. -/
theorem stopClock_rest : (tm.stopClock now).actionQueue = tm.actionQueue ∧
    (tm.stopClock now).turn = tm.turn ∧ (tm.stopClock now).phase = tm.phase :=
  pauseClock_rest now tm

end TurnManagerState

section
variable {T : PrintedTable} {k : Control} {s : World}

/-- A change of the clock. -/
theorem Runs.clock {f : Nat → TurnManagerState → TurnManagerState}
    {Q : Unit → Control → World → Prop}
    (hf : ∀ now tm, (f now tm).actionQueue = tm.actionQueue ∧ (f now tm).turn = tm.turn ∧
      (f now tm).phase = tm.phase)
    (h : ∀ s', Aside s s' → s'.dirty = s.dirty → Q () k s') :
    Runs T (modifyTurnManager f) Q k s := by
  obtain ⟨hqueue, hturn, hphase⟩ := hf s.now s.turnManager
  refine .unseen (t := { s with turnManager := f s.now s.turnManager }) rfl ?_
    (h _ ⟨rfl, rfl, rfl, hqueue, hturn, hphase⟩ rfl)
  simp only [World.shape, hqueue, hturn]

/-- `syncClock` changes the clock only. -/
theorem Runs.syncClock {Q : Unit → Control → World → Prop}
    (h : ∀ s', Aside s s' → Q () k s') : Runs T HereToSlaughter.syncClock Q k s := by
  refine .bind (.reads rfl (.ite (fun _ => ?_) fun _ => ?_))
  · exact clock TurnManagerState.pauseClock_rest fun s' hs _ => h s' hs
  · exact clock TurnManagerState.resumeClock_rest fun s' hs _ => h s' hs

/-- The turn manager only minds its clock. -/
theorem Runs.turnManager (event : GameEvent) {Q : Unit → Control → World → Prop}
    (h : ∀ s', Aside s s' → Q () k s') : Runs T (TurnManager.onEvent event) Q k s := by
  unfold TurnManager.onEvent
  split
  · exact clock TurnManagerState.pauseClock_rest fun s' hs _ => h s' hs
  · exact syncClock h
  · exact .pure (h s .refl)

/-- The log tells of the event. -/
theorem Runs.log (event : GameEvent) {Q : Unit → Control → World → Prop}
    (h : ∀ s', Aside s s' → Q () k s') : Runs T (GameLog.onEvent T.cards event) Q k s :=
  .acts (l := k) rfl (Inner.record s.now event) (h _ ⟨rfl, rfl, rfl, rfl, rfl, rfl⟩)

/-! ## Events of a finished game -/

/-- Once the game is over an event is only recorded. -/
theorem Runs.emit_concluded (n : Nat) (event : GameEvent) (hflow : k.flow = .flowing)
    (hstart : event.type ≠ .turnStarted) (hend : event.type ≠ .turnEnded)
    (hover : event.type = .gameEnded → AwaitsEnd s.history)
    (hphase : s.gs.board.gamePhase = .concluded) :
    Runs T (emit T.toTable n event) (fun _ k' s' => k' = k ∧
      Aside { s with history := .emitted event s.gs :: s.history } s') k s := by
  cases n with
  | zero => exact .throw _
  | succ n =>
    refine .bind (.reads rfl (.bind ?_))
    refine .acts (l := k) (t := { s with history := .emitted event s.gs :: s.history }) rfl
      (Inner.announce event s.gs_matches hflow hstart hend hover) ?_
    refine .bind (turnManager event fun s₁ h₁ => ?_)
    have hphase₁ : s₁.gs.board.gamePhase = .concluded := by rw [h₁.gs]; exact hphase
    refine .bind (.bind (.reads rfl ?_))
    rw [if_pos hphase₁]
    refine .pure (.bind (.bind (.unseen (t := { s₁ with dirty := true }) rfl rfl ?_)))
    refine .bind (.bind (.reads rfl ?_))
    rw [if_pos hphase₁]
    refine .pure (.pure (log event fun s₂ h₂ => ⟨rfl, h₁.trans ⟨?_, ?_, ?_, ?_, ?_, ?_⟩⟩))
    · exact h₂.gs
    · exact h₂.draining
    · exact h₂.history
    · exact h₂.queue
    · exact h₂.turn
    · exact h₂.phase

/-! ## Winning -/

/-- The machine's question is the game's. -/
theorem pending_shape (s : World) : s.shape.hasPendingOutcome = s.gs.hasPendingOutcome :=
  GameState.hasPendingOutcome_shape s

/-- `conclude`: declared, every window cancelled, the board cleared. -/
theorem Runs.conclude (n : Nat) {winnerId : String} (hflow : k.flow = .flowing)
    (hclearing : k.clearing = false) (hphase : s.gs.board.gamePhase ≠ .concluded)
    (hpending : s.gs.hasPendingOutcome = false)
    (hwins : checkWinConditions T.toTable s.gs.board = some winnerId) :
    Runs T (HereToSlaughter.conclude (emit T.toTable n) winnerId) (fun _ k' s' => k' = k ∧
      s'.draining = s.draining ∧ s'.turnManager.actionQueue = s.turnManager.actionQueue ∧
      s'.gs.board = { s.gs.board with gamePhase := .concluded, winnerId := some winnerId } ∧
      s'.gs.pipelines = [] ∧ s'.gs.frames = .empty ∧ AwaitsEnd s'.history) k s := by
  let won : World := { s with
    gs := s.gs.modifyBoard fun b => { b with gamePhase := .concluded, winnerId := some winnerId }
    history := .concluded winnerId s.gs :: s.history }
  let kc : Control := { k with clearing := true }
  refine .bind (.reads rfl ?_)
  refine .together (t := won) (l := kc) rfl rfl
    (.single (Inner.declare s.gs_matches hclearing hphase
      ((pending_shape s).trans hpending) hwins)) ?_
  have hloop : Runs T (EngineM.forEach (fun e : Nat × Window => cancel (emit T.toTable n) e.1 e.2)
      s.gs.openWindowsByFrame) (fun _ k' s' => k' = kc ∧ s'.draining = s.draining ∧
        s'.turnManager.actionQueue = s.turnManager.actionQueue ∧ s'.gs.board = won.gs.board ∧
        AwaitsEnd s'.history) kc won := by
    refine forEach ⟨rfl, rfl, rfl, rfl, trivial⟩ ?_
    rintro ⟨frameId, w⟩ - k₁ s₁ ⟨rfl, hdraining, hqueue, hboard, hawaits⟩
    refine .bind (.acts (l := kc)
      (t := { s₁ with gs := s₁.gs.modifyWindow w.id Window.close }) rfl ?_ ?_)
    · have hframes : (s₁.gs.modifyWindow w.id Window.close).frameShapes =
          s₁.gs.frameShapes.map (FrameShape.close w.id) :=
        s₁.gs.frameShapes_modifyWindow_close Window.shape_close
      have hshape : ({ s₁ with gs := s₁.gs.modifyWindow w.id Window.close } : World).shape =
          { s₁.shape with frames := s₁.shape.frames.map (FrameShape.close w.id) } := by
        simp only [World.shape, hframes]; rfl
      exact hshape ▸ Inner.cancel w.id rfl
    · refine (emit_concluded (k := kc) n
        (.reactionWindowClosed w.getType w.respondentId frameId none none true)
        hflow (by simp [GameEvent.reactionWindowClosed]) (by simp [GameEvent.reactionWindowClosed])
        (fun hended => absurd hended (by simp [GameEvent.reactionWindowClosed])) ?_).mono ?_
      · show s₁.gs.board.gamePhase = .concluded
        rw [hboard]; rfl
      · rintro _ k₂ s₂ ⟨rfl, haside⟩
        refine ⟨rfl, haside.draining.trans hdraining, haside.queue.trans hqueue,
          (congrArg GameState.board haside.gs).trans hboard, ?_⟩
        rw [haside.history]
        exact ⟨by simp [GameEvent.reactionWindowClosed], hawaits⟩
  refine .bind (hloop.mono ?_)
  rintro _ k₁ s₁ ⟨rfl, hdraining, hqueue, hboard, hawaits⟩
  refine .acts (l := k) (t := { s₁ with gs := { s₁.gs with frames := .empty, pipelines := [] } })
    rfl ?_ ⟨rfl, hdraining, hqueue, hboard, rfl, rfl, hawaits⟩
  have hclear := Inner.clear (T := T.toTable) (k := kc) (s := s₁.shape) rfl hflow
  rw [show ({ kc with clearing := false } : Control) = k by
    cases k; cases hclearing; rfl] at hclear
  exact hclear

/-- Between two drains, or inside one, the engine may go on. -/
theorem Inner.stirred (h : k.flow = .flowing ∨ k.running = none) :
    (innerSystem T).Path (k, s.shape) ({ k with flow := .flowing }, s.shape) := by
  rcases h with h | h
  · rw [show ({ k with flow := .flowing } : Control) = k by rw [← h]]
    exact .refl
  · exact .single (Inner.stir h)

/-- `concludeIfDue`, asked while the dirty flag is set: the game is over, or nobody has won yet, or
an open outcome may still change who does. -/
theorem Runs.concludeIfDue (n : Nat) (hflow : k.flow = .flowing ∨ k.running = none)
    (hclearing : k.clearing = false) (hdirty : s.dirty = true) :
    Runs T (HereToSlaughter.concludeIfDue T.toTable (emit T.toTable n)) (fun ended k' s' =>
      (k' = k ∨ ended = true ∧ k' = { k with flow := .flowing }) ∧ s'.draining = s.draining ∧
      s'.turnManager.actionQueue = s.turnManager.actionQueue ∧
      (s'.gs.board.players = s.gs.board.players ∧ s'.gs.board.parties = s.gs.board.parties) ∧
      (ended = true → s'.gs.board.gamePhase = .concluded ∧
        (s.gs.board.gamePhase = .concluded ∧ s'.gs = s.gs ∨ s'.gs.pipelines = [])) ∧
      (ended = false → s'.gs = s.gs ∧ s'.turnManager = s.turnManager ∧
        s'.gs.board.gamePhase ≠ .concluded ∧
        (s'.gs.hasPendingOutcome = true ∨
          checkWinConditions T.toTable s'.gs.board = none))) k s := by
  refine .bind (.reads rfl (.ite (fun hphase => ?_) fun hphase => ?_))
  · exact .pure ⟨.inl rfl, rfl, rfl, ⟨rfl, rfl⟩, fun _ => ⟨hphase, .inl ⟨hphase, rfl⟩⟩,
      fun h => (nomatch h)⟩
  · refine .bind (.reads rfl (.ite (fun hpending => ?_) fun hpending => ?_))
    · simp only [hdirty, Bool.not_true, Bool.false_or] at hpending
      exact .pure ⟨.inl rfl, rfl, rfl, ⟨rfl, rfl⟩, fun h => (nomatch h),
        fun _ => ⟨rfl, rfl, hphase, .inl hpending⟩⟩
    · simp only [hdirty, Bool.not_true, Bool.false_or, Bool.not_eq_true] at hpending
      refine .bind (.unseen (t := { s with dirty := false }) rfl rfl ?_)
      split
      · rename_i hnone
        exact .pure ⟨.inl rfl, rfl, rfl, ⟨rfl, rfl⟩, fun h => (nomatch h),
          fun _ => ⟨rfl, rfl, hphase, .inr hnone⟩⟩
      · rename_i winnerId hwins
        refine .bind (clock TurnManagerState.stopClock_rest fun s₁ h₁ _ => .bind ?_)
        have hgs : s₁.gs = s.gs := h₁.gs
        refine .before (Inner.stirred hflow) ?_
        refine (conclude (k := { k with flow := .flowing }) n rfl hclearing (hgs ▸ hphase)
          (hgs ▸ hpending) (hgs ▸ hwins)).mono ?_
        rintro _ _ s₂ ⟨rfl, hdraining, hqueue, hboard, hpipelines, -, hawaits⟩
        have hover : s₂.gs.board.gamePhase = .concluded := by rw [hboard]
        refine .bind ((emit_concluded n (.gameEnded winnerId) rfl (by simp [GameEvent.gameEnded])
          (by simp [GameEvent.gameEnded]) (fun _ => hawaits) hover).mono ?_)
        rintro _ _ s₃ ⟨rfl, h₃⟩
        refine .pure
          ⟨.inr ⟨rfl, rfl⟩, ?_, ?_, ?_, fun _ => ⟨h₃.gs ▸ hover, .inr (h₃.gs ▸ hpipelines)⟩,
            fun h => (nomatch h)⟩
        · exact h₃.draining.trans (hdraining.trans h₁.draining)
        · exact h₃.queue.trans (hqueue.trans h₁.queue)
        · rw [h₃.gs, hboard, hgs]
          exact ⟨rfl, rfl⟩

/-! ## Effects and pipelines -/

/-- The board without the effects that end. -/
def Board.retire (expired : List (String × Effect)) (b : Board) : Board :=
  expired.foldl (fun b e => b.removeEffect e.1 e.2.id) b

/-- The world without them. -/
def World.retire (expired : List (String × Effect)) (w : World) : World :=
  { w with gs := w.gs.modifyBoard (Board.retire expired) }

/-- Effects end one by one. -/
theorem retire_path (expired : List (String × Effect)) :
    ∀ s : World, (innerSystem T).Path (k, s.shape) (k, (s.retire expired).shape) := by
  induction expired with
  | nil => exact fun s => .refl
  | cons e expired ih =>
    intro s
    refine .head ?_ (ih (s.retire [e]))
    exact Inner.edit (Edit.retire (k := k) (s := s.shape) e.1 e.2.id)

/-- Effects that are retired leave the parties alone. -/
theorem retire_parties (expired : List (String × Effect)) :
    ∀ b : Board, (b.retire expired).parties = b.parties := by
  induction expired with
  | nil => exact fun _ => rfl
  | cons e expired ih => exact fun b => (ih _).trans rfl

/-- The sources an event starts come from the rules. -/
theorem matchedSources_starts {rules : Rules} {b : Board} {event : GameEvent}
    {source : AbilitySource}
    (h : source ∈ matchedSources rules b event) : rules.Starts event.type source.steps := by
  have hmatched : source ∈ (abilitySources rules b).filter fun source =>
      triggerMatches b source event := by
    simp only [matchedSources, List.mem_append, List.mem_filter] at h ⊢
    exact h.elim And.left And.left
  obtain ⟨hsource, hmatches⟩ := List.mem_filter.1 hmatched
  have hon : source.trigger.on = event.type := by
    simp only [triggerMatches, Bool.and_eq_true, decide_eq_true_eq] at hmatches
    exact hmatches.1.1
  have hcard : ∀ cardId ownerId, source ∈ cardAbilities rules cardId ownerId →
      rules.Starts event.type source.steps := by
    intro cardId ownerId hmem
    obtain ⟨rule, hrule, rfl⟩ := List.mem_map.1 hmem
    exact ⟨rule, .inl ⟨cardId, hrule⟩, hon, rfl⟩
  have hsystem : ∀ {l : List GameRule} {cardId ownerId : String},
      (∀ rule ∈ l, rule ∈ rules.heroRules ∨ rule ∈ rules.instanceRules) →
      source ∈ systemRules l cardId ownerId → rules.Starts event.type source.steps := by
    intro l cardId ownerId hl hmem
    obtain ⟨rule, hrule, rfl⟩ := List.mem_map.1 hmem
    exact ⟨rule, .inr (hl rule hrule), hon, rfl⟩
  simp only [abilitySources, List.mem_append, List.mem_flatMap] at hsource
  rcases hsource with ⟨playerId, -, hsource⟩ | ⟨monsterId, -, hsource⟩
  · split at hsource
    · cases hsource
    · simp only [partySources, List.mem_append, List.mem_flatMap] at hsource
      rcases hsource with ((hsource | ⟨_, _, hsource⟩) | ⟨_, _, (hsource | hsource) | hsource⟩) |
        ⟨_, _, hsource | hsource⟩
      · exact hcard _ _ hsource
      · exact hcard _ _ hsource
      · exact hcard _ _ hsource
      · exact hsystem (fun _ h => .inl h) hsource
      · split at hsource
        · cases hsource
        · exact hcard _ _ hsource
      · exact hcard _ _ hsource
      · exact hsystem (fun _ h => .inr h) hsource
  · exact hcard _ _ hsource

/-- A pipeline is pushed for every source an event starts. -/
theorem Runs.addPipelines (event : GameEvent) {sources : List AbilitySource} {P : World → Prop}
    (hstart : ∀ source ∈ sources, T.rules.Starts event.type source.steps)
    (hflow : k.flow = .flowing) (hphase : s.gs.board.gamePhase ≠ .concluded)
    (hallows : k.Allows T.rules event.type)
    (hheard : ∀ source ∈ sources, k.StartedSince T.rules s.history) (hP : P s)
    (hpush : ∀ s pipeline n, P s → P { s with gs := s.gs.pushPipeline pipeline, nextId := n }) :
    Runs T (HereToSlaughter.addPipelines event sources)
      (fun _ k' s' => k' = k ∧ s'.gs.board = s.gs.board ∧ P s') k s := by
  have hloop : Runs T (HereToSlaughter.addPipelines event sources) (fun _ k' s' => k' = k ∧
      s'.history = s.history ∧ s'.gs.board = s.gs.board ∧ P s') k s := by
    refine Runs.forEach ⟨rfl, rfl, rfl, hP⟩ ?_
    rintro source hsource _ s₁ ⟨rfl, hhistory, hboard, hP₁⟩
    have hsource := List.mem_reverse.1 hsource
    have hrule := hstart source hsource
    have hphase₁ : s₁.gs.board.gamePhase ≠ .concluded := hboard ▸ hphase
    have hheard₁ : Control.StartedSince _ T.rules s₁.history :=
      hhistory ▸ hheard source hsource
    refine .runs rfl (.single ?_) ⟨rfl, hhistory, hboard, hpush s₁
      { pid := s₁.nextId, steps := source.steps, ctx := source.context event
        system := source.system } (s₁.nextId + 1) hP₁⟩
    exact Inner.push source.steps source.system hrule hflow hphase₁ (hallows.due _ hrule)
      (fun playerId hb => hallows.ended playerId hb _ hrule) (fun hb => hallows.before hb _ hrule)
      hheard₁
  exact hloop.mono fun _ _ _ h => ⟨h.1, h.2.2⟩

/-- No source starts on a quiet event. -/
theorem matchedSources_quiet {rules : Rules} {b : Board} {event : GameEvent}
    (h : rules.Quiet event.type) : matchedSources rules b event = [] :=
  List.eq_nil_iff_forall_not_mem.2 fun _ hs => h.starts _ (matchedSources_starts hs)

/-- No effect ends with an event no lifetime waits for. -/
theorem expiredEffects_nil {cards : Cards} {b : Board} {event : GameEvent}
    (h : ∀ expiry : EffectExpiry, expiry.on ≠ event.type) : expiredEffects cards b event = [] := by
  refine List.eq_nil_iff_forall_not_mem.2 fun e he => ?_
  simp only [expiredEffects, List.mem_flatMap, List.mem_map, List.mem_filter] at he
  obtain ⟨_, -, effect, ⟨-, hexpired⟩, -⟩ := he
  simp only [isEffectExpired, List.any_eq_true, Bool.and_eq_true, decide_eq_true_eq] at hexpired
  obtain ⟨expiry, -, hon, -⟩ := hexpired
  exact h expiry hon

end

/-! ## Events inside a drain -/

/-- A step, or the loop between two of them, is under way. -/
structure Passive (k : Control) (s : World) : Prop where
  draining : s.draining = true
  flow : k.flow = .flowing
  clearing : k.clearing = false
  unchecked : k.unchecked = true

/-- What an event inside a drain leaves as it was: the ghost, the parties, and, when nothing waits
for the event, the seats and the stack, which a game that is over loses. -/
structure Passed (T : PrintedTable) (type : GameEventType) (k : Control) (s : World)
    (k' : Control) (s' : World) : Prop where
  ghost : k' = k
  draining : s'.draining = true
  parties : s'.gs.board.parties = s.gs.board.parties
  players : T.rules.Quiet type → s'.gs.board.players = s.gs.board.players
  quiet : T.rules.Quiet type → s'.gs.pipelines = s.gs.pipelines ∨ s'.gs.pipelines = []

/-- An emitter that keeps to this. -/
def PassiveEmit (T : PrintedTable) (em : Emit) : Prop :=
  ∀ event k s, Passive k s → event.type.isOrdinary = true → k.Allows T.rules event.type →
    Runs T (em event) (fun _ k' s' => Passed T event.type k s k' s') k s

section
variable {T : PrintedTable} {k : Control} {s : World}

/-- No rule starts on an event that ends effects. -/
theorem silent_of_expired {cards : Cards} {b : Board} {event : GameEvent}
    (h : expiredEffects cards b event ≠ []) (steps : List Task) :
    ¬ T.rules.Starts event.type steps := by
  intro hstarts
  obtain ⟨e, he⟩ := List.exists_mem_of_ne_nil _ h
  simp only [expiredEffects, List.mem_flatMap, List.mem_map, List.mem_filter] at he
  obtain ⟨_, -, effect, ⟨-, hexpired⟩, -⟩ := he
  simp only [isEffectExpired, List.any_eq_true, Bool.and_eq_true, decide_eq_true_eq] at hexpired
  obtain ⟨expiry, -, hon, -⟩ := hexpired
  refine notMem_startingTypes _ ?_ (mem_startingTypes (T.printed ▸ hstarts))
  rw [← hon]
  cases expiry <;> simp [EffectExpiry.on]

/-- The effects an event ends are retired and announced. When there are any, no rule starts on the
event; when there are none, nothing happens at all. -/
theorem Runs.sweepExpired {em : Emit} (event : GameEvent) {P : Control → World → Prop}
    (hem : ¬ T.rules.Quiet event.type → ∀ effect : Effect, ∀ k s, P k s →
      Runs T (em (.effectExpired effect.ownerId effect.sourceCardId)) (fun _ => P) k s)
    (hP : ∀ expired, P k (s.retire expired)) :
    Runs T (HereToSlaughter.sweepExpired T.cards em event) (fun _ k' s' =>
      k' = k ∧ s' = s ∨ P k' s' ∧ ¬ T.rules.Quiet event.type ∧
        ∀ steps, ¬ T.rules.Starts event.type steps) k s := by
  refine .bind (.reads rfl (.bind ?_))
  by_cases hexpired : expiredEffects T.cards s.gs.board event = []
  · rw [hexpired]
    exact .unseen (t := s) rfl rfl (.pure (.inl ⟨rfl, rfl⟩))
  · have hloud : ¬ T.rules.Quiet event.type := fun hquiet =>
      hexpired (expiredEffects_nil hquiet.expires)
    refine .runs rfl (retire_path _ s) ?_
    refine (Runs.forEach (P := P) (hP _) fun e _ => hem hloud e.2).mono ?_
    exact fun _ _ _ hP' => .inr ⟨hP', hloud, silent_of_expired hexpired⟩

/-- The task manager inside a drain: effects end, pipelines are pushed, and the loop already going
is left to run them. -/
theorem taskManager_passive {em : Emit} (hem : PassiveEmit T em) {s₀ : World} {n : Nat}
    {event : GameEvent} (hk : Passive k s₀) (hallows : k.Allows T.rules event.type)
    (hresolved : event.type ≠ .frameResolved) (hpassed : Passed T event.type k s₀ k s)
    (htold : s.history = .emitted event s.gs :: s₀.history) :
    Runs T (TaskManager.onEvent T.toTable em n event)
      (fun _ k' s' => Passed T event.type k s₀ k' s') k s := by
  refine .bind (.reads rfl (.ite (fun _ => .pure hpassed) fun hphase => .bind ?_))
  have hwake : wakeOn event = pure () := by
    unfold wakeOn
    split
    · exact absurd ‹_› hresolved
    · rfl
  have hdrain : ∀ {k' : Control} {s' : World}, Passed T event.type k s₀ k' s' →
      Runs T (drain T.toTable em n) (fun _ k' s' => Passed T event.type k s₀ k' s') k' s' := by
    intro k' s' h
    refine .bind (.reads rfl (.ite (fun _ => .pure h) fun hn => ?_))
    exact absurd h.draining hn
  refine (Runs.sweepExpired (P := fun k' s' => k' = k ∧ s'.draining = true ∧
    s'.gs.board.parties = s₀.gs.board.parties) event ?_ ?_).mono ?_
  · rintro - effect _ s₁ ⟨rfl, hdraining, hparties⟩
    refine (hem _ _ _ ⟨hdraining, hk.flow, hk.clearing, hk.unchecked⟩ rfl
      ((quiet_effectExpired T).allowed _)).mono ?_
    exact fun _ _ _ h => ⟨h.ghost, h.draining, h.parties.trans hparties⟩
  · exact fun expired => ⟨rfl, hpassed.draining, (retire_parties _ _).trans hpassed.parties⟩
  · rintro _ k₁ s₁ h
    rw [hwake]
    refine .bind (.pure (.bind (.reads rfl (.bind ?_))))
    rcases h with ⟨rfl, rfl⟩ | ⟨⟨rfl, hdraining, hparties⟩, hloud, hsilent⟩
    · by_cases hquiet : T.rules.Quiet event.type
      · rw [matchedSources_quiet hquiet]
        exact .pure (hdrain hpassed)
      · have hheard : ∀ source ∈ matchedSources T.rules s₁.gs.board event,
            k₁.StartedSince T.rules s₁.history := by
          intro source hsource r _ F _
          have hsome : (matchedSources T.rules s₁.gs.board event).isEmpty = false :=
            List.isEmpty_eq_false_iff.2 (List.ne_nil_of_mem hsource)
          rw [htold, Rules.startedSince, hsome]
          rfl
        refine (Runs.addPipelines event (P := fun s => s.draining = true)
          (fun _ => matchedSources_starts) hk.flow hphase hallows hheard hpassed.draining
          fun _ _ _ h => h).mono ?_
        rintro _ _ s₂ ⟨rfl, hboard, hdraining⟩
        exact hdrain ⟨rfl, hdraining, hboard ▸ hpassed.parties, fun hq => absurd hq hquiet,
          fun hq => absurd hq hquiet⟩
    · have hnone : matchedSources T.rules s₁.gs.board event = [] :=
        List.eq_nil_iff_forall_not_mem.2 fun _ hs => hsilent _ (matchedSources_starts hs)
      rw [hnone]
      exact .pure (hdrain ⟨rfl, hdraining, hparties, fun hq => absurd hq hloud,
        fun hq => absurd hq hloud⟩)

/-- An event inside a drain, heard by everyone. -/
theorem passiveEmit (n : Nat) : PassiveEmit T (emit T.toTable n) := by
  induction n with
  | zero => exact fun _ _ _ _ _ _ => .throw _
  | succ n ih =>
    intro event k s hk hordinary hallows
    have hstart : event.type ≠ .turnStarted := by
      rintro h; simp [h, GameEventType.isOrdinary] at hordinary
    have hend : event.type ≠ .turnEnded := by
      rintro h; simp [h, GameEventType.isOrdinary] at hordinary
    have hresolved : event.type ≠ .frameResolved := by
      rintro h; simp [h, GameEventType.isOrdinary] at hordinary
    have hended : event.type ≠ .gameEnded := by
      rintro h; simp [h, GameEventType.isOrdinary] at hordinary
    refine .bind (.reads rfl (.bind ?_))
    refine .acts (t := { s with history := .emitted event s.gs :: s.history }) rfl
      (Inner.announce event s.gs_matches hk.flow hstart hend fun h => absurd h hended) ?_
    refine .bind (Runs.turnManager event fun s₁ h₁ => .bind ?_)
    have hpassed₁ : Passed T event.type k s k s₁ :=
      ⟨rfl, h₁.draining.trans hk.draining, by rw [h₁.gs], fun _ => by rw [h₁.gs],
        fun _ => .inl (by rw [h₁.gs])⟩
    have htold : s₁.history = .emitted event s₁.gs :: s.history := by rw [h₁.history, h₁.gs]
    refine (taskManager_passive ih hk hallows hresolved hpassed₁ htold).mono ?_
    rintro _ k s₂ ⟨rfl, hdraining₂, hparties₂, hplayers₂, hquiet₂⟩
    refine .bind (.bind (.unseen (t := { s₂ with dirty := true }) rfl rfl (.bind ?_)))
    refine (Runs.concludeIfDue n (.inl hk.flow) hk.clearing rfl).mono ?_
    rintro ended k₃ s₃ ⟨hghost₃, hdraining₃, -, ⟨hplayers₃, hparties₃⟩, hover, hgoes⟩
    obtain rfl : k = k₃ := (hghost₃.elim id fun h => h.2.trans (by rw [← hk.flow])).symm
    have hpassed₃ : Passed T event.type k s k s₃ := by
      refine ⟨rfl, hdraining₃.trans hdraining₂, hparties₃.trans hparties₂,
        fun hq => hplayers₃.trans (hplayers₂ hq), fun hq => ?_⟩
      cases ended with
      | false => rw [(hgoes rfl).1]; exact hquiet₂ hq
      | true =>
        rcases (hover rfl).2 with ⟨-, hgs⟩ | hnil
        · rw [hgs]; exact hquiet₂ hq
        · exact .inr hnil
    have hlog : Runs T (GameLog.onEvent T.cards event)
        (fun _ k' s' => Passed T event.type k s k' s') k s₃ := by
      refine Runs.log event fun s₄ h₄ => ?_
      refine ⟨rfl, h₄.draining.trans hpassed₃.draining, ?_, ?_, ?_⟩
      · rw [h₄.gs]; exact hpassed₃.parties
      · rw [h₄.gs]; exact hpassed₃.players
      · rw [h₄.gs]; exact hpassed₃.quiet
    refine .ite (fun _ => .pure hlog) fun _ => ?_
    split
    · exact absurd ‹_› hend
    · exact absurd ‹_› hresolved
    · exact .pure hlog

end

end HereToSlaughter
