import HereToSlaughter.Machine.Inner
import HereToSlaughter.Refine.Actions

/-!
# Turns, as the machine sees them

The queue is run down, a turn ends and the next one begins, and a frame that has settled wakes what
waited on it. Each of these is a step of an input, with the events it announces around it.

Reference: `pipelines/turn-manager.ts`, `game-engine.ts`.
-/

namespace HereToSlaughter

open Lib EngineM

/-! ## Programs of an input -/

/-- `m` runs along the steps of an input. -/
abbrev Goes {α : Type} (T : PrintedTable) (m : EngineM α) (Q : α → Control → World → Prop)
    (k : Control) (s : World) : Prop := Tracks World.shape (outerSystem T) m Q k s

namespace Goes

variable {T : PrintedTable} {α : Type} {k : Control} {s : World}

/-- What runs inside an input takes inner steps. -/
theorem within {m : EngineM α} {Q : α → Control → World → Prop} (h : Runs T m Q k s) :
    Goes T m (fun a k' s' => Q a k' s' ∧ (innerSystem T).Path (k, s.shape) (k', s'.shape)) k s :=
  (h.along fun _ _ _ hpath hq => ⟨hq, hpath⟩).weaken (fun _ _ => Outer.inner) fun _ hinv => hinv

/-- It passes no turn on. -/
theorem inner {m : EngineM α} {Q : α → Control → World → Prop} (h : Runs T m Q k s) :
    Goes T m (fun a k' s' => Q a k' s' ∧ SameTurn (k, s.shape) (k', s'.shape)) k s :=
  (within h).mono fun _ _ _ hq => ⟨hq.1, SameTurn.path hq.2⟩

/-- What runs goes. -/
theorem of {m : EngineM α} {Q : α → Control → World → Prop} (h : Runs T m Q k s) : Goes T m Q k s :=
  (inner h).mono fun _ _ _ hq => hq.1

/-- A failure ends the run. -/
theorem fail {message : String} {Q : α → Control → World → Prop} :
    Goes T (EngineM.fail message) Q k s := .throw _

/-- A check that throws ends the run. -/
theorem orThrow {x : Except EngineError α} {Q : α → Control → World → Prop}
    (h : ∀ a, x = .ok a → Q a k s) : Goes T (EngineM.orThrow x) Q k s := by
  cases x with
  | ok a => exact .pure (h a rfl)
  | error e => exact .throw e

/-- A player that is not there ends the run. -/
theorem requirePlayer {playerId : String} {Q : Player → Control → World → Prop}
    (h : ∀ player, s.gs.board.players.get? playerId = some player → Q player k s) :
    Goes T (EngineM.requirePlayer playerId) Q k s := by
  refine (of (Runs.requirePlayer (Q := fun player k' s' => k' = k ∧ s' = s ∧
    s.gs.board.players.get? playerId = some player) fun _ hplayer => ⟨rfl, rfl, hplayer⟩)).mono ?_
  rintro player _ _ ⟨rfl, rfl, hplayer⟩
  exact h player hplayer

/-- A party that is not there ends the run. -/
theorem getParty {playerId : String} {Q : Party → Control → World → Prop}
    (h : ∀ party, s.gs.board.parties.get? playerId = some party → Q party k s) :
    Goes T (EngineM.getParty playerId) Q k s := by
  refine (of (Runs.getParty (Q := fun party k' s' => k' = k ∧ s' = s ∧
    s.gs.board.parties.get? playerId = some party) fun _ hparty => ⟨rfl, rfl, hparty⟩)).mono ?_
  rintro party _ _ ⟨rfl, rfl, hparty⟩
  exact h party hparty

end Goes

/-- A wake, in the shape. -/
theorem GameState.pipelineShapes_wake (gs : GameState) (frameId : Nat)
    (writes : List ContextWrite) :
    (gs.wake frameId writes).pipelineShapes = HereToSlaughter.wake frameId gs.pipelineShapes := by
  simp only [GameState.wake, HereToSlaughter.wake, pipelineShapes, List.map_map]
  refine List.map_congr_left fun p _ => ?_
  by_cases hp : p.pausedOn = some frameId
  · simp [AbilityPipeline.shape, hp]
  · simp [AbilityPipeline.shape, hp]

/-! ## Between two inputs -/

/-- Nothing is half-way. -/
structure Control.Calm (k : Control) : Prop where
  clear : k.Clear
  settling : k.settling = .none
  between : k.between = .playing

/-- No action waits on an idle board: the queue is empty, unless a window is open, the game is over
or it is nobody's turn. -/
def Served (s : World) : Prop :=
  s.gs.board.gamePhase = .concluded ∨ s.gs.board.currentPlayerId = none ∨
    s.gs.hasOpenFrames = true ∨ s.turnManager.actionQueue = []

namespace Served

variable {k k' : Control} {s s' : World}

/-- The board may change, and the windows as far as they stay open. -/
theorem of_frames (h : Served s) (hphase : s'.gs.board.gamePhase = s.gs.board.gamePhase)
    (hcurrent : s'.gs.board.currentPlayerId = s.gs.board.currentPlayerId)
    (hframes : s'.gs.frameShapes = s.gs.frameShapes)
    (hqueue : s'.turnManager.actionQueue = s.turnManager.actionQueue) : Served s' := by
  have hopen : s'.gs.hasOpenFrames = s.gs.hasOpenFrames := by
    rw [← GameState.hasOpenFrames_shape, ← GameState.hasOpenFrames_shape, Shape.hasOpenFrames,
      Shape.hasOpenFrames]
    exact congrArg (List.any · FrameShape.hasOpenWindow) hframes
  exact h.imp hphase.trans (.imp hcurrent.trans (.imp hopen.trans hqueue.trans))

/-- The turn manager may change besides its queue. -/
theorem congr (h : Served s) (hgs : s'.gs = s.gs)
    (hqueue : s'.turnManager.actionQueue = s.turnManager.actionQueue) : Served s' :=
  h.of_frames (by rw [hgs]) (by rw [hgs]) (by rw [hgs]) hqueue

/-- What is worked off inside an input serves what was served. -/
theorem sameTurn {cards : Cards} (h : Served s) (hsound : Sound cards (k, s.shape))
    (hclearing : k.clearing = false) (hturn : SameTurn (k, s.shape) (k', s'.shape)) :
    Served s' := by
  have hawaited : s.gs.hasOpenFrames = true ∨ s.gs.board.gamePhase = .concluded → Served s' := by
    intro hwaits
    rw [← GameState.hasOpenFrames_shape] at hwaits
    have hends := (hturn.awaited ⟨hsound.ids.frames_lt, fun hc => (nomatch hclearing.symm.trans hc),
      hwaits⟩).waits
    obtain hopen | hphase := hends
    · exact .inr (.inr (.inl ((GameState.hasOpenFrames_shape s').symm.trans hopen)))
    · exact .inl hphase
  obtain hphase | hnobody | hopen | hqueue := h
  · exact hawaited (.inr hphase)
  · exact .inr (.inl (hturn.current.trans hnobody))
  · exact hawaited (.inl hopen)
  · exact .inr (.inr (.inr (hturn.queue.trans hqueue)))

end Served

/-- The table is at rest. -/
structure Rest (k : Control) (s : World) : Prop where
  calm : k.Calm
  going : Going .outside k s
  served : Served s

namespace At

variable {d : Mode} {k₀ k : Control} {s : World}

/-- Control that was clear is clear. -/
theorem clear (h : At d k₀ k s) (hk : k₀.Clear) : k.Clear := by
  obtain ⟨-, _, _, rfl⟩ := h
  exact ⟨hk.1, hk.2, hk.3, hk.4, hk.5, hk.6⟩

/-- The same frame is settling. -/
theorem settling (h : At d k₀ k s) : k.settling = k₀.settling := by
  obtain ⟨-, _, _, rfl⟩ := h; rfl

/-- Control that was calm is calm. -/
theorem calm (h : At d k₀ k s) (hk : k₀.Calm) : k.Calm :=
  ⟨h.clear hk.clear, h.settling.trans hk.settling, h.between.trans hk.between⟩

/-- Outside a drain the engine rests once the queue has been served. -/
theorem rest (h : At .outside k₀ k s) (hk : k₀.Calm) (hserved : Served s) : Rest k s :=
  ⟨h.calm hk, h.going, hserved⟩

end At

/-- Between two inputs every open frame holds an open window. -/
theorem Control.Calm.windowed {cards : Cards} {k : Control} {s : World}
    (hsound : Sound cards (k, s.shape)) (hcalm : k.Calm) :
    ∀ f ∈ s.shape.frames, f.hasOpenWindow = true := by
  intro f hf
  obtain hopen | hclearing | ⟨o, ho, -⟩ | ⟨subject, hsettling⟩ := hsound.windows.windowed f hf
  · exact hopen
  · exact nomatch hcalm.clear.clearing.symm.trans hclearing
  · exact nomatch hcalm.clear.opening ▸ ho
  · exact nomatch hcalm.settling.symm.trans hsettling

/-- Once the drain has stopped, a table with no open window has nothing on the stack. -/
theorem Control.Calm.idle {cards : Cards} {k : Control} {s : World}
    (hsound : Sound cards (k, s.shape)) (hcalm : k.Calm) (hflow : k.flow ≠ .flowing)
    (hopen : s.gs.hasOpenFrames = false) : s.gs.pipelines = [] := by
  have hnone : s.shape.frames = [] := by
    refine List.eq_nil_iff_forall_not_mem.2 fun f hf => ?_
    rw [← GameState.hasOpenFrames_shape, Shape.hasOpenFrames, List.any_eq_false] at hopen
    exact hopen f hf (hcalm.windowed hsound f hf)
  have hhalted : s.shape.pipelines = [] ∨ ∃ p, s.shape.top = some p ∧ p.pausedOn.isSome := by
    cases hstopped : k.flow with
    | flowing => exact absurd hstopped hflow
    | halted => exact hsound.stack.halted hstopped
    | cut F =>
      obtain ⟨f, hf, -⟩ := hsound.stack.cut F hstopped
      rw [hnone] at hf
      cases hf
  obtain hnil | ⟨p, htop, hpaused⟩ := hhalted
  · exact List.map_eq_nil_iff.1 hnil
  · obtain ⟨F, hF⟩ := Option.isSome_iff_exists.1 hpaused
    obtain ⟨f, hf, -⟩ | hgone :=
      hsound.stack.paused p (List.mem_of_mem_head? htop) F hF
    · rw [hnone] at hf
      cases hf
    · cases hcalm.settling.symm.trans hgone

/-- The program forgets the frame that settled. -/
theorem At.settled {d : Mode} {k₀ k : Control} {s : World} (h : At d k₀ k s) :
    At d { k₀ with settling := .none } { k with settling := .none } s := by
  obtain ⟨hgoing, flow, unchecked, rfl⟩ := h
  exact ⟨⟨hgoing.1, hgoing.2, hgoing.3, hgoing.4, fun hd => ⟨(hgoing.5 hd).1, (hgoing.5 hd).2⟩⟩,
    _, _, rfl⟩

/-- The engine at rest is outside a drain. -/
theorem Rest.start {k : Control} {s : World} (h : Rest k s) : At .outside k k s := .start h.going

/-- What lies beside the game state and the queue may change. -/
theorem Rest.aside {k : Control} {s t : World} (h : Rest k s) (haside : Aside s t) : Rest k t :=
  ⟨h.calm, (h.start.congr haside.draining).going, h.served.congr haside.gs haside.queue⟩

/-- No rule starts on the beginning or the end of a turn. -/
theorem silent_turn {type : GameEventType} (T : PrintedTable)
    (h : type = .turnStarted ∨ type = .turnEnded) (steps : List Task) :
    ¬ T.rules.Starts type steps := fun hstarts =>
  notMem_startingTypes type (by rcases h with rfl | rfl <;> simp)
    (mem_startingTypes (T.printed ▸ hstarts))

/-- What `GameEngine.onEvent` answers an event with in a game that goes on. -/
def GameEngine.answer (T : Table) (em : Emit) (fuel : Nat) (event : GameEvent) : EngineM Unit :=
  match event.type with
  | .turnEnded => startNextTurn T em event.playerId
  | .frameResolved => TurnManager.drain T em fuel
  | _ => pure ()

section
variable {T : PrintedTable} {k₀ k : Control} {s : World}

namespace Goes

/-- The engine and the log hear an event once its pipelines have run: the win conditions are looked
at, and a game that goes on gets its answer. -/
theorem judge (n : Nat) {event : GameEvent} {P : Control → World → Prop} (h : At .amid k₀ k s)
    (hflow : k.flow ≠ .flowing) (haside : ∀ k s s', P k s → Aside s s' → P k s')
    (hanswer : ∀ k' s', At .outside k₀ k' s' → s'.gs.board.gamePhase ≠ .concluded →
      SameTurn (k, s.shape) (k', s'.shape) →
      Goes T (GameEngine.answer T.toTable (emit T.toTable n) n event) (fun _ => P) k' s')
    (hover : ∀ k' s', At .outside k₀ k' s' → s'.gs.board.gamePhase = .concluded → P k' s') :
    Goes T (do
      GameEngine.onEvent T.toTable (emit T.toTable n) n event
      GameLog.onEvent T.cards event) (fun _ => P) k s := by
  have hlog : ∀ {k' s'}, P k' s' → Goes T (GameLog.onEvent T.cards event) (fun _ => P) k' s' :=
    fun hP => of (Runs.log event fun s₁ h₁ => haside _ _ s₁ hP h₁)
  refine .bind (.bind (.unseen (t := { s with dirty := true }) rfl rfl (.bind ?_)))
  refine (inner (Runs.checkWins (s := { s with dirty := true }) n (h.congr rfl) hflow rfl)).mono ?_
  rintro ended k₁ s₁ ⟨⟨h₁, -, hwon, hgoes⟩, hturn⟩
  cases ended with
  | true => exact .pure (hlog (hover k₁ s₁ h₁ (hwon rfl).1))
  | false => exact (hanswer k₁ s₁ h₁ (hgoes rfl).2.2 hturn).mono fun _ _ _ hP => hlog hP

/-- An event of a turn is heard. -/
theorem hear (n : Nat) {event : GameEvent} {P : Control → World → Prop} (h : At .amid k₀ k s)
    (hallows : k₀.Allows T.rules event.type) (hresolved : event.type ≠ .frameResolved)
    (hlanded : k₀.inFlight = []) (haside : ∀ k s s', P k s → Aside s s' → P k s')
    (hanswer : ∀ k' s', At .outside k₀ k' s' → s'.gs.board.gamePhase ≠ .concluded →
      SameTurn (k, s.shape) (k', s'.shape) →
      Goes T (GameEngine.answer T.toTable (emit T.toTable n) n event) (fun _ => P) k' s')
    (hover : ∀ k' s', At .outside k₀ k' s' → s'.gs.board.gamePhase = .concluded → P k' s') :
    Goes T (HereToSlaughter.hear T.toTable (emit T.toTable n) n event) (fun _ => P) k s := by
  refine .bind ((inner (Runs.turnManager (Q := fun _ => At .amid k₀) event fun s₁ h₁ =>
    h.congr h₁.draining)).mono ?_)
  rintro _ k₁ s₁ ⟨h₁, hturn₁⟩
  refine .bind ((inner (Runs.taskManager (passiveEmit n).hears (Runs.activeEmit n) h₁ hallows
    hresolved (.inr (.inl hlanded)))).mono ?_)
  rintro _ k₂ s₂ ⟨⟨h₂, hflow₂, -⟩, hturn₂⟩
  exact judge n h₂ hflow₂ haside
    (fun k' s' h' hphase hturn' => hanswer k' s' h' hphase
      ((hturn₁.trans hturn₂).trans hturn')) hover

/-! ## Turns begin and end -/

/-- The clock of a turn that begins. -/
theorem turn_startTurn (now : Nat) (tm : TurnManagerState) :
    (({ tm with phase := .action, turn := tm.turn + 1 } : TurnManagerState).stopClock now).turn =
      tm.turn + 1 ∧
    (({ tm with
        phase := .action, turn := tm.turn + 1 } : TurnManagerState).stopClock now).actionQueue =
      tm.actionQueue := by
  obtain ⟨hqueue, hturn, -⟩ := TurnManagerState.stopClock_rest now
    { tm with phase := .action, turn := tm.turn + 1 }
  exact ⟨hturn, hqueue⟩

/-- `TurnManager.startTurn`, of a seat whose turn it is next. -/
theorem startTurn (n : Nat) {playerId : String} (h : At .amid k₀ k s) (hk : k₀.Clear)
    (hsettling : k₀.settling = .none) (hseated : s.gs.board.isSeated playerId = true)
    (hnext : (k₀.between = .before ∧ s.playerOrder.head? = some playerId) ∨
      ∃ last, k₀.between = .ended last ∧ s.gs.board.gamePhase ≠ .concluded ∧
        nextSeat s.playerOrder last = some playerId) :
    Goes T (HereToSlaughter.startTurn T.toTable (emit T.toTable n) playerId)
      (fun _ k' s' => At .outside { k₀ with between := .playing } k' s' ∧
        (s.turnManager.actionQueue = [] → Served s')) k s := by
  refine .bind (.reads rfl (.ite (fun _ => ?_) fun hn => absurd hseated hn))
  cases n with
  | zero => exact .fails rfl
  | succ n =>
    let gs := s.gs.modifyBoard (Board.startTurn playerId)
    let tm : TurnManagerState :=
      { ({ s.turnManager with phase := .action, turn := s.turnManager.turn + 1 } :
          TurnManagerState).stopClock s.now with
        remainingMs := T.config.turnTimeMs.map Int.ofNat }
    let t : World := { s with
      gs, turnManager := tm, history := .emitted (.turnStarted playerId) gs :: s.history }
    obtain ⟨hturn, hqueue⟩ := turn_startTurn s.now s.turnManager
    have hshape : t.shape = { s.shape with
        board := s.gs.board.startTurn playerId
        turn := s.turnManager.turn + 1
        history := .emitted (.turnStarted playerId) gs :: s.history } := by
      simp only [World.shape, t, tm, hturn, hqueue]
      rfl
    have hstep : Outer T.toTable (k, s.shape)
        ({ k with between := .playing, flow := .flowing }, t.shape) :=
      hshape ▸ Outer.startTurn (h.clear hk) (h.settling.trans hsettling) rfl hseated
        (h.between ▸ hnext)
    refine .leap rfl (.single hstep) (n := do
      HereToSlaughter.hear T.toTable (emit T.toTable n) n (.turnStarted playerId)
      HereToSlaughter.syncClock) ?_
    have h₁ : At .amid { k₀ with between := .playing }
        { k with between := .playing, flow := .flowing } t := by
      obtain ⟨hgoing, flow, unchecked, rfl⟩ := h
      exact ⟨.amid (by simpa using hgoing.draining) hgoing.clearing (hgoing.outside (by simp)),
        _, _, rfl⟩
    have haside : ∀ {k' s' t}, At .outside { k₀ with between := .playing } k' s' ∧
        (s.turnManager.actionQueue = [] → Served s') → Aside s' t →
        At .outside { k₀ with between := .playing } k' t ∧
          (s.turnManager.actionQueue = [] → Served t) :=
      fun hP haside =>
        ⟨hP.1.congr haside.draining, fun hnil => (hP.2 hnil).congr haside.gs haside.queue⟩
    refine .bind ((hear n (P := fun k' s' => At .outside { k₀ with between := .playing } k' s' ∧
        (s.turnManager.actionQueue = [] → Served s')) h₁
      (Control.allows_playing rfl (by exact hk.due) ..)
        (by simp [GameEvent.turnStarted]) hk.inFlight
      (fun _ _ _ => haside) ?_ fun _ _ h' hphase => ⟨h', fun _ => .inl hphase⟩).mono ?_)
    · exact fun _ _ h' _ hturn => .pure ⟨h', fun hnil =>
        .inr (.inr (.inr (hturn.queue.trans (hqueue.trans hnil))))⟩
    · exact fun _ _ _ h' => of (Runs.syncClock fun _ => haside h')

/-- A table with a seat has a next seat. -/
theorem nextSeat_some {order : List String} (last : String) (h : order ≠ []) :
    ∃ playerId ∈ order, nextSeat order last = some playerId := by
  have hlt : ∀ i, i % order.length < order.length := fun i =>
    Nat.mod_lt i (List.length_pos_of_ne_nil h)
  exact ⟨_, List.getElem_mem (hlt _), List.getElem?_eq_getElem (hlt _)⟩

/-- `GameEngine.startNextTurn`. -/
theorem startNextTurn (n : Nat) {last : String} (h : At .outside k₀ k s) (hk : k₀.Clear)
    (hsettling : k₀.settling = .none) (hended : k₀.between = .ended last)
    (hseats : s.playerOrder ≠ []) (hphase : s.gs.board.gamePhase ≠ .concluded)
    (hqueue : s.turnManager.actionQueue = []) :
    Goes T (HereToSlaughter.startNextTurn T.toTable (emit T.toTable n) last)
    (fun _ => Rest) k s := by
  refine .assuming fun hsound => .bind (.reads rfl ?_)
  obtain ⟨playerId, hmem, hnext⟩ := nextSeat_some last hseats
  rw [hnext]
  have hseated : s.gs.board.isSeated playerId = true := hsound.seats.board.isSeated.2 hmem
  refine (startTurn n h.loosen hk hsettling hseated (.inr ⟨last, hended, hphase, hnext⟩)).mono ?_
  exact fun _ _ _ h' =>
    h'.1.rest ⟨⟨hk.1, hk.2, hk.3, hk.4, hk.5, hk.6⟩, hsettling, rfl⟩ (h'.2 hqueue)

/-- `TurnManager.endTurn`, of a seat that has spent its points on an idle board. -/
theorem endTurn (n : Nat) {playerId : String} {player : Player} (h : At .outside k₀ k s)
    (hk : k₀.Calm) (hqueue : s.turnManager.actionQueue = [])
    (hcurrent : s.gs.board.currentPlayerId = some playerId)
    (hstarted : (turnMarks s.history).head? = some (.started playerId))
    (hplayer : s.gs.board.players.get? playerId = some player) (hpoints : player.actionPoints ≤ 0)
    (hbusy : s.gs.isBusy = false) :
    Goes T (HereToSlaughter.endTurn (emit T.toTable n)) (fun _ => Rest) k s := by
  refine .bind ((inner (Runs.clock (Q := fun _ k' s' => k' = k ∧ Aside s s')
    TurnManagerState.stopClock_rest fun _ haside _ => ⟨rfl, haside⟩)).mono ?_)
  rintro _ k' s₁ ⟨⟨hghost, haside⟩, hturn⟩
  obtain rfl : k = k' := hghost.symm
  have h₁ : At .outside k₀ k s₁ := h.congr haside.draining
  have hcurrent₁ : s₁.gs.board.currentPlayerId = some playerId := by rw [← hcurrent, ← haside.gs]
  cases n with
  | zero => exact .fails rfl
  | succ n =>
    have hbusy₁ : s₁.shape.isBusy = false := by
      rw [GameState.isBusy_shape, ← hbusy, ← haside.gs]
    have hplayer₁ : s₁.gs.board.players.get? playerId = some player := by
      rw [← hplayer, ← haside.gs]
    have hqueue₁ : s₁.turnManager.actionQueue = [] := haside.queue.trans hqueue
    -- the slots of the turn are cleared before its end goes out
    let s₂ : World := { s₁ with
      gs := s₁.gs.modifyBoard Board.clearUsedAbilities
      turnManager := { s₁.turnManager with phase := .end } }
    let s₄ : World := { s₂ with history := .emitted (.turnEnded playerId) s₂.gs :: s₂.history }
    have hstep : Outer T.toTable (k, s₁.shape)
        ({ k with between := .ended playerId, flow := .flowing }, s₄.shape) :=
      Outer.endTurn (h₁.clear hk.clear) (h₁.settling.trans hk.settling) s₂.gs_matches
        (h₁.between.trans hk.between) hqueue₁ hcurrent₁
        ((congrArg List.head? hturn.marks).trans hstarted) hplayer₁ hpoints hbusy₁
    refine .assuming fun hsound => .leap (t := s₄)
      (n := HereToSlaughter.hear T.toTable (emit T.toTable n) n (.turnEnded playerId))
      ?_ (.single hstep) ?_
    · have hsame : (s₁.gs.modifyBoard Board.clearUsedAbilities).board.currentPlayerId.getD "" =
          playerId := by
        rw [show (s₁.gs.modifyBoard Board.clearUsedAbilities).board.currentPlayerId =
          s₁.gs.board.currentPlayerId from rfl, hcurrent₁, Option.getD_some]
      simp only [s₄, s₂, ← hsame]
      rfl
    have hseats : s₁.playerOrder ≠ [] := by
      intro hnil
      have hkeys : s₁.gs.board.players.keys = [] := hsound.seats.board.players.trans hnil
      have hmem : playerId ∈ s₁.gs.board.players.keys :=
        OrderedMap.get?_isSome.1 (by rw [hplayer₁]; rfl)
      rw [hkeys] at hmem
      cases hmem
    let k₁ : Control := { k₀ with between := .ended playerId }
    have h₄ : At .amid k₁ { k with between := .ended playerId, flow := .flowing } s₄ := by
      obtain ⟨hgoing, flow, unchecked, rfl⟩ := h₁
      exact ⟨.amid (by simpa using hgoing.draining) hgoing.clearing (hgoing.outside (by simp)),
        _, _, rfl⟩
    have hclear : k₁.Clear :=
      ⟨hk.clear.1, hk.clear.2, hk.clear.3, hk.clear.4, hk.clear.5, hk.clear.6⟩
    have hallows : k₁.Allows T.rules (GameEvent.turnEnded playerId).type :=
      ⟨fun hb => (nomatch hb), fun _ _ => silent_turn T (.inr rfl), fun _ _ => hclear.due⟩
    -- a game that is over begins no other turn
    refine .after ((hear n (P := fun k' s' => Rest k' s' ∨
      At .outside k₁ k' s' ∧ s'.gs.board.gamePhase = .concluded) h₄ hallows
      (by simp [GameEvent.turnEnded]) hclear.inFlight ?_ ?_ ?_).mono ?_)
    · rintro k' s' t (hrest | ⟨hat, hphase⟩) haside'
      · exact .inl (hrest.aside haside')
      · exact .inr ⟨hat.congr haside'.draining, by rw [haside'.gs]; exact hphase⟩
    · intro k' s' h' hphase hturn
      refine (startNextTurn n h' hclear hk.settling rfl ?_ hphase
        (hturn.queue.trans hqueue₁)).mono fun _ _ _ hrest => .inl hrest
      exact fun hnil => hseats (hturn.playerOrder.symm.trans hnil)
    · exact fun k' s' h' hphase => .inr ⟨h', hphase⟩
    · rintro _ k' s' (hrest | ⟨hat, hphase⟩)
      · exact ⟨k', .refl, hrest⟩
      · refine ⟨{ k' with between := .playing }, .single (Outer.adrift (hat.clear hclear)
          (hat.settling.trans hk.settling) (.inl hphase)), ?_⟩
        obtain ⟨hgoing, flow, unchecked, rfl⟩ := hat
        exact ⟨⟨⟨hclear.1, hclear.2, hclear.3, hclear.4, hclear.5, hclear.6⟩, hk.settling, rfl⟩,
          ⟨hgoing.1, hgoing.2, hgoing.3, hgoing.4, fun hd => ⟨(hgoing.5 hd).1, (hgoing.5 hd).2⟩⟩,
          .inl hphase⟩

/-! ## The queue -/

/-- One action off the front of the queue, over an idle board. -/
theorem runQueued (n : Nat) {fuel : Nat} {action : Action} {queue : List Action}
    {playerId : String} (h : At .outside k₀ k s) (hk : k₀.Calm)
    (hqueue : s.turnManager.actionQueue = action :: queue)
    (hstarted : (turnMarks s.history).head? = some (.started playerId))
    (hbusy : s.gs.isBusy = false) :
    Goes T (HereToSlaughter.runQueued T.toTable (emit T.toTable n) fuel action queue)
      (fun _ k' s' => At .outside k₀ k' s' ∧
        s'.gs.board.currentPlayerId = s.gs.board.currentPlayerId ∧
        turnMarks s'.history = turnMarks s.history) k s := by
  refine .bind (.reads rfl (.bind (orThrow fun check hcheck => ?_)))
  by_cases haccepted : check.isAccepted = true
  · have hcan : action.canExecute T.toTable s.gs.board = .ok .accepted :=
      RequestResult.isAccepted_iff.1 haccepted ▸ hcheck
    let t : World := { s with
      turnManager := { s.turnManager with actionQueue := queue }
      history := .executed action s.turnManager.turn s.gs :: s.history }
    let k₁ : Control := { k₀ with due := action.kind.slot T.cards }
    have hstep : Outer T.toTable (k, s.shape)
      ({ k with due := action.kind.slot T.cards }, t.shape) :=
      Outer.execute (h.clear hk.clear) (h.settling.trans hk.settling) (h.between.trans hk.between)
        hqueue rfl hstarted ((GameState.isBusy_shape s).trans hbusy) hcan
    have hempty : s.gs.pipelines = [] := by
      simp only [GameState.isBusy, Bool.or_eq_false_iff, Bool.not_eq_false',
        List.isEmpty_iff] at hbusy
      exact hbusy.2
    have hmay : MayOpen k₀ t :=
      ⟨⟨hk.between, fun r hr => (by cases hk.clear.running.symm.trans hr), fun _ => hempty⟩,
        hk.clear.inFlight, hk.clear.due⟩
    have hat : At .outside k₁ { k with due := action.kind.slot T.cards } t := by
      obtain ⟨hgoing, flow, unchecked, rfl⟩ := h
      exact ⟨⟨hgoing.draining, hgoing.clearing, hgoing.inside, hgoing.outside,
        fun hd => ⟨(hgoing.rested hd).flow, (hgoing.rested hd).checked⟩⟩, flow, unchecked, rfl⟩
    refine .leap (t := t) (n := action.execute T.toTable (emit T.toTable n) fuel) ?_
      (.single hstep) ((inner (Runs.executeAction (Runs.activeEmit n) hmay hat
        List.mem_cons_self hcan)).mono ?_)
    · simp only [haccepted, if_true]
      rfl
    · exact fun _ _ _ hs => ⟨hs.1, hs.2.current, hs.2.marks⟩
  · refine .bind (.acts (l := k)
      (t := { s with turnManager := { s.turnManager with actionQueue := queue } }) rfl
      (Outer.refuse (h.clear hk.clear) hqueue : Outer T.toTable _ _)
      (.ite (fun ha => absurd ha haccepted) fun _ => ?_))
    exact .pure ⟨h.congr rfl, rfl, rfl⟩

/-- The loop of `TurnManager.drain`. -/
theorem drainQueue (n : Nat) {playerId : String} (hk : k₀.Calm) : ∀ {fuel : Nat} {k : Control}
    {s : World}, At .outside k₀ k s → s.gs.board.currentPlayerId = some playerId →
    (turnMarks s.history).head? = some (.started playerId) →
    Goes T (HereToSlaughter.drainQueue T.toTable (emit T.toTable n) playerId fuel)
    (fun _ => Rest) k s
  | 0, _, _, _, _, _ => .throw _
  | fuel + 1, k, s, h, hcurrent, hstarted => by
    refine .bind (.reads rfl ?_)
    cases hqueue : s.turnManager.actionQueue with
    | nil =>
      refine .bind (.bind (requirePlayer fun player hplayer => .pure (.bind (.reads rfl (.ite
        (fun hdue => ?_) fun _ => .pure (h.rest hk (.inr (.inr (.inr hqueue)))))))))
      simp only [Bool.not_eq_true'] at hdue
      exact endTurn n h hk hqueue hcurrent hstarted hplayer hdue.1 hdue.2
    | cons action queue =>
      refine .assuming fun hsound => .bind (.reads rfl (.ite (fun hbusy => .pure (h.rest hk ?_))
        fun hbusy => .bind ?_))
      · by_contra hwaits
        simp only [Served, not_or, Bool.not_eq_true] at hwaits
        have hidle := (h.calm hk).idle hsound (h.going.rested rfl).flow hwaits.2.2.1
        simp [GameState.isBusy, hwaits.2.2.1, hidle] at hbusy
      refine (runQueued n h hk hqueue hstarted (by simpa using hbusy)).mono fun _ _ _ hs => ?_
      exact drainQueue n hk hs.1 (hs.2.1.trans hcurrent)
        ((congrArg List.head? hs.2.2).trans hstarted)

/-- `TurnManager.drain`, in a game that goes on. -/
theorem drain (n : Nat) {fuel : Nat} (h : At .outside k₀ k s) (hk : k₀.Calm)
    (hphase : s.gs.board.gamePhase ≠ .concluded) :
    Goes T (TurnManager.drain T.toTable (emit T.toTable n) fuel) (fun _ => Rest) k s := by
  refine .assuming fun hsound => .bind (.reads rfl ?_)
  split
  · rename_i hcurrent
    exact .pure (h.rest hk (.inr (.inl hcurrent)))
  · rename_i playerId hcurrent
    exact drainQueue n hk h hcurrent
      (hsound.turns.playing (h.between.trans hk.between) hphase playerId hcurrent)

/-! ## A frame that has settled -/

/-- What waited on the frame is woken, what the event starts runs, and the queue is run down. -/
theorem resolved (n : Nat) {frameId : Nat} {result : List ContextWrite}
    {cardId : Option String} (h : At .amid k₀ k s) (hk : k₀.Clear)
    (hsettling : k₀.settling = .gone frameId) (hplaying : k₀.between = .playing) :
    Goes T (emit T.toTable n (.frameResolved frameId result cardId)) (fun _ => Rest) k s := by
  cases n with
  | zero => exact .throw _
  | succ n =>
    -- the ghost once the frame is forgotten
    let k₁ : Control := { k₀ with settling := .none }
    have hcalm : k₁.Calm := ⟨⟨hk.1, hk.2, hk.3, hk.4, hk.5, hk.6⟩, rfl, hplaying⟩
    let s₀ : World :=
      { s with history := .emitted (.frameResolved frameId result cardId) s.gs :: s.history }
    have h₀ : At .amid k₀ { k with flow := .flowing } s₀ := (h.stir .flowing).congr rfl
    refine .ghost (l := { k with flow := .flowing }) (Outer.inner (Inner.stir h.halted)) ?_
    refine .bind (.reads rfl (.bind (.acts (t := s₀) rfl (Outer.inner (Inner.announce
      (.frameResolved frameId result cardId) s.gs_matches rfl (by simp [GameEvent.frameResolved])
      (by simp [GameEvent.frameResolved]) fun h =>
        absurd h (by simp [GameEvent.frameResolved]))) ?_)))
    refine .bind ((of (Runs.turnManager (Q := fun _ k' s' => k' = { k with flow := .flowing } ∧
      Aside s₀ s') _ fun _ haside => ⟨rfl, haside⟩)).mono ?_)
    rintro _ _ s₁ ⟨rfl, haside⟩
    have h₁ : At .amid k₀ { k with flow := .flowing } s₁ := h₀.congr haside.draining
    -- the frame is forgotten, and the drain has stopped
    have htasks : Goes T (TaskManager.onEvent T.toTable (emit T.toTable n) n
        (.frameResolved frameId result cardId))
        (fun _ k' s' => At .amid k₁ k' s' ∧ k'.flow ≠ .flowing) { k with flow := .flowing } s₁ := by
      refine .bind (.reads rfl (.ite (fun hphase => ?_) fun hphase => .bind ?_))
      · have h₂ : At .amid k₀ { k with flow := .halted } s₁ := h₁.stir .halted
        refine .ghost (Outer.inner (Inner.halt h₁.halted h₁.going.clearing (.inr (.inl hphase)))) ?_
        refine .ghost (Outer.finish (h₂.clear hk) (h₂.settling.trans hsettling) hphase) ?_
        exact .pure ⟨h₂.settled, by simp⟩
      · have hexpired :
            expiredEffects T.cards s₁.gs.board (.frameResolved frameId result cardId) = [] :=
          expiredEffects_nil fun expiry => by
            cases expiry <;> simp [EffectExpiry.on, GameEvent.frameResolved]
        refine .bind (.reads rfl (.bind ?_))
        rw [hexpired]
        refine .unseen (t := s₁) rfl rfl (.pure (.bind ?_))
        let t : World := { s₁ with gs := s₁.gs.wake frameId result }
        have hstep : Outer T.toTable ({ k with flow := .flowing }, s₁.shape)
            ({ k with settling := .none, flow := .flowing }, t.shape) := by
          have hwake := Outer.wake (T := T.toTable) (h₁.clear hk) (h₁.settling.trans hsettling) rfl
            (s := s₁.shape)
          have hshape : t.shape =
            { s₁.shape with pipelines := wake frameId s₁.shape.pipelines } := by
            simp only [World.shape, t, s₁.gs.pipelineShapes_wake]
            rfl
          exact hshape ▸ hwake
        refine .acts (t := t) rfl hstep (.bind (.reads rfl (.bind ?_)))
        have h₂ : At .amid k₁ { k with settling := .none, flow := .flowing } t :=
          h₁.settled.congr rfl
        refine (of (Runs.addPipelines (s := t) _ (P := fun s => s.draining = false)
          (fun _ => matchedSources_starts) rfl hphase
          (Control.allows_playing (h₂.between.trans hplaying) (h₂.due.trans hcalm.clear.due) ..)
          (fun _ _ => .of_idle h₂.halted) h₂.idle fun _ _ _ h => h)).mono ?_
        rintro _ _ s₃ ⟨rfl, -, hdraining⟩
        refine (of (Runs.drain (passiveEmit n).hears (h₂.congr (hdraining.trans h₂.idle.symm))
          (.inl hcalm.clear.inFlight))).mono ?_
        exact fun _ _ _ hs => ⟨hs.1, hs.2.1⟩
    refine .bind (htasks.mono ?_)
    rintro _ k₂ s₂ ⟨h₂, hflow₂⟩
    refine judge n h₂ hflow₂ (fun _ _ _ => Rest.aside) ?_ fun _ _ h' hphase =>
      h'.rest hcalm (.inl hphase)
    exact fun _ _ h' hphase _ => drain n h' hcalm hphase

end Goes

end

end HereToSlaughter
