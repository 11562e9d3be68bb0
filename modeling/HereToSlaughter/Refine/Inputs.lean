import HereToSlaughter.Machine.Deal
import HereToSlaughter.Refine.Settling

/-!
# Inputs, as the machine sees them

Every command and every timer takes a table at rest to a table at rest, and so does the start of
the game. `Reach.machine` is what the rest of the development uses: a state a table can rest in is
at rest, at the end of a path of the machine that begins with the deal.

Reference: `pipelines/reaction-manager.ts`, `game-server/command-dispatcher.service.ts`.
-/

namespace HereToSlaughter

open Lib EngineM

namespace GameState
variable {gs : GameState}

/-- A window looked up by its id stands in its frame. -/
theorem hasWindow_windowById {windowId frameId : Nat} {w : Window}
    (h : gs.windowById windowId = some (frameId, w)) :
    gs.HasWindow frameId w ∧ w.id = windowId := by
  obtain ⟨⟨id, frame⟩, hmem, hfound⟩ := List.exists_of_findSome?_eq_some h
  obtain ⟨w', hw', heq⟩ := Option.map_eq_some_iff.1 hfound
  cases heq
  exact ⟨hasWindow_of_mem hmem (List.mem_of_find?_eq_some hw'), by simpa using List.find?_some hw'⟩

/-- The challenge a challenge card goes into is open. -/
theorem hasWindow_openContest {frameId : Nat} {w : Window}
    (h : gs.openContest = some (frameId, w)) :
    gs.HasWindow frameId w ∧ w.isOpen = true ∧ w.getType = .challenge := by
  simp only [openContest, getFrameByWindowType, Option.bind_eq_some_iff,
    Option.map_eq_some_iff] at h
  obtain ⟨⟨id, frame⟩, hframe, w', hw', heq⟩ := h
  cases heq
  have hfound := List.find?_some hw'
  simp only [decide_eq_true_eq] at hfound
  exact ⟨hasWindow_of_mem (List.mem_of_find?_eq_some hframe) (List.mem_of_find?_eq_some hw'),
    hfound.2, hfound.1⟩

/-- The frame of a window is open. -/
theorem HasWindow.frameOpen {frameId : Nat} {w : Window} (h : gs.HasWindow frameId w) :
    frameOpen frameId gs.frameShapes := by
  obtain ⟨f, hf, hid, -⟩ := h.shape
  exact ⟨f, hf, hid⟩

/-- Spending a card changes the frames where their shapes do not show it. -/
theorem spendCard_rest (now : Nat) (playerId cardId : String) (gs : GameState) :
    (gs.spendCard now playerId cardId).board =
      (gs.board.removeFromHand playerId cardId).addInstanceCard playerId cardId ∧
    (gs.spendCard now playerId cardId).frameShapes = gs.frameShapes ∧
    (gs.spendCard now playerId cardId).pipelines = gs.pipelines := by
  unfold spendCard
  dsimp only
  split
  · exact ⟨rfl, rfl, rfl⟩
  · exact ⟨rfl, frameShapes_modifyWindow_of_shape _ (Window.shape_cardSpent now), rfl⟩

end GameState

/-- Hiding what a reveal showed changes nothing of the game. -/
theorem GameState.hideRevealed_all (seats cardIds : List String) : ∀ gs : GameState,
    (seats.foldl (fun gs seat => gs.hideRevealed seat cardIds) gs).board = gs.board ∧
      (seats.foldl (fun gs seat => gs.hideRevealed seat cardIds) gs).frames = gs.frames ∧
      (seats.foldl (fun gs seat => gs.hideRevealed seat cardIds) gs).pipelines = gs.pipelines := by
  induction seats with
  | nil => exact fun _ => ⟨rfl, rfl, rfl⟩
  | cons seat seats ih =>
    intro gs
    obtain ⟨hboard, hframes, hpipelines⟩ := ih (gs.hideRevealed seat cardIds)
    have hone : (gs.hideRevealed seat cardIds).board = gs.board ∧
        (gs.hideRevealed seat cardIds).frames = gs.frames ∧
        (gs.hideRevealed seat cardIds).pipelines = gs.pipelines := by
      unfold hideRevealed
      split <;> exact ⟨rfl, rfl, rfl⟩
    exact ⟨hboard.trans hone.1, hframes.trans hone.2.1, hpipelines.trans hone.2.2⟩

/-! ## What a reaction's check finds -/

/-- A modifier that may be played is in the hand of its seat. -/
theorem canPlayModifier_ok {T : Table} {gs : GameState} {playerId cardId : String} {value : Int}
    {targetPlayerId : Option String}
    (h : canPlayModifier T gs playerId cardId value targetPlayerId = .ok .accepted) :
    cardId ∈ gs.board.hand playerId := by
  simp only [canPlayModifier, Bind.bind, Except.bind] at h
  split at h
  · cases h
  · rename_i inHand hhand
    cases inHand with
    | true => exact Board.hasInHand_ok hhand
    | false => simp [Pure.pure, Except.pure] at h

/-- A challenge card that may be played is in the hand of its seat. -/
theorem canPlayChallenge_ok {now : Nat} {gs : GameState} {playerId cardId : String}
    (h : canPlayChallenge now gs playerId cardId = .ok .accepted) :
    cardId ∈ gs.board.hand playerId := by
  simp only [canPlayChallenge, Bind.bind, Except.bind] at h
  split at h
  · cases h
  · rename_i inHand hhand
    cases inHand with
    | true => exact Board.hasInHand_ok hhand
    | false => simp [Pure.pure, Except.pure] at h

section
variable {T : PrintedTable} {k₀ k : Control} {s : World}

namespace Goes

/-! ## Reactions -/

/-- `spendCard`, of a card in the hand of the seat. -/
theorem spendCard {playerId cardId : String} {frameId : Nat} (h : At .outside k₀ k s) (hk : k₀.Calm)
    (hserved : Served s) (hcard : cardId ∈ s.gs.board.hand playerId)
    (hframe : frameOpen frameId s.gs.frameShapes) :
    Goes T (HereToSlaughter.spendCard playerId cardId frameId)
      (fun _ k' s' => At .amid k₀ k' s' ∧ Served s') k s := by
  refine .bind (requirePlayer fun _ _ => .bind (getParty fun party hparty => .bind (.reads rfl
    (.bind (.reads rfl ?_)))))
  let t : World := { s with
    gs := s.gs.spendCard s.now playerId cardId
    history := .spent playerId cardId frameId s.gs :: s.history }
  obtain ⟨hboard, hframes, hpipelines⟩ := s.gs.spendCard_rest s.now playerId cardId
  have hshape : t.shape = { s.shape with
      board := (s.gs.board.removeFromHand playerId cardId).addInstanceCard playerId cardId
      history := .spent playerId cardId frameId s.gs :: s.history } := by
    simp only [World.shape, t, hboard, hframes, GameState.pipelineShapes, hpipelines]
  have hstep := Outer.spend (T := T.toTable) (s := s.shape) s.gs_matches (h.clear hk.clear)
    (h.settling.trans hk.settling) hcard hparty hframe
  refine .runs (t := t) rfl (.single (hshape.symm ▸ hstep)) ⟨?_, hserved.of_frames
    (congrArg Board.gamePhase hboard :) (congrArg Board.currentPlayerId hboard :) hframes rfl⟩
  obtain ⟨hgoing, flow, unchecked, rfl⟩ := h
  exact ⟨.amid (by simpa using hgoing.draining) hgoing.clearing (hgoing.outside (by simp)),
    _, _, rfl⟩

/-- `PlayModifierReaction.execute`. -/
theorem playModifier (n : Nat) {playerId cardId : String} {value : Int}
    {targetPlayerId : Option String} (h : Rest k s) (hcard : cardId ∈ s.gs.board.hand playerId) :
    Goes T (HereToSlaughter.playModifier (emit T.toTable n) playerId cardId value targetPlayerId)
      (fun _ => Rest) k s := by
  refine .bind (.reads rfl ?_)
  split
  · rename_i target frameId w _ hfound
    have hframe := (GameState.hasWindow_findOpenModifiableWindow hfound).1.frameOpen
    refine .bind ((spendCard h.start h.calm h.served hcard hframe).mono fun _ k₁ s₁ h₁ => ?_)
    exact .assuming fun hsound => speaks n h₁.1
      ⟨h.calm.between, .inr h.calm.clear.inFlight, h.calm.clear.due⟩ rfl fun _ _ h₂ _ hturn =>
        h₂.rest h.calm (h₁.2.sameTurn hsound h₁.1.going.clearing hturn)
  · exact .pure h

/-- `PlayChallengeReaction.execute`. -/
theorem playChallenge (n : Nat) {playerId cardId : String} (h : Rest k s)
    (hcard : cardId ∈ s.gs.board.hand playerId) :
    Goes T (HereToSlaughter.playChallenge (emit T.toTable n) playerId cardId)
      (fun _ => Rest) k s := by
  refine .bind (.reads rfl ?_)
  split
  · exact .pure h
  · rename_i frameId w hfound
    split
    · exact .pure h
    · have hframe := (GameState.hasWindow_openContest hfound).1.frameOpen
      refine .bind ((spendCard h.start h.calm h.served hcard hframe).mono fun _ k₁ s₁ h₁ => ?_)
      exact .assuming fun hsound => speaks n h₁.1
        ⟨h.calm.between, .inr h.calm.clear.inFlight, h.calm.clear.due⟩ rfl fun _ _ h₂ _ hturn =>
          h₂.rest h.calm (h₁.2.sameTurn hsound h₁.1.going.clearing hturn)

/-- `ReactionManager.submitReaction`. -/
theorem submitReaction {check : Except EngineError RequestResult} {run : EngineM Unit}
    (h : Rest k s)
    (hrun : check = .ok .accepted → Goes T run (fun _ => Rest) k s) :
    Goes T (HereToSlaughter.submitReaction check run) (fun _ => Rest) k s := by
  refine .bind (orThrow fun result hresult => .ite (fun ha => ?_) fun _ => .pure h)
  have haccepted : check = .ok .accepted := RequestResult.isAccepted_iff.1 ha ▸ hresult
  exact .bind ((hrun haccepted).mono fun _ _ _ h₁ => .pure h₁)

/-! ## Commands -/

/-- `ReactionManager.submitChoice`. -/
theorem submitChoice (n : Nat) {windowId : Nat} {playerId : String} {choice : Option Pick}
    (h : Rest k s) :
    Goes T (HereToSlaughter.submitChoice T.toTable (emit T.toTable n) windowId playerId choice)
      (fun _ => Rest) k s := by
  refine .bind (.reads rfl ?_)
  split
  · exact .pure h
  · rename_i frameId w hfound
    have hw := (GameState.hasWindow_windowById hfound).1
    refine .ite (fun hopen => ?_) fun _ => .pure h
    split
    · refine .assuming fun hsound => (inner (Runs.submitToRoll (Runs.activeEmit n) h.start
        ⟨h.calm.between, .inr h.calm.clear.inFlight, h.calm.clear.due⟩ hw ‹_›)).mono ?_
      exact fun _ _ _ h₁ =>
        h₁.1.rest h.calm (h.served.sameTurn hsound h.going.clearing h₁.2)
    · exact .pure h
    · exact submitToChoice n h.start h.calm h.served hw.world
        (by simpa [Window.isOpen] using hopen) ‹_›

/-- `ReactionManager.pass`. -/
theorem pass (n : Nat) {windowId : Nat} {playerId : String} (h : Rest k s) :
    Goes T (HereToSlaughter.pass T.toTable (emit T.toTable n) windowId playerId)
      (fun _ => Rest) k s := by
  refine .bind (.reads rfl ?_)
  split
  · exact .pure h
  · rename_i frameId w hfound
    have hw := (GameState.hasWindow_windowById hfound).1
    refine .ite (fun _ => .pure h) fun _ => .ite (fun _ => .pure h) fun _ => .bind ?_
    let s₁ : World := { s with gs := s.gs.modifyWindow windowId (Window.pass playerId) }
    have hshape : s₁.shape = s.shape := by
      simp only [World.shape, s₁,
        s.gs.frameShapes_modifyWindow_of_shape (Window.shape_pass playerId)]
      rfl
    have h₁ : At .outside k k s₁ := h.start.congr rfl
    have hw₁ : s₁.shape.HasWindow frameId (w.pass playerId).shape := by
      rw [hshape, Window.shape_pass]
      exact hw.world
    have hserved : Served s₁ := h.served.of_frames rfl rfl (congrArg Shape.frames hshape) rfl
    refine .unseen (t := s₁) rfl hshape (.bind (.reads rfl (.ite (fun _ => ?_) fun _ => ?_)))
    · exact .bind ((resolve n h₁ h.calm hserved hw₁).mono fun _ _ _ h₂ => .pure h₂)
    · exact .pure (h₁.rest h.calm hserved)

/-- `TurnManager.enqueue`. -/
theorem enqueue (n : Nat) {fuel : Nat} {action : Action} (h : Rest k s) :
    Goes T (HereToSlaughter.enqueue T.toTable (emit T.toTable n) fuel action)
    (fun _ => Rest) k s := by
  refine .bind (.reads rfl (.ite (fun _ => .pure h) fun hphase => .bind (.reads rfl (.ite
    (fun _ => fail) fun _ => .ite (fun _ => .pure h) fun howner => .ite (fun _ => .pure h)
    fun _ => ?_))))
  refine .bind (orThrow fun check hcheck => .ite (fun _ => ?_) fun _ => .pure h)
  let s₁ : World := { s with
    turnManager := { s.turnManager with actionQueue := s.turnManager.actionQueue ++ [action] }
    history := .queued action s.turnManager.turn :: s.history }
  have hcurrent : s.gs.board.currentPlayerId = some action.playerId := (not_not.1 howner).symm
  have hqueue : Outer T.toTable (k, s.shape) (k, s₁.shape) :=
    Outer.enqueue h.calm.clear h.calm.settling h.calm.between hcurrent
  have h₁ : At .outside k k s₁ := h.start.congr rfl
  refine .bind (.reads rfl (.together (t := s₁) rfl rfl (.single hqueue) (.bind ?_)))
  exact (drain n h₁ h.calm hphase).mono fun _ _ _ h₂ => .pure h₂

/-- `CommandDispatcherService.route`. -/
theorem route (n : Nat) {fuel : Nat} {playerId : String} {command : Command} (h : Rest k s) :
    Goes T (HereToSlaughter.route T.toTable (emit T.toTable n) fuel playerId command)
      (fun _ => Rest) k s := by
  cases command with
  | action kind => exact enqueue n h
  | applyModifier cardId value targetPlayerId =>
    exact .bind (.reads rfl (submitReaction h fun hcheck =>
      playModifier n h (canPlayModifier_ok hcheck)))
  | challenge cardId =>
    exact .bind (.reads rfl (.bind (.reads rfl (submitReaction h fun hcheck =>
      playChallenge n h (canPlayChallenge_ok hcheck)))))
  | submitChoice windowId choice => exact submitChoice n h
  | passWindow windowId => exact pass n h

/-! ## Timers -/

/-- A window's timer. -/
theorem windowLapse (n : Nat) {windowId : Nat} (h : Rest k s) :
    Goes T (HereToSlaughter.windowLapse T.toTable (emit T.toTable n) windowId)
    (fun _ => Rest) k s := by
  refine .bind (.reads rfl ?_)
  cases hfound : s.gs.windowById windowId with
  | none => exact .pure h
  | some e =>
    obtain ⟨hw, -⟩ := GameState.hasWindow_windowById hfound
    exact .bind (.reads rfl (.ite (fun _ => resolve n h.start h.calm h.served hw.world)
      fun _ => .pure h))

/-- `TurnManager.lapse`. -/
theorem lapse (n : Nat) {fuel turn : Nat} (h : Rest k s) :
    Goes T (HereToSlaughter.lapse T.toTable (emit T.toTable n) fuel turn) (fun _ => Rest) k s := by
  let s₁ : World := { s with turnManager := { s.turnManager with clock := none } }
  have h₁ : At .outside k k s₁ := h.start.congr rfl
  have hrest : Rest k s₁ := h₁.rest h.calm (h.served.congr rfl rfl)
  refine .bind
    (.unseen (t := s₁) rfl rfl (.bind (.reads rfl (.ite (fun _ => .pure hrest) fun _ => .ite
    (fun _ => .pure hrest) fun hphase => .ite (fun _ => fail) fun _ => ?_))))
  split
  · exact .pure hrest
  · refine .bind (.bind (requirePlayer fun player hplayer => .pure (.bind ?_)))
    refine (of (Runs.decreaseActionPoints (Q := fun _ k' s' => k' = k ∧ At .outside k k s' ∧
      s'.gs.board.gamePhase = s₁.gs.board.gamePhase) h₁ hplayer (Int.le_refl _)
      fun h₂ => ⟨rfl, h₂, rfl⟩)).mono ?_
    rintro _ k' s₂ ⟨hghost, h₂, hsame⟩
    obtain rfl : k = k' := hghost.symm
    exact drain n h₂ h.calm (hsame ▸ hphase)

/-- The turn's timer. -/
theorem turnLapse (n : Nat) {fuel : Nat} (h : Rest k s) :
    Goes T (HereToSlaughter.turnLapse T.toTable (emit T.toTable n) fuel) (fun _ => Rest) k s := by
  refine .bind (.reads rfl ?_)
  split
  · exact .ite (fun _ => lapse n h) fun _ => .pure h
  · exact .pure h

/-- The timer of the oldest reveal. -/
theorem revealLapse (n : Nat) (h : Rest k s) :
    Goes T (HereToSlaughter.revealLapse (emit T.toTable n)) (fun _ => Rest) k s := by
  refine .bind (.reads rfl ?_)
  split
  · exact .pure h
  · rename_i reveal rest hreveals
    refine .ite (fun _ => .bind ?_) fun _ => .pure h
    let s₁ : World := { s with reveals := rest }
    have h₁ : At .outside k k s₁ := h.start.congr rfl
    obtain ⟨hboard, hframes, hpipelines⟩ := s₁.gs.hideRevealed_all reveal.seats reveal.cardIds
    have hshapes : (reveal.seats.foldl (fun gs seat => gs.hideRevealed seat reveal.cardIds)
        s₁.gs).frameShapes = s₁.gs.frameShapes := by
      simp only [GameState.frameShapes, hframes]
    refine .unseen (t := s₁) rfl rfl (.bind ?_)
    refine (of (Runs.hiddenGs
      (Q := fun _ k' s' => At .outside k k' s' ∧ Served s') h₁ hboard hshapes
      (congrArg (List.map AbilityPipeline.shape) hpipelines) fun h₂ => ⟨h₂, ?_⟩)).mono
        fun _ k₂ s₂ h₂ => ?_
    · exact h.served.of_frames (congrArg Board.gamePhase hboard :)
        (congrArg Board.currentPlayerId hboard :) hshapes rfl
    · exact .assuming fun hsound => speaks n h₂.1.loosen
        ⟨h.calm.between, .inr h.calm.clear.inFlight, h.calm.clear.due⟩ rfl fun _ _ h₃ _ hturn =>
          h₃.rest h.calm (h₂.2.sameTurn hsound h₂.1.going.clearing hturn)

/-- One input. -/
theorem handle {fuel : Nat} {input : Input} (h : Rest k s) :
    Goes T (HereToSlaughter.handle T.toTable fuel input) (fun _ => Rest) k s := by
  cases input with
  | command playerId command => exact .bind ((route fuel h).mono fun _ _ _ h₁ => .pure h₁)
  | windowLapse windowId => exact windowLapse fuel h
  | turnLapse => exact turnLapse fuel h
  | revealLapse => exact revealLapse fuel h
  | tick ms =>
    have h₁ : At .outside k k { s with now := s.now + ms } := h.start.congr rfl
    exact .unseen (t := { s with now := s.now + ms }) rfl rfl
      (h₁.rest h.calm (h.served.congr rfl rfl))

end Goes

end

/-! ## Runs -/

namespace GameSetup
variable {setup : GameSetup}

/-- The game announces its start, and the first turn begins. -/
theorem Valid.starts (_ : setup.Valid) (n : Nat) :
    Goes setup.printedTable (do
      emit setup.table n .gameStarted
      match setup.playerOrder with
      | [] => pure ()
      | first :: _ => startTurn setup.table (emit setup.table n) first)
      (fun _ => Rest) setup.origin.1 setup.started := by
  have hat : At .amid setup.origin.1 setup.origin.1 setup.started :=
    .start (.amid rfl rfl rfl)
  have hclear : setup.origin.1.Clear := ⟨rfl, rfl, rfl, rfl, rfl, rfl⟩
  have hallows : setup.origin.1.Allows setup.printedTable.rules GameEvent.gameStarted.type :=
    ⟨fun _ _ hs step hstep => (gameRules_steps hs step hstep).2 (.inl rfl),
      fun _ hb => (nomatch hb), fun _ _ => rfl⟩
  refine .bind
    ((Goes.inner (Runs.activeEmit n _ _ _ _ hat rfl hallows (.inr (.inl hclear.inFlight)))).mono ?_)
  rintro _ k s ⟨⟨hs, -⟩, hturn⟩
  have horder : s.playerOrder = setup.playerOrder := hturn.playerOrder
  cases hseats : setup.playerOrder with
  | nil =>
    -- nobody sits at the table: no turn is to come
    refine .ghost
      (Outer.adrift (hs.clear hclear) hs.settling (.inr (horder.trans hseats))) (.pure ?_)
    obtain ⟨hgoing, flow, unchecked, rfl⟩ := hs
    exact ⟨⟨⟨rfl, rfl, rfl, rfl, rfl, rfl⟩, rfl, rfl⟩,
      ⟨hgoing.1, hgoing.2, hgoing.3, hgoing.4, fun hd => ⟨(hgoing.5 hd).1, (hgoing.5 hd).2⟩⟩,
      .inr (.inr (.inr hturn.queue))⟩
  | cons first rest =>
    refine .assuming fun hsound => ?_
    have hseated : s.gs.board.isSeated first = true := by
      refine hsound.seats.board.isSeated.2 ?_
      rw [show s.shape.playerOrder = s.playerOrder from rfl, horder, hseats]
      exact List.mem_cons_self
    have hhead : s.playerOrder.head? = some first := by rw [horder, hseats]; rfl
    refine (Goes.startTurn n hs.loosen hclear rfl hseated (.inl ⟨rfl, hhead⟩)).mono ?_
    exact fun _ _ _ h' =>
      h'.1.rest ⟨⟨rfl, rfl, rfl, rfl, rfl, rfl⟩, rfl, rfl⟩ (h'.2 hturn.queue)

end GameSetup

/-- A state a table can rest in is at rest, at the end of a path of the machine. -/
theorem Reach.machine {setup : GameSetup} {w : World} (h : Reach setup w) :
    setup.Valid ∧ ∃ k, (outerSystem setup.printedTable).Path setup.origin (k, w.shape) ∧
    Rest k w := by
  induction h with
  | start deal h =>
    obtain ⟨rfl, hvalid⟩ := GameSetup.createGame_ok deal
    exact ⟨hvalid, hvalid.starts _ hvalid.sound h⟩
  | step reach hstep ih =>
    obtain ⟨hvalid, k, hpath, hrest⟩ := ih
    cases hstep with
    | ok h =>
      have hsound := (outerSystem setup.printedTable).inv_of_path hpath hvalid.sound
      obtain ⟨k', hpath', hrest'⟩ := Goes.handle (T := setup.printedTable) hrest hsound h
      exact ⟨hvalid, k', hpath.trans hpath', hrest'⟩
    | threw => exact ⟨hvalid, k, hpath, hrest⟩

end HereToSlaughter
