import HereToSlaughter.Runs.Flushes
import HereToSlaughter.Runs.Wins

/-!
# A game that is over

Once a game has been concluded and no window of it is open, nothing moves on its board any more:
whatever is sent to it, and whichever timer still goes off, no command is accepted and the cards lie
where they lay (`Reach.final`). A look at revealed cards may still end.

Reference: `GameState.conclude`, `pipelines/turn-manager.ts`, `pipelines/reaction-manager.ts`.
-/

namespace HereToSlaughter

open Lib EngineM

/-! ## An empty table -/

/-- The game is over and nothing is open. -/
structure Over (w : World) : Prop where
  phase : w.gs.board.gamePhase = .concluded
  frames : w.gs.frames.entries = []

/-- The board stands, with its windows, its pipelines and its turn. -/
structure Stands (w w' : World) : Prop where
  board : w'.gs.board = w.gs.board
  frames : w'.gs.frames = w.gs.frames
  pipelines : w'.gs.pipelines = w.gs.pipelines
  turn : w'.turnManager.turn = w.turnManager.turn
  phase : w'.turnManager.phase = w.turnManager.phase
  queue : w'.turnManager.actionQueue = w.turnManager.actionQueue

namespace Stands

variable {w w' w'' : World}

/-- Where nothing happens the end stands. -/
theorem refl : Stands w w := ⟨rfl, rfl, rfl, rfl, rfl, rfl⟩

/-- It stands over two stretches if over each. -/
theorem trans (h : Stands w w') (h' : Stands w' w'') : Stands w w'' :=
  ⟨h'.board.trans h.board, h'.frames.trans h.frames, h'.pipelines.trans h.pipelines,
    h'.turn.trans h.turn, h'.phase.trans h.phase, h'.queue.trans h.queue⟩

/-- A game that is over stays over. -/
theorem stays (h : Stands w w') (hover : Over w) : Over w' :=
  ⟨h.board ▸ hover.phase, h.frames ▸ hover.frames⟩

end Stands

namespace Over

variable {T : Table} {w w' : World} (h : Over w)
include h

/-- No window is found. -/
theorem windowById (windowId : Nat) : w.gs.windowById windowId = none := by
  simp [GameState.windowById, h.frames]

/-- No window takes a modifier. -/
theorem findOpenModifiableWindow : w.gs.findOpenModifiableWindow = none := by
  simp [GameState.findOpenModifiableWindow, GameState.firstWindowOfType,
    GameState.getFrameByWindowType, h.frames]

/-- No contest is open. -/
theorem openContest : w.gs.openContest = none := by
  simp [GameState.openContest, GameState.getFrameByWindowType, h.frames]

/-! ## Commands -/

omit h in
/-- A reaction whose check does not accept writes nothing. -/
theorem submitReaction_refused {check : Except EngineError RequestResult} {run : EngineM Unit}
    {result : RequestResult} (hcheck : check ≠ .ok .accepted)
    (hrun : submitReaction check run w = .ok result w') : result ≠ .accepted ∧ w' = w := by
  obtain ⟨answer, t, hanswer, hrest⟩ := ran_of_bind hrun
  obtain ⟨rfl, rfl⟩ := ran_orThrow hanswer
  have hrefused : answer ≠ .accepted := fun heq => hcheck (congrArg _ heq)
  split at hrest
  · exact absurd (RequestResult.isAccepted_iff.1 ‹_›) hrefused
  · cases hrest
    exact ⟨hrefused, rfl⟩

/-- A modifier is refused, as no window takes one. -/
theorem canPlayModifier_refused (playerId cardId : String) (value : Int)
    (targetPlayerId : Option String) :
    canPlayModifier T w.gs playerId cardId value targetPlayerId ≠ .ok .accepted := by
  intro hcheck
  have haim : w.gs.aimModifier targetPlayerId = .error .noModifiableWindow := by
    rw [GameState.aimModifier, h.findOpenModifiableWindow]
  obtain ⟨inHand, -, hcheck⟩ := ok_of_bind hcheck
  cases inHand with
  | false => cases hcheck
  | true =>
    simp only [if_true, haim] at hcheck
    split at hcheck
    · split at hcheck <;> cases hcheck
    · cases hcheck

/-- A challenge is refused, as no contest is open. -/
theorem canPlayChallenge_refused (now : Nat) (playerId cardId : String) :
    canPlayChallenge now w.gs playerId cardId ≠ .ok .accepted := by
  intro hcheck
  obtain ⟨inHand, -, hcheck⟩ := ok_of_bind hcheck
  cases inHand with
  | false => cases hcheck
  | true =>
    simp only [if_true, h.openContest] at hcheck
    cases hcheck

/-- Whatever is sent is refused, and changes nothing. -/
theorem route_stands {em : Emit} {fuel : Nat} {playerId : String} {command : Command}
    {result : RequestResult} (hrun : route T em fuel playerId command w = .ok result w') :
    result ≠ .accepted ∧ w' = w := by
  cases command with
  | action kind =>
    change enqueue T em fuel ⟨playerId, kind⟩ w = _ at hrun
    unfold enqueue at hrun
    rw [run_getGs, if_pos h.phase] at hrun
    cases hrun
    exact ⟨nofun, rfl⟩
  | submitChoice windowId choice =>
    change submitChoice T em windowId playerId choice w = _ at hrun
    unfold submitChoice at hrun
    rw [run_getGs, h.windowById windowId] at hrun
    cases hrun
    exact ⟨nofun, rfl⟩
  | passWindow windowId =>
    change pass T em windowId playerId w = _ at hrun
    unfold pass at hrun
    rw [run_getGs, h.windowById windowId] at hrun
    cases hrun
    exact ⟨nofun, rfl⟩
  | applyModifier cardId value targetPlayerId =>
    exact submitReaction_refused (h.canPlayModifier_refused _ _ _ _) hrun
  | challenge cardId => exact submitReaction_refused (h.canPlayChallenge_refused _ _ _) hrun

/-! ## Timers -/

/-- The end of a look is told, and nobody listens. -/
theorem emit_stands {n : Nat} {ownerId : String} {cardIds : List String}
    (hrun : emit T n (.revealEnded ownerId cardIds) w = .ok () w') : Stands w w' := by
  cases n with
  | zero => cases hrun
  | succ n =>
    obtain ⟨gs, t, hgs, hrun⟩ := ran_of_bind hrun
    cases hgs
    obtain ⟨_, w₁, hmark, hrun⟩ := ran_of_bind hrun
    cases hmark
    obtain ⟨_, t, hturn, hrun⟩ := ran_of_bind hrun
    cases hturn
    obtain ⟨_, t, htask, hrun⟩ := ran_of_bind hrun
    unfold TaskManager.onEvent at htask
    rw [run_getGs, if_pos h.phase] at htask
    cases htask
    obtain ⟨_, t, hengine, hlog⟩ := ran_of_bind hrun
    obtain ⟨_, w₂, hdirty, hengine⟩ := ran_of_bind hengine
    cases hdirty
    obtain ⟨concluded, t, hconcluded, hengine⟩ := ran_of_bind hengine
    unfold concludeIfDue at hconcluded
    rw [run_getGs, if_pos h.phase] at hconcluded
    cases hconcluded
    cases hengine
    cases hlog
    exact ⟨rfl, rfl, rfl, rfl, rfl, rfl⟩

/-- The clock of a turn finds the game over. -/
theorem lapse_stands {em : Emit} {fuel turn : Nat} (hrun : lapse T em fuel turn w = .ok () w') :
    Stands w w' := by
  let w₁ : World := { w with turnManager := { w.turnManager with clock := none } }
  change (ite (turn ≠ w.turnManager.turn ∨ w.turnManager.phase ≠ .action) _ _ : EngineM Unit) w₁ =
    _ at hrun
  rw [if_pos h.phase, ite_self] at hrun
  obtain rfl : w₁ = w' := (EStateM.Result.ok.inj hrun).2
  exact ⟨rfl, rfl, rfl, rfl, rfl, rfl⟩

/-- The turn timer finds the game over. -/
theorem turnLapse_stands {em : Emit} {fuel : Nat} (hrun : turnLapse T em fuel w = .ok () w') :
    Stands w w' := by
  unfold turnLapse at hrun
  rw [run_get] at hrun
  cases hclock : w.turnManager.clock with
  | none =>
    rw [hclock] at hrun
    cases hrun
    exact .refl
  | some turn =>
    cases hdeadline : w.turnManager.getTurnDeadline with
    | none =>
      rw [hclock, hdeadline] at hrun
      cases hrun
      exact .refl
    | some deadline =>
      rw [hclock, hdeadline] at hrun
      dsimp only at hrun
      split at hrun
      · exact h.lapse_stands hrun
      · cases hrun
        exact .refl

/-- A look that ends touches only what is shown. -/
theorem revealLapse_stands {n : Nat} (hrun : revealLapse (emit T n) w = .ok () w') :
    Stands w w' := by
  unfold revealLapse at hrun
  rw [run_get] at hrun
  cases hreveals : w.reveals with
  | nil =>
    rw [hreveals] at hrun
    cases hrun
    exact .refl
  | cons reveal rest =>
    rw [hreveals] at hrun
    dsimp only at hrun
    split at hrun
    · obtain ⟨hboard, hframes, hpipelines⟩ := w.gs.hideRevealed_all reveal.seats reveal.cardIds
      let w₁ : World := { w with
        reveals := rest
        gs := reveal.seats.foldl (fun gs seat => gs.hideRevealed seat reveal.cardIds) w.gs }
      have hhidden : Stands w w₁ := ⟨hboard, hframes, hpipelines, rfl, rfl, rfl⟩
      exact hhidden.trans ((hhidden.stays h).emit_stands hrun)
    · cases hrun
      exact .refl

/-- No input changes anything but what is shown and the clock. -/
theorem handle_stands {fuel : Nat} {input : Input}
    (hrun : (handle T fuel input).run w = .ok () w') : Stands w w' := by
  cases input with
  | command playerId command =>
    obtain ⟨result, t, hroute, hend⟩ := ran_of_bind hrun
    cases hend
    obtain ⟨-, rfl⟩ := h.route_stands hroute
    exact .refl
  | windowLapse windowId =>
    change windowLapse T (emit T fuel) windowId w = _ at hrun
    unfold windowLapse at hrun
    rw [run_getGs, h.windowById windowId] at hrun
    cases hrun
    exact .refl
  | turnLapse => exact h.turnLapse_stands hrun
  | revealLapse => exact h.revealLapse_stands hrun
  | tick ms =>
    cases hrun
    exact ⟨rfl, rfl, rfl, rfl, rfl, rfl⟩

end Over

/-! ## Runs -/

variable {setup : GameSetup} {w w' : World}

/-- At rest a table on which no window is open has no frame left. -/
theorem Reach.unframed (h : Reach setup w) (hnone : w.gs.openWindows = []) :
    w.gs.frames.entries = [] ∧ w.gs.pipelines = [] := by
  obtain ⟨k, hsound, hrest⟩ := h.sound
  have hshut : ∀ e ∈ w.gs.frames.entries, e.2.hasOpenWindow = false := by
    intro e he
    refine List.any_eq_false.2 fun v hv hopen => ?_
    have hmem : v ∈ w.gs.openWindows := GameState.mem_openWindows.2 ⟨e, he, hv, hopen⟩
    rw [hnone] at hmem
    cases hmem
  constructor
  · refine List.eq_nil_iff_forall_not_mem.2 fun e he => ?_
    have hopen := hrest.windowed hsound _ (List.mem_map_of_mem (f := fun e => e.2.shape e.1) he)
    rw [GameFrame.shape_hasOpenWindow, hshut e he] at hopen
    cases hopen
  · refine hrest.idle hsound (List.any_eq_false.2 fun frame hframe => ?_)
    obtain ⟨e, he, rfl⟩ := List.mem_map.1 hframe
    rw [hshut e he]
    exact Bool.false_ne_true

/-- **The end is final.** Whatever happens to a game that is over and on which no window is open, in
whatever order, the board stands as it stood, with no window, no pipeline and no further turn, and
every command is refused and changes nothing. No input has thrown half-way before. -/
theorem Reach.final (h : Reach setup w) (hover : w.gs.board.gamePhase = .concluded)
    (hnone : w.gs.openWindows = []) (hlater : Later setup.table w w') :
    w'.gs.board = w.gs.board ∧ w'.gs.openWindows = [] ∧ w'.gs.pipelines = [] ∧
    w'.turnManager.turn = w.turnManager.turn ∧
    w'.turnManager.actionQueue = w.turnManager.actionQueue ∧
    ∀ fuel playerId command result w'',
      (route setup.table (emit setup.table fuel) fuel playerId command).run w' = .ok result w'' →
        result ≠ .accepted ∧ w'' = w' := by
  obtain ⟨hframes, hpipelines⟩ := h.unframed hnone
  have hstands : Stands w w' ∧ Over w' := by
    induction hlater with
    | refl => exact ⟨.refl, hover, hframes⟩
    | tail _ hstep ih =>
      obtain ⟨hstands, hover⟩ := ih
      obtain ⟨input, hstep⟩ := hstep
      cases hstep with
      | ok hrun =>
        have hnext := hover.handle_stands hrun
        exact ⟨hstands.trans hnext, hnext.stays hover⟩
      | threw => exact ⟨hstands, hover⟩
  obtain ⟨hstands, hover'⟩ := hstands
  refine ⟨hstands.board, ?_, hstands.pipelines.trans hpipelines, hstands.turn, hstands.queue,
    fun _ _ _ _ _ hrun => hover'.route_stands hrun⟩
  simp [GameState.openWindows, OrderedMap.values, hover'.frames]

/-- Timers fire and seats act after the end. -/
def afterTheEnd : List Input :=
  [.tick 60000, .windowLapse 1, .turnLapse, .revealLapse, .command "A" (.action .drawCard),
   .command "B" (.passWindow 1)]

/-- The game at which two classes win is over, nothing is open, and it takes what comes after. -/
theorem twoClassesWin_over :
    ((twoClassesWin.play 40 [.command "A" (.action (.playHero "hero-001")),
        .command "B" (.passWindow 1)]).any fun w =>
      decide (w.gs.board.gamePhase = .concluded) && w.gs.openWindows.isEmpty &&
        (playOn twoClassesWin.table 40 afterTheEnd w).isSome) = true := by
  decide +kernel

/-- A game that two classes won, and what is tried on it afterwards. -/
theorem Reach.final_twoClassesWin : ∃ w w' : World, Reach twoClassesWin w ∧
    w.gs.board.gamePhase = .concluded ∧ playOn twoClassesWin.table 40 afterTheEnd w = some w' ∧
    w'.gs.board = w.gs.board ∧ w'.gs.openWindows = [] := by
  obtain ⟨w, h, hover⟩ := Reach.of_play _ _ _ _ twoClassesWin_over
  simp only [Bool.and_eq_true, decide_eq_true_eq, List.isEmpty_iff] at hover
  obtain ⟨⟨hphase, hnone⟩, hgoes⟩ := hover
  obtain ⟨w', hplay⟩ := Option.isSome_iff_exists.1 hgoes
  obtain ⟨hboard, hopen, -⟩ := h.final hphase hnone (.of_playOn hplay)
  exact ⟨w, w', h, hphase, hplay, hboard, hopen⟩

end HereToSlaughter
