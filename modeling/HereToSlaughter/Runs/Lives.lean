import HereToSlaughter.Machine.Lives
import HereToSlaughter.Runs.Silence
import HereToSlaughter.Runs.Turns

/-!
# What became of a frame, and of a window

At rest the history tells of every frame in its order, and the frames that are open are those that
were opened and have not settled (`Reach.frames_once`). A window that has closed stays closed
whatever happens, and one that stands is still the window it was (`Reach.windows_stay`).

Reference: `pipelines/game-state.ts` and `utils/id-generator.ts`.
-/

namespace HereToSlaughter

open Lib

variable {setup : GameSetup} {w w' : World}

/-- At rest nothing has been heard of a frame out of its order. -/
theorem Reach.lives (h : Reach setup w) :
    ∃ k, Lives (k, w.shape) ∧ Won setup.table (k, w.shape) := by
  obtain ⟨hvalid, k, hpath, -⟩ := h.machine
  have hwon : Won setup.table setup.origin := setup.won_origin
  refine ⟨k, Lives.path ?_ hvalid.sound hwon hpath, hwon.path hvalid.sound hpath⟩
  exact ⟨fun _ hF => absurd hF List.not_mem_nil, trivial, fun _ hf => absurd hf List.not_mem_nil,
    fun _ _ hF => absurd hF.1 List.not_mem_nil⟩

/-- Every frame opens once and settles at most once. Cards are spent into it and pipelines wait on
it only while it stands, and as long as the game is not over, it is open exactly until it has been
released or restored. So it is in a run in which no input throws half-way. -/
theorem Reach.frames_once (h : Reach setup w) :
    Lived w.history ∧ (openedFrames w.history).Nodup ∧ (settledFrames w.history).Nodup ∧
    (∀ frameId ∈ w.gs.frames.keys, Stood frameId w.history) ∧
    (w.gs.board.gamePhase ≠ .concluded →
      ∀ frameId, Stood frameId w.history → frameId ∈ w.gs.frames.keys) := by
  obtain ⟨k, hlives, hwon⟩ := h.lives
  obtain ⟨hopened, hsettled, -⟩ := hlives.lived.once
  have hkeys : ∀ frameId, frameOpen frameId w.shape.frames ↔ frameId ∈ w.gs.frames.keys :=
    fun frameId => by rw [frameOpen_iff, ← GameState.map_id_frameShapes]; rfl
  refine ⟨hlives.lived, hopened, hsettled, fun frameId hmem => ?_, fun hphase frameId hstood => ?_⟩
  · obtain ⟨f, hf, rfl⟩ := (hkeys frameId).2 hmem
    exact hlives.standing f hf
  · refine (hkeys frameId).1 (hlives.kept ?_ frameId hstood)
    by_contra hsome
    exact hphase (hwon.verdict.atEnd.2 hsome)

/-- A table with a frame open, which has opened and not settled. -/
theorem Reach.frames_once_heroAtStake : ∃ w, Reach heroAtStake w ∧ w.gs.isBusy = true ∧
    Lived w.history ∧ ∀ frameId ∈ w.gs.frames.keys, Stood frameId w.history := by
  obtain ⟨w, h, hplayed⟩ := Reach.of_play _ _ _ _ heroAtStake_played
  obtain ⟨hlived, -, -, hstood, -⟩ := h.frames_once
  exact ⟨w, h, (Bool.and_eq_true _ _ |>.mp hplayed).1, hlived, hstood⟩

/-- Later on, windows have come in under ids drawn since. -/
theorem Later.tags {T : Table} (h : Later T w w') : Tags w w' :=
  Relation.reflTransGen_le_of_le (fun _ _ ⟨_, hstep⟩ => hstep.tags) _ _ h

/-- An id that was drawn and belongs to no open window belongs to none ever after. A window that is
still there later on is in the same frame, of the same kind, about the same card, and closed if it
was closed. No input throws half-way, before or after. -/
theorem Reach.windows_stay (h : Reach setup w) (hlater : Later setup.table w w') :
    (∀ windowId < w.nextId, windowId ∉ w.gs.openIds → windowId ∉ w'.gs.openIds) ∧
    ∀ windowId frameId win frameId' win', w.gs.windowById windowId = some (frameId, win) →
      w'.gs.windowById windowId = some (frameId', win') →
      frameId' = frameId ∧ win'.getType = win.getType ∧ win'.subjectCardId = win.subjectCardId ∧
        (win'.isOpen = true → win.isOpen = true) := by
  obtain ⟨-, hvalid, k, k', horigin, hpath, -⟩ := h.later hlater
  have hsound := (outerSystem setup.printedTable).inv_of_path horigin hvalid.sound
  refine ⟨fun i hdrawn hi hmem => ?_, fun windowId frameId win frameId' win' hfound hfound' => ?_⟩
  · exact (hlater.tags.opened i hmem).elim hi (Nat.not_le_of_lt hdrawn)
  obtain ⟨hwin, hid⟩ := GameState.hasWindow_windowById hfound
  obtain ⟨hwin', hid'⟩ := GameState.hasWindow_windowById hfound'
  obtain ⟨f, hf, rfl, hv⟩ := hwin.shape
  obtain ⟨g, hg, rfl, hv'⟩ := hwin'.shape
  have hpinned := (Pinned.start hsound.ids hf hv).path hsound hpath
  obtain ⟨hframe, htype, hsubject, hclosed⟩ := hpinned.place g hg _ hv' (hid'.trans hid.symm)
  refine ⟨hframe, htype, hsubject, fun hopen => ?_⟩
  by_contra hshut
  have hresolved := hclosed (by simpa [Window.isOpen, Window.shape] using hshut)
  simp [Window.isOpen, show win'.resolved = true from hresolved] at hopen

/-- The question whether to roll for the hero lapses, its player ends the turn, and the other seat
plays a hero of its own. -/
def questionLapses : List Input :=
  [.tick 60000, .windowLapse 4, .command "A" (.action .endTurn),
   .command "B" (.action (.playHero "hero-002"))]

/-- The contest of the first hero is over, and that of the second stands later on. -/
theorem heroAtStake_goesOn :
    ((heroAtStake.play 40 [.command "A" (.action (.playHero "hero-001")),
        .command "B" (.passWindow 1)]).any fun w =>
      decide (1 < w.nextId) && !w.gs.openIds.contains 1 && w.gs.openIds.contains 4 &&
        (playOn heroAtStake.table 40 questionLapses w).any fun w' =>
          w'.gs.openIds.contains 6) = true := by
  decide +kernel

/-- A window that has closed stays closed while another one lapses and a third one opens. -/
theorem Reach.windows_stay_heroAtStake : ∃ w w' : World, Reach heroAtStake w ∧
    playOn heroAtStake.table 40 questionLapses w = some w' ∧ 1 ∉ w.gs.openIds ∧ 4 ∈ w.gs.openIds ∧
    6 ∈ w'.gs.openIds ∧ 1 ∉ w'.gs.openIds := by
  obtain ⟨w, h, hplayed⟩ := Reach.of_play _ _ _ _ heroAtStake_goesOn
  simp only [Bool.and_eq_true, Bool.not_eq_true', decide_eq_true_eq, List.contains_eq_mem,
    decide_eq_false_iff_not] at hplayed
  obtain ⟨⟨⟨hdrawn, hclosed⟩, hopen⟩, hgoes⟩ := hplayed
  obtain ⟨w', hplay, hnew⟩ := Option.any_eq_true _ _ |>.1 hgoes
  have hstays := (h.windows_stay (.of_playOn hplay)).1 1 hdrawn hclosed
  exact ⟨w, w', h, hplay, hclosed, hopen, by simpa using hnew, hstays⟩

/-! ## The line of actions -/

/-- Actions are taken up in the order in which they were queued, each once at most; those that have
not been taken up wait in that order. Who waits is the seat whose turn it is, in the turn in which
it queued its action, and it waits for a window to close, unless the game is over. So it is in a run
in which no input throws half-way. -/
theorem Reach.queue_waits (h : Reach setup w) :
    (∃ taken, queuedActions w.history = taken ++ w.turnManager.actionQueue ∧
      (executedActions w.history).Sublist taken) ∧
    ∀ action ∈ w.turnManager.actionQueue,
      w.gs.board.currentPlayerId = some action.playerId ∧
      QueuedIn w.history action w.turnManager.turn ∧
      (w.gs.openWindows ≠ [] ∨ w.gs.board.gamePhase = .concluded) := by
  obtain ⟨hvalid, k, hpath, hrest⟩ := h.machine
  have hline : InLine (k, w.shape) := InLine.path ⟨[], rfl, .refl _⟩ hpath
  have hturns := Disciplined.path hvalid.sound hvalid.disciplined hpath
  refine ⟨hline, fun action hmem => ?_⟩
  obtain ⟨hcurrent, hqueued⟩ := hturns.queue action hmem
  refine ⟨hcurrent, hqueued, ?_⟩
  obtain hover | hnobody | hopen | hnone := hrest.served
  · exact .inr hover
  · exact nomatch hnobody.symm.trans hcurrent
  · obtain ⟨frame, hframe, hwindow⟩ := List.any_eq_true.1 hopen
    obtain ⟨v, hv, hstands⟩ := List.any_eq_true.1 hwindow
    refine .inl (List.ne_nil_of_mem (a := v) ?_)
    exact List.mem_flatMap.2 ⟨frame, hframe, List.mem_filter.2 ⟨hv, hstands⟩⟩
  · rw [hnone] at hmem
    cases hmem

/-- The first seat would end its turn while the table waits for a challenge. -/
theorem heroAtStake_queued :
    ((heroAtStake.play 40 [.command "A" (.action (.playHero "hero-001")),
        .command "A" (.action .endTurn)]).any fun w =>
      w.turnManager.actionQueue.contains ⟨"A", .endTurn⟩) = true := by
  decide +kernel

/-- The end of the turn waits behind the contest. -/
theorem Reach.queue_waits_heroAtStake : ∃ w, Reach heroAtStake w ∧
    (⟨"A", .endTurn⟩ : Action) ∈ w.turnManager.actionQueue ∧
    w.gs.board.currentPlayerId = some "A" ∧
    (w.gs.openWindows ≠ [] ∨ w.gs.board.gamePhase = .concluded) := by
  obtain ⟨w, h, hqueued⟩ := Reach.of_play _ _ _ _ heroAtStake_queued
  have hmem : (⟨"A", .endTurn⟩ : Action) ∈ w.turnManager.actionQueue := by simpa using hqueued
  obtain ⟨hcurrent, -, hwaits⟩ := h.queue_waits.2 _ hmem
  exact ⟨w, h, hmem, hcurrent, hwaits⟩

end HereToSlaughter
