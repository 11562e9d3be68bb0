import HereToSlaughter.Runs.Basic
import HereToSlaughter.Writes.Tagged

/-!
# No table gets stuck

Once an input has been worked off, what is paused waits on a frame with an open window, and a busy
table has a window whose time, when it is up, closes it. The drain itself may stop too early: a
step that opens a window and starts pipelines above its own leaves them un-run.

Reference: `pipelines/task-manager.ts`, `pipelines/game-state.ts`.
-/

namespace HereToSlaughter

open Lib EngineM

variable {setup : GameSetup} {w : World}

/-! ## A busy table has a window to wait for -/

/-- What came after a frame is not before it. -/
theorem framesAfter_cons_of_ne {frameId : Nat} {f : FrameShape} {fs : List FrameShape}
    (h : f.id ≠ frameId) : framesAfter frameId (f :: fs) = framesAfter frameId fs := by
  simp [framesAfter, h]

/-- After the first frame come all the others. -/
theorem framesAfter_cons_self (f : FrameShape) (fs : List FrameShape) :
    framesAfter f.id (f :: fs) = fs.map FrameShape.id := by
  simp [framesAfter]

/-- Among the frames with an open window one is the newest. -/
theorem exists_newest : ∀ {fs : List FrameShape}, (fs.map FrameShape.id).Nodup →
    fs.any FrameShape.hasOpenWindow = true →
    ∃ f ∈ fs, f.hasOpenWindow = true ∧ openAfter f.id fs = false
  | f :: fs, hnodup, hopen => by
    obtain ⟨hf, hfs⟩ := List.nodup_cons.1 hnodup
    cases hrest : fs.any FrameShape.hasOpenWindow with
    | true =>
      obtain ⟨g, hg, hgopen, hafter⟩ := exists_newest hfs hrest
      have hne : f.id ≠ g.id := fun hid => hf (hid ▸ List.mem_map_of_mem hg)
      refine ⟨g, List.mem_cons_of_mem _ hg, hgopen, ?_⟩
      have hself : f.id ∉ framesAfter g.id fs := fun hmem =>
        hf ((List.tail_sublist _).subset hmem |> (List.dropWhile_sublist _).subset)
      rw [openAfter, framesAfter_cons_of_ne hne, List.any_cons, decide_eq_false hself]
      exact hafter
    | false =>
      refine ⟨f, List.mem_cons_self, by simpa [hrest] using hopen, ?_⟩
      rw [openAfter, framesAfter_cons_self, List.any_eq_false]
      intro g hg
      rcases List.mem_cons.1 hg with rfl | hg
      · simp [hf]
      · simp [List.any_eq_false.1 hrest g hg]

/-- What is paused at rest waits on an open frame with an open window. -/
theorem Rest.paused {cards : Cards} {k : Control} (hsound : Sound cards (k, w.shape))
    (hrest : Rest k w)
    {p : AbilityPipeline} {frameId : Nat} (hp : p ∈ w.gs.pipelines)
    (hpaused : p.pausedOn = some frameId) :
    ∃ frame, w.gs.frames.get? frameId = some frame ∧ frame.hasOpenWindow = true := by
  have hframe := hsound.stack.paused p.shape (List.mem_map_of_mem hp) frameId hpaused
  obtain ⟨f, hf, rfl⟩ | hgone := hframe
  · obtain ⟨frame, hmem, hshape⟩ := GameState.mem_frameShapes hf
    refine ⟨frame, OrderedMap.get?_eq_some.2 hmem, ?_⟩
    rw [← GameFrame.shape_hasOpenWindow f.id, hshape]
    exact hrest.windowed hsound f hf
  · exact nomatch hrest.calm.settling.symm.trans hgone

/-- A table with no open window has nothing on the stack. -/
theorem Rest.idle {cards : Cards} {k : Control} (hsound : Sound cards (k, w.shape))
    (hrest : Rest k w)
    (hopen : w.gs.hasOpenFrames = false) : w.gs.pipelines = [] :=
  hrest.calm.idle hsound (hrest.going.rested rfl).flow hopen

/-- No action waits on an idle board in a game that goes on. -/
theorem Reach.served (h : Reach setup w) (hphase : w.gs.board.gamePhase ≠ .concluded)
    {playerId : String} (hcurrent : w.gs.board.currentPlayerId = some playerId)
    (hidle : w.gs.isBusy = false) : w.turnManager.actionQueue = [] := by
  obtain ⟨k, -, hrest⟩ := h.sound
  obtain hover | hnobody | hopen | hqueue := hrest.served
  · exact absurd hover hphase
  · exact nomatch hcurrent.symm.trans hnobody
  · simp [GameState.isBusy, hopen] at hidle
  · exact hqueue

/-- A window that stands in an open frame is the one its id finds. -/
theorem Tagged.windowById_of_mem (htagged : Tagged w) {frameId : Nat} {frame : GameFrame}
    {win : Window}
    (hframe : (frameId, frame) ∈ w.gs.frames.entries) (hwin : win ∈ frame.windows) :
    w.gs.windowById win.id = some (frameId, win) := by
  have hsome : (w.gs.windowById win.id).isSome = true := by
    refine List.findSome?_isSome_iff.2 ⟨_, hframe, ?_⟩
    rw [Option.isSome_map]
    exact List.find?_isSome.2 ⟨win, hwin, by simp⟩
  obtain ⟨⟨F, v⟩, hfound⟩ := Option.isSome_iff_exists.1 hsome
  obtain ⟨⟨frame', hframe', hv⟩, hid⟩ := GameState.hasWindow_windowById hfound
  have hmem' := OrderedMap.get?_eq_some.1 hframe'
  obtain ⟨hwindows, hapart⟩ := List.nodup_flatMap.1 htagged.nodup
  -- two frames have no window of one id
  have hsame : (frameId, frame) = (F, frame') := by
    by_contra hne
    have : Std.Symm
      (Function.onFun List.Disjoint fun e : Nat × GameFrame => e.2.windows.map Window.id) :=
      ⟨fun _ _ h => h.symm⟩
    exact hapart.forall hframe hmem' hne (List.mem_map_of_mem hwin) (hid ▸ List.mem_map_of_mem hv)
  cases hsame
  obtain rfl : v = win := List.inj_on_of_nodup_map (hwindows _ hframe) hv hwin hid
  exact hfound

/-- A window of the newest frame that has an open window. -/
structure GameState.Newest (gs : GameState) (frameId : Nat) (win : Window) : Prop where
  found : gs.windowById win.id = some (frameId, win)
  stands : win.isOpen = true
  newest : gs.hasOpenFramesAfter frameId = false

/-- As long as a window is open, the newest frame with an open window has one. -/
theorem Tagged.newest_of_open (htagged : Tagged w) (hopen : w.gs.hasOpenFrames = true) :
    ∃ frameId win, w.gs.Newest frameId win := by
  have hnodup : (w.shape.frames.map FrameShape.id).Nodup := by
    simpa [World.shape, GameState.frameShapes, GameFrame.shape, Function.comp_def]
      using w.gs.frames.nodup
  rw [← GameState.hasOpenFrames_shape, Shape.hasOpenFrames] at hopen
  obtain ⟨f, hf, hstands, hafter⟩ := exists_newest hnodup hopen
  obtain ⟨frame, hmem, hshape⟩ := GameState.mem_frameShapes hf
  rw [← hshape, GameFrame.shape_hasOpenWindow] at hstands
  obtain ⟨win, hwin, hwinopen⟩ := List.any_eq_true.1 hstands
  exact ⟨f.id, win, htagged.windowById_of_mem hmem hwin, hwinopen,
    GameState.openAfter_shape w f.id ▸ hafter⟩

/-- The lapse of a window whose time is up closes it, whether it returns or throws: a question in
any case, a roll or a challenge unless a window of a newer frame stands. -/
theorem Tagged.lapse_closes {T : Table} (htagged : Tagged w) {frameId : Nat} {win : Window}
    (hfound : w.gs.windowById win.id = some (frameId, win)) (hopen : win.isOpen = true)
    (hdue : win.deadline ≤ w.now)
    (hafter : win.isPassable = true → w.gs.hasOpenFramesAfter frameId = false) (fuel : Nat) :
    win.id ∉ (comesTo (handle T fuel (.windowLapse win.id)) w).gs.openIds := by
  obtain ⟨⟨frame, hframe, hwin⟩, -⟩ := GameState.hasWindow_windowById hfound
  have hdrawn : win.id < w.nextId := htagged.drawn _ <|
    GameState.mem_windowIds.2 ⟨_, OrderedMap.get?_eq_some.1 hframe, win, hwin, rfl⟩
  have hget : ∀ act : GameState → EngineM Unit,
      comesTo (EngineM.getGs >>= act) w = comesTo (act w.gs) w := fun _ => rfl
  change win.id ∉ (comesTo (windowLapse T (emit T fuel) win.id) w).gs.openIds
  unfold windowLapse
  rw [hget, hfound]
  change win.id ∉ (comesTo (if win.deadline ≤ w.now then _ else _ : EngineM Unit) w).gs.openIds
  rw [if_pos hdue]
  exact Closes.resolve (Tags.emit fuel) hopen hafter hdrawn

/-- Nothing wedges a table: what is paused waits on an open frame with an open window, nothing is
on the stack when no window is open, and a busy table has an open window that the lapse of its time
closes, whether it returns or throws. So it is in a run in which no input throws half-way. -/
theorem Reach.no_wedge (h : Reach setup w) :
    (∀ p ∈ w.gs.pipelines, ∀ frameId, p.pausedOn = some frameId →
      ∃ frame, w.gs.frames.get? frameId = some frame ∧ frame.hasOpenWindow = true) ∧
    (w.gs.hasOpenFrames = false → w.gs.pipelines = []) ∧
    (w.gs.isBusy = true → ∃ frameId win, w.gs.windowById win.id = some (frameId, win) ∧
      win.isOpen = true ∧ ∀ late fuel, win.deadline ≤ w.now + late → win.id ∉
        (comesTo (handle setup.table fuel (.windowLapse win.id))
        { w with now := w.now + late }).gs.openIds) := by
  obtain ⟨k, hsound, hrest⟩ := h.sound
  refine ⟨fun p hp F hF => hrest.paused hsound hp hF, hrest.idle hsound, fun hbusy => ?_⟩
  have hopenFrames : w.gs.hasOpenFrames = true := by
    by_contra hclosed
    have hnone := Bool.eq_false_iff.2 hclosed
    simp [GameState.isBusy, hnone, hrest.idle hsound hnone] at hbusy
  have htagged := (course_whole_iff.2 h).tagged
  obtain ⟨frameId, win, hfound, hwinopen, hafter⟩ := htagged.newest_of_open hopenFrames
  refine ⟨frameId, win, hfound, hwinopen, fun late fuel hdue => ?_⟩
  -- the clock has run on, and nothing else has changed
  have hlater : Tagged { w with now := w.now + late } := ⟨htagged.nodup, htagged.drawn⟩
  exact hlater.lapse_closes hfound hwinopen hdue (fun _ => hafter) fuel

/-- A hero has been played, and the table waits for a challenge. -/
def heroAtStake : GameSetup :=
  tableForTwo 1 [heroCard "hero-001" .fighter 8, heroCard "hero-002" .thief 8] []

/-- The table is busy, and the second seat may not draw. -/
theorem heroAtStake_played :
    ((heroAtStake.play 40 [.command "A" (.action (.playHero "hero-001"))]).any fun w =>
      w.gs.isBusy && match (route heroAtStake.table (emit heroAtStake.table 40) 40 "B"
          (.action .drawCard)).run w with
        | .ok (.refused .notYourTurn) _ => true
        | _ => false) = true := by
  decide +kernel

/-- A busy board, and the window it waits for. -/
theorem Reach.no_wedge_heroAtStake : ∃ w, Reach heroAtStake w ∧ w.gs.isBusy = true ∧
    ∃ frameId win, w.gs.windowById win.id = some (frameId, win) ∧ win.isOpen = true := by
  obtain ⟨w, h, hplayed⟩ := Reach.of_play _ _ _ _ heroAtStake_played
  have hbusy := (Bool.and_eq_true _ _ |>.mp hplayed).1
  obtain ⟨-, -, hwindow⟩ := h.no_wedge
  obtain ⟨frameId, win, hfound, hopen, -⟩ := hwindow hbusy
  exact ⟨w, h, hbusy, frameId, win, hfound, hopen⟩

/-! ## What a drain leaves on the stack -/

/-- A drain leaves nothing un-run: the stack is empty, or its top waits on an open frame. That is so
as long as no input throws half-way, unless the step that was suspended last has announced an event
since it opened its frame that a rule in play starts on, and no event has gone out after it. -/
theorem Course.drained (hcourse : Course setup (Whole setup.table) w)
    (hovertook : setup.table.rules.overtook w.history = false) :
    w.gs.pipelines = [] ∨ ∃ p frameId, w.gs.pipelines.head? = some p ∧
      p.pausedOn = some frameId ∧ w.gs.frames.has frameId = true := by
  have h : Reach setup w := course_whole_iff.1 hcourse
  obtain ⟨hvalid, k, hpath, hrest⟩ := h.machine
  have hsound : Sound setup.table.cards (k, w.shape) :=
    (outerSystem setup.printedTable).inv_of_path hpath hvalid.sound
  have hburied : Buried setup.table (k, w.shape) :=
    Buried.path (.of_idle rfl fun F hcut => nomatch (show Flow.halted = .cut F from hcut)) hpath
  have hhalted : w.shape.pipelines = [] ∨ ∃ p, w.shape.top = some p ∧ p.pausedOn.isSome := by
    cases hflow : k.flow with
    | flowing => exact absurd hflow (hrest.going.rested rfl).flow
    | halted => exact hsound.stack.halted hflow
    | cut F =>
      obtain hnil | hcut := hburied.cut F hflow
      · exact .inl hnil
      · exact nomatch hovertook.symm.trans hcut
  obtain hnil | ⟨p, hp, hpaused⟩ := hhalted
  · exact .inl (List.map_eq_nil_iff.1 hnil)
  · obtain ⟨F, hF⟩ := Option.isSome_iff_exists.1 hpaused
    obtain ⟨q, hq, rfl⟩ : ∃ q, w.gs.pipelines.head? = some q ∧ q.shape = p := by
      simpa [Shape.top, World.shape, GameState.pipelineShapes] using hp
    obtain ⟨frame, hframe, -⟩ := hrest.paused hsound (List.mem_of_mem_head? hq) hF
    exact .inr ⟨q, F, hq, hF, World.has_of_get? hframe⟩

/-- Hook plays a Decoy Doll: the Doll's own behaviour starts above Hook's as it is equipped, and the
challenge window that opens next parks Hook's. -/
def hookAndDoll : GameSetup :=
  tableForTwo 2 [heroCard "hero-013" .fighter 2, ⟨"item-066", "item-066", "base", .item false none⟩,
    heroCard "hero-001" .thief 8, heroCard "hero-002" .thief 8, heroCard "hero-003" .thief 8] [5, 5]

/-- Hook is played, rolled on and passed by both seats, and the Doll goes on Hook. -/
def hookPlaysDoll : List Input :=
  [.command "A" (.action (.playHero "hero-013")), .command "B" (.passWindow 1),
   .command "A" (.submitChoice 4 (some (.id CONFIRM))), .command "A" (.passWindow 7),
   .command "B" (.passWindow 7), .command "A" (.submitChoice 10 (some (.id "item-066"))),
   .command "A" (.submitChoice 12 (some (.id "hero-013")))]

/-- The table waits for the hero to equip, and nothing has overtaken the step that asked for it;
afterwards what the Doll has started lies on top un-paused. -/
theorem hookPlaysDoll_played :
    ((hookAndDoll.play 60 (hookPlaysDoll.take 6)).any fun w =>
      !w.gs.pipelines.isEmpty && !hookAndDoll.table.rules.overtook w.history) = true ∧
    ((hookAndDoll.play 60 hookPlaysDoll).any fun w =>
      w.gs.pipelines.head?.any fun p => p.pausedOn.isNone) = true := by
  decide +kernel

/-- Hook has asked, and its pipeline is paused on the question. -/
theorem Course.drained_hookAsks : ∃ w, Course hookAndDoll (Whole hookAndDoll.table) w ∧
    w.gs.pipelines ≠ [] ∧ ∃ p frameId, w.gs.pipelines.head? = some p ∧
      p.pausedOn = some frameId ∧ w.gs.frames.has frameId = true := by
  obtain ⟨w, h, hplayed⟩ := Reach.of_play _ _ _ _ hookPlaysDoll_played.1
  rw [Bool.and_eq_true, Bool.not_eq_true', Bool.not_eq_true', List.isEmpty_eq_false_iff] at hplayed
  obtain ⟨hstack, hovertook⟩ := hplayed
  have hcourse := course_whole_iff.2 h
  exact ⟨w, hcourse, hstack, (hcourse.drained hovertook).resolve_left hstack⟩

/-- Hook has put a doll on a hero: the event has started a pipeline above its own, which rests
there un-paused. -/
theorem not_drained_hookPlaysDoll : ∃ w, Course hookAndDoll (Whole hookAndDoll.table) w ∧
    ¬ (w.gs.pipelines = [] ∨ ∃ p frameId, w.gs.pipelines.head? = some p ∧
      p.pausedOn = some frameId ∧ w.gs.frames.has frameId = true) := by
  obtain ⟨w, h, htop⟩ := Reach.of_play _ _ _ _ hookPlaysDoll_played.2
  obtain ⟨p, hp, hidle⟩ := Option.any_eq_true _ _ |>.1 htop
  refine ⟨w, course_whole_iff.2 h, ?_⟩
  rintro (hnil | ⟨q, frameId, hq, hpaused, -⟩)
  · rw [hnil] at hp
    cases hp
  · cases hp.symm.trans hq
    rw [hpaused] at hidle
    cases hidle

end HereToSlaughter
