import HereToSlaughter.Machine.Deal
import HereToSlaughter.Writes.Engine

/-!
# Windows that open and windows that close

Every window has an id of its own, drawn before the window stood (`Tagged`). Whatever the engine
does, and whether it returns or throws, what is open afterwards was open before or has an id drawn
since (`Tags`); so a window that has closed stays closed. A settlement closes its window before it
announces anything, and nothing that is set off then opens the window again, however it comes out
(`Closes`).

Reference: `pipelines/game-state.ts`, `resolve` of the windows of `reactions/*.ts`.
-/

namespace HereToSlaughter

open Lib EngineM

/-! ## The windows of a game state -/

namespace GameState

/-- The ids of the windows, frame by frame. -/
def windowIds (gs : GameState) : List Nat :=
  gs.frames.entries.flatMap fun e => e.2.windows.map Window.id

/-- The open windows, by id. -/
def openIds (gs : GameState) : List Nat := gs.openWindows.map Window.id

variable {gs gs' : GameState} {i : Nat}

/-- The open windows of the frames, one by one. -/
theorem mem_openWindows {v : Window} :
    v ∈ gs.openWindows ↔ ∃ e ∈ gs.frames.entries, v ∈ e.2.windows ∧ v.isOpen = true := by
  simp only [openWindows, OrderedMap.values, List.mem_flatMap, List.mem_map, List.mem_filter]
  constructor
  · rintro ⟨_, ⟨e, he, rfl⟩, hv, hopen⟩
    exact ⟨e, he, hv, hopen⟩
  · rintro ⟨e, he, hv, hopen⟩
    exact ⟨_, ⟨e, he, rfl⟩, hv, hopen⟩

/-- A window found by its id that is open is one of the open windows. -/
theorem mem_openWindows_of_windowById {windowId frameId : Nat} {win : Window}
    (h : gs.windowById windowId = some (frameId, win)) (hopen : win.isOpen = true) :
    win ∈ gs.openWindows := by
  obtain ⟨⟨frame, hframe, hwin⟩, -⟩ := hasWindow_windowById h
  exact mem_openWindows.2 ⟨_, OrderedMap.get?_eq_some.1 hframe, hwin, hopen⟩

/-- The windows of a state lie in its frames. -/
theorem mem_windowIds : i ∈ gs.windowIds ↔
    ∃ e ∈ gs.frames.entries, ∃ v ∈ e.2.windows, v.id = i := by
  simp only [windowIds, List.mem_flatMap, List.mem_map]

/-- So do the open ones. -/
theorem mem_openIds : i ∈ gs.openIds ↔
    ∃ e ∈ gs.frames.entries, ∃ v ∈ e.2.windows, v.isOpen = true ∧ v.id = i := by
  simp only [openIds, List.mem_map, mem_openWindows]
  constructor
  · rintro ⟨v, ⟨e, he, hv, hopen⟩, rfl⟩
    exact ⟨e, he, v, hv, hopen, rfl⟩
  · rintro ⟨e, he, v, hv, hopen, rfl⟩
    exact ⟨v, ⟨e, he, hv, hopen⟩, rfl⟩

/-- Each window that is open was open before. -/
theorem openIds_subset (h : ∀ e ∈ gs'.frames.entries, ∀ v ∈ e.2.windows, v.isOpen = true →
    v.id ∈ gs.openIds) : gs'.openIds ⊆ gs.openIds := by
  intro i hi
  obtain ⟨e, he, v, hv, hopen, rfl⟩ := mem_openIds.1 hi
  exact h e he v hv hopen

/-- The windows are written to where they stand, and none opens. -/
structure Ages (gs gs' : GameState) : Prop where
  ids : gs'.windowIds.Sublist gs.windowIds
  opened : gs'.openIds ⊆ gs.openIds

/-- Each window of each frame is written to. -/
theorem Ages.of_mapValues {f : Nat → Window → Window} (hid : ∀ frameId v, (f frameId v).id = v.id)
    (hopen : ∀ frameId v, (f frameId v).isOpen = true → v.isOpen = true)
    (hframes : gs'.frames = gs.frames.mapValues fun frameId frame =>
      { frame with windows := frame.windows.map (f frameId) }) : gs.Ages gs' where
  ids := by
    have heq : gs'.windowIds = gs.windowIds := by
      simp [windowIds, hframes, List.flatMap_map, Function.comp_def, hid]
    exact heq ▸ List.Sublist.refl _
  opened := openIds_subset fun e' he' v' hv' hopen' => by
    rw [hframes] at he'
    obtain ⟨e, he, rfl⟩ := List.mem_map.1 he'
    obtain ⟨v, hv, rfl⟩ := List.mem_map.1 hv'
    exact mem_openIds.2 ⟨e, he, v, hv, hopen e.1 v hopen', (hid e.1 v).symm⟩

/-- A state that has aged twice has aged. -/
theorem Ages.trans {gs'' : GameState} (h : gs.Ages gs') (h' : gs'.Ages gs'') : gs.Ages gs'' :=
  ⟨h'.ids.trans h.ids, List.Subset.trans h'.opened h.opened⟩

/-- The frames have not been touched. -/
theorem Ages.of_frames (h : gs'.frames = gs.frames) : gs.Ages gs' := by
  have hids : gs'.windowIds = gs.windowIds := by rw [windowIds, h]; rfl
  have hopen : gs'.openIds = gs.openIds := by rw [openIds, openWindows, h]; rfl
  exact ⟨hids ▸ List.Sublist.refl _, hopen ▸ List.Subset.refl _⟩

/-- A window changed ages a state, if the change neither renames nor reopens it. -/
theorem Ages.modifyWindow (windowId : Nat) {f : Window → Window} (hid : ∀ v, (f v).id = v.id)
    (hopen : ∀ v, (f v).isOpen = true → v.isOpen = true) :
    gs.Ages (gs.modifyWindow windowId f) := by
  refine of_mapValues (f := fun _ v => if v.id = windowId then f v else v) (fun _ v => ?_)
    (fun _ v => ?_) rfl
  · split
    · exact hid v
    · rfl
  · split
    · exact hopen v
    · exact id

/-- Clocks started again age a state. -/
theorem Ages.restartClocks (now : Nat) (select : Nat → Bool) :
    gs.Ages (gs.restartClocks now select) := by
  refine of_mapValues (f := fun frameId v => if select frameId then v.restartClock now else v)
    (fun _ v => ?_) (fun _ v => ?_) ?_
  · split
    · exact (Window.Follows.restartClock now).id
    · rfl
  · split
    · exact (Window.Follows.restartClock now).stands
    · exact id
  · have hwritten : ∀ frameId (frame : GameFrame),
        (if select frameId then { frame with windows := frame.windows.map (·.restartClock now) }
          else frame) = { frame with
            windows := frame.windows.map fun v =>
              if select frameId then v.restartClock now else v } := by
      intro frameId frame
      split <;> simp
    simp only [GameState.restartClocks, hwritten]

/-- A frame goes, with its windows. -/
theorem Ages.erase (frameId : Nat)
    (h : gs'.frames = gs.frames ∨ gs'.frames = gs.frames.erase frameId) : gs.Ages gs' := by
  obtain h | h := h
  · exact of_frames h
  · refine ⟨?_, openIds_subset fun e he v hv hopen => mem_openIds.2 ⟨e, ?_, v, hv, hopen, rfl⟩⟩
    · rw [windowIds, h, OrderedMap.entries_erase]
      exact List.filter_sublist.flatMap _
    · rw [h, OrderedMap.entries_erase] at he
      exact (List.mem_filter.1 he).1

/-- A frame opens without a window, in the place of one that had its id, if there was one. -/
theorem Ages.addFrame (frameId : Nat) : gs.Ages (gs.addFrame frameId) := by
  refine ⟨?_, openIds_subset fun e he v hv hopen => ?_⟩
  · rw [windowIds, GameState.addFrame]
    by_cases hk : frameId ∈ gs.frames.keys
    · rw [OrderedMap.set_of_mem hk, OrderedMap.entries_modify, List.flatMap_map]
      refine List.Sublist.flatMap_right _ fun e _ => ?_
      dsimp only
      split
      · exact List.nil_sublist _
      · exact List.Sublist.refl _
    · rw [OrderedMap.entries_set_of_notMem hk, List.flatMap_append]
      simp [windowIds]
  · obtain he | rfl := OrderedMap.mem_entries_set he
    · exact mem_openIds.2 ⟨e, he, v, hv, hopen, rfl⟩
    · cases hv

/-- A window goes into the frame it is for, if that is open. -/
theorem windowIds_addWindow (frameId : Nat) (v : Window) :
    (gs.addWindow frameId v).windowIds.Perm gs.windowIds ∨
      (gs.addWindow frameId v).windowIds.Perm (v.id :: gs.windowIds) := by
  have hvalues : ∀ gs : GameState, gs.windowIds =
      gs.frames.values.flatMap fun frame => frame.windows.map Window.id := fun gs => by
    rw [windowIds, OrderedMap.values, List.flatMap_map]
  rw [hvalues gs, hvalues (gs.addWindow frameId v), GameState.addWindow]
  cases hget : gs.frames.get? frameId with
  | none =>
    rw [OrderedMap.modify_of_notMem (OrderedMap.get?_eq_none.1 hget)]
    exact .inl (.refl _)
  | some frame =>
    obtain ⟨rest, hbefore, hafter⟩ := OrderedMap.flatMap_modify hget
      (fun frame => { frame with windows := frame.windows ++ [v] })
      fun frame => frame.windows.map Window.id
    refine .inr (hafter.trans ?_)
    rw [List.map_append, List.append_assoc]
    exact List.perm_middle.trans (hbefore.symm.cons _)

/-- What is open once a window is in was open before, or is the window. -/
theorem mem_openIds_addWindow {frameId : Nat} {v : Window}
    (h : i ∈ (gs.addWindow frameId v).openIds) : i ∈ gs.openIds ∨ i = v.id := by
  obtain ⟨e', he', u, hu, hopen, rfl⟩ := mem_openIds.1 h
  obtain ⟨e, he, rfl⟩ := List.mem_map.1 he'
  dsimp only at hu
  split at hu
  · obtain hu | hu := List.mem_append.1 hu
    · exact .inl (mem_openIds.2 ⟨e, he, u, hu, hopen, rfl⟩)
    · exact .inr (congrArg Window.id (List.mem_singleton.1 hu))
  · exact .inl (mem_openIds.2 ⟨e, he, u, hu, hopen, rfl⟩)

end GameState

/-- What opens a window is no change: a change leaves the windows that stay under their ids, and
opens none. -/
theorem Change.ages {w w' : World} (h : Change w w') : w.gs.Ages w'.gs := by
  cases h with
  | managers | seat | tick | note | door | drawId | install => exact .of_frames rfl
  | state _ hframes => exact .of_frames hframes
  | openFrame frameId => exact .addFrame frameId
  | releaseFrame frameId =>
    unfold World.releaseFrame
    split
    · refine .erase frameId ?_
      dsimp only [GameState.releaseFrame]
      split
      · exact .inl rfl
      · exact .inr rfl
    · exact .of_frames rfl
  | restoreFrame frameId =>
    unfold World.restoreFrame
    split
    · refine .erase frameId ?_
      dsimp only [GameState.restoreFrame]
      split
      · exact .inl rfl
      · exact .inr rfl
    · exact .of_frames rfl
  | clear => exact ⟨List.nil_sublist _, List.nil_subset _⟩
  | window windowId hf => exact .modifyWindow windowId (fun v => (hf v).id) fun v => (hf v).stands
  | restart now select => exact .restartClocks now select
  | spend now playerId cardId frameId =>
    dsimp only [GameState.spendCard]
    split
    · exact .of_frames rfl
    · have hspent : ∀ v : Window, v.Follows (v.cardSpent now) := fun _ => .cardSpent now
      refine .trans ?_ (.modifyWindow _ (fun v => (hspent v).id) fun v => (hspent v).stands)
      exact .of_frames rfl

/-! ## What the engine does to them -/

/-- Every window has an id of its own, and it has been drawn. -/
structure Tagged (w : World) : Prop where
  nodup : w.gs.windowIds.Nodup
  drawn : ∀ i ∈ w.gs.windowIds, i < w.nextId

/-- From one state to a later one, windows come in under ids drawn since, and only they open. -/
structure Tags (w w' : World) : Prop where
  drawn : w.nextId ≤ w'.nextId
  windows : ∀ i ∈ w'.gs.windowIds, i ∈ w.gs.windowIds ∨ w.nextId ≤ i
  opened : ∀ i ∈ w'.gs.openIds, i ∈ w.gs.openIds ∨ w.nextId ≤ i
  tagged : Tagged w → Tagged w'

namespace Tags

variable {w w' w'' : World}

instance : Std.Refl Tags := ⟨fun _ => ⟨Nat.le_refl _, fun _ => .inl, fun _ => .inl, id⟩⟩

instance : IsTrans World Tags where
  trans _ _ _ h h' :=
    { drawn := Nat.le_trans h.drawn h'.drawn
      windows := fun i hi => (h'.windows i hi).elim (h.windows i) fun hle =>
        .inr (Nat.le_trans h.drawn hle)
      opened := fun i hi => (h'.opened i hi).elim (h.opened i) fun hle =>
        .inr (Nat.le_trans h.drawn hle)
      tagged := h'.tagged ∘ h.tagged }

/-- A state that ages opens nothing. -/
theorem of_ages (h : w.gs.Ages w'.gs) (hnext : w.nextId ≤ w'.nextId) : Tags w w' where
  drawn := hnext
  windows _ hi := .inl (h.ids.subset hi)
  opened _ hi := .inl (h.opened hi)
  tagged hw := ⟨hw.nodup.sublist h.ids,
    fun i hi => Nat.lt_of_lt_of_le (hw.drawn i (h.ids.subset hi)) hnext⟩

/-- A change brings in no window. -/
theorem change (h : Change w w') : Tags w w' := of_ages h.ages h.nextId_le

/-- A window comes in under an id drawn for it, whatever has happened since that. -/
theorem insert (h : Tags { w with nextId := w.nextId + 1 } w') (frameId : Nat) {v : Window}
    (hid : v.id = w.nextId) : Tags w { w' with gs := w'.gs.addWindow frameId v } where
  drawn := Nat.le_trans (Nat.le_succ _) h.drawn
  windows i hi := by
    have hmem : i ∈ w'.gs.windowIds ∨ i = v.id :=
      (GameState.windowIds_addWindow frameId v).elim (fun hperm => .inl (hperm.subset hi))
        fun hperm => (List.mem_cons.1 (hperm.subset hi)).symm
    obtain hold | rfl := hmem
    · exact (h.windows i hold).imp id (Nat.le_of_succ_le ·)
    · exact .inr hid.ge
  opened i hi := by
    obtain hold | rfl := GameState.mem_openIds_addWindow hi
    · exact (h.opened i hold).imp id (Nat.le_of_succ_le ·)
    · exact .inr hid.ge
  tagged hw := by
    have hw' : Tagged w' := h.tagged ⟨hw.nodup, fun i hi => Nat.lt_succ_of_lt (hw.drawn i hi)⟩
    have hnew : v.id ∉ w'.gs.windowIds := fun hmem => by
      obtain hold | hle := h.windows _ hmem
      · exact Nat.lt_irrefl _ (hid ▸ hw.drawn _ hold)
      · exact Nat.not_succ_le_self _ (hid ▸ hle)
    have hlt : v.id < w'.nextId := hid ▸ h.drawn
    obtain hperm | hperm := w'.gs.windowIds_addWindow frameId v
    · exact ⟨hperm.nodup_iff.2 hw'.nodup, fun i hi => hw'.drawn i (hperm.subset hi)⟩
    · refine ⟨hperm.nodup_iff.2 (List.nodup_cons.2 ⟨hnew, hw'.nodup⟩), fun i hi => ?_⟩
      obtain rfl | hold := List.mem_cons.1 (hperm.subset hi)
      · exact hlt
      · exact hw'.drawn i hold

/-- What holds of each write holds along a path of them. -/
theorem of_path (h : Relation.ReflTransGen Tags w w') : Tags w w' :=
  Relation.reflTransGen_le_of_le (fun _ _ => id) _ _ h

instance : Allows Tags where
  change _ _ h := .single (change h)
  opens frameId hprepare hprepares := by
    have hdraw : ∀ w : World, Tags w { w with nextId := w.nextId + 1 } := fun w => change .drawId
    refine ⟨fun w a w' h => ?_, fun hthrown w e w' h => ?_⟩
    · obtain ⟨id, t, hrun, h⟩ := ran_of_bind h
      cases hrun
      obtain ⟨v, t, hrun, h⟩ := ran_of_bind h
      cases h
      exact .single ((of_path ((hprepare _).returns hrun)).insert frameId (hprepares _ hrun).1)
    · obtain h | ⟨id, t, hrun, h⟩ := threw_of_bind h
      · cases h
      · cases hrun
        obtain h | ⟨v, t, -, h⟩ := threw_of_bind h
        · exact .head (hdraw w) ((hprepare _).throws hthrown h)
        · cases h

variable {T : Table}

/-- An event opens what its listeners open, under fresh ids. -/
theorem emit : ∀ n event, Along True Tags (HereToSlaughter.emit T n event) :=
  Writes.emits (fun _ _ => .single (of_ages (.of_frames rfl) (Nat.le_refl _)))
    fun _ _ => .single (of_ages (.of_frames rfl) (Nat.le_refl _))

/-- Every input, whether it returns or throws. -/
theorem handle (fuel : Nat) (input : Input) :
    Along True Tags (HereToSlaughter.handle T fuel input) :=
  Writes.handles emit fuel input fun _ _ _ => .modifies fun _ => .single <|
    of_ages (.modifyWindow _ (Window.id_pass _) fun v h => v.isOpen_pass _ ▸ h) (Nat.le_refl _)

end Tags

/-- An input, thrown half-way or not, opens windows under fresh ids only. -/
theorem PlaysOn.tags {T : Table} {fuel : Nat} {w w' : World} {input : Input}
    (h : PlaysOn T fuel w input w') : Tags w w' := by
  cases h with
  | ok h => exact .of_path ((Tags.handle _ _).returns h)
  | threw h => exact .of_path ((Tags.handle _ _).throws trivial h)

/-- So does a step. -/
theorem Step.tags {T : Table} {w w' : World} {input : Input} (h : Step T w input w') :
    Tags w w' := by
  cases h with
  | ok h => exact .of_path ((Tags.handle _ _).returns h)
  | threw => exact Std.Refl.refl _

/-- Every window of every run has an id of its own. -/
theorem Course.tagged {setup : GameSetup} {w : World} {meets : Nat → World → Input → Prop}
    (h : Course setup meets w) : Tagged w := by
  induction h with
  | @start fuel w w' deal h =>
    obtain ⟨rfl, -⟩ := GameSetup.createGame_ok deal
    have hstart : Along True Tags (startGame setup fuel) :=
      .bind .get fun _ => Writes.starts Tags.emit fuel _
    exact (Tags.of_path (hstart.returns h)).tagged ⟨.nil, fun i hi => absurd hi List.not_mem_nil⟩
  | step _ _ h ih => exact h.tags.tagged ih

/-! ## Settlements -/

/-- However the program comes out, the window is not open afterwards. Its id has been drawn. -/
def Closes {α : Type} (windowId : Nat) (m : EngineM α) : Prop :=
  ∀ w, windowId < w.nextId → windowId ∉ (comesTo m w).gs.openIds

namespace Closes

variable {α β : Type} {windowId : Nat}

/-- The window closes, and what follows opens none but new ones. -/
theorem close {f : Unit → EngineM α} {g : Window → Window} (hclosed : ∀ v, (g v).isOpen = false)
    (hf : Along True Tags (f ())) :
    Closes windowId (modifyGs (GameState.modifyWindow windowId g) >>= f) := by
  intro w hdrawn hmem
  let t : World := { w with gs := w.gs.modifyWindow windowId g }
  have hrun : modifyGs (GameState.modifyWindow windowId g) w = .ok () t := rfl
  rw [comesTo_bind hrun] at hmem
  obtain hopen | hlate := (Tags.of_path (hf.reaches t)).opened _ hmem
  · obtain ⟨e', he', u, hu, hstands, hid⟩ := GameState.mem_openIds.1 hopen
    obtain ⟨e, he, rfl⟩ := List.mem_map.1 he'
    obtain ⟨v, hv, rfl⟩ := List.mem_map.1 hu
    split at hstands
    · exact nomatch hstands.symm.trans (hclosed v)
    · next hne =>
      rw [if_neg hne] at hid
      exact hne hid
  · exact Nat.lt_irrefl _ (Nat.lt_of_lt_of_le hdrawn hlate)

/-- What comes before returns, and takes back no id. -/
theorem next {m : EngineM α} {f : α → EngineM β}
    (hm : ∀ w, ∃ a w', m w = .ok a w' ∧ w.nextId ≤ w'.nextId) (hf : ∀ a, Closes windowId (f a)) :
    Closes windowId (m >>= f) := by
  intro w hdrawn
  obtain ⟨a, w', hrun, hle⟩ := hm w
  rw [comesTo_bind hrun]
  exact hf a w' (Nat.lt_of_lt_of_le hdrawn hle)

/-- A program that reads the clock first still closes the window. -/
theorem now {f : Nat → EngineM α} (hf : ∀ now, Closes windowId (f now)) :
    Closes windowId (EngineM.now >>= f) := next (fun w => ⟨w.now, w, rfl, Nat.le_refl _⟩) hf

/-- So does one that reads the state first. -/
theorem getGs {f : GameState → EngineM α} (hf : ∀ gs, Closes windowId (f gs)) :
    Closes windowId (EngineM.getGs >>= f) := next (fun w => ⟨w.gs, w, rfl, Nat.le_refl _⟩) hf

/-- So does one that changes the state first, whatever the change. -/
theorem modifyGs {f : Unit → EngineM α} (g : GameState → GameState) (hf : Closes windowId (f ())) :
    Closes windowId (EngineM.modifyGs g >>= f) :=
  next (fun w => ⟨(), { w with gs := g w.gs }, rfl, Nat.le_refl _⟩) fun _ => hf

section
variable {T : Table} {em : Emit} (hem : ∀ event, Along True Tags (em event)) {frameId : Nat}
  {win : Window} {w : World}
include hem

/-- A roll that settles closes first, unless a window of a newer frame stands. -/
theorem resolveRoll (body : RollBody) (hafter : w.gs.hasOpenFramesAfter frameId = false)
    (hdrawn : win.id < w.nextId) :
    win.id ∉ (comesTo (HereToSlaughter.resolveRoll T em frameId win body) w).gs.openIds := by
  change win.id ∉
    (comesTo (if w.gs.hasOpenFramesAfter frameId = true then _ else _ : EngineM Unit) w).gs.openIds
  rw [if_neg (by simp [hafter])]
  refine (modifyGs (GameState.restartWindowsOutside _ _) (close (fun _ => rfl) ?_)) w hdrawn
  exact .bind (hem _) fun _ => .bind (Writes.settleRoll hem _ _ _) fun _ => hem _

/-- So does a challenge. -/
theorem resolveChallenge (body : ChallengeBody) (hafter : w.gs.hasOpenFramesAfter frameId = false)
    (hdrawn : win.id < w.nextId) :
    win.id ∉ (comesTo (HereToSlaughter.resolveChallenge em frameId win body) w).gs.openIds := by
  change win.id ∉
    (comesTo (if w.gs.hasOpenFramesAfter frameId = true then _ else _ : EngineM Unit) w).gs.openIds
  rw [if_neg (by simp [hafter])]
  refine close (fun _ => rfl) ?_ w hdrawn
  exact .bind (Writes.restart _ _) fun _ => Writes.settleChallenge hem _ _ _

/-- A question closes in any case, once its default is drawn. -/
theorem resolveChoice (body : ChoiceBody) :
    Closes win.id (HereToSlaughter.resolveChoice T em frameId win body) := by
  have hdefault : (∃ n, drawDefault T body = random T.rng n) ∨ drawDefault T body = pure 0 := by
    unfold drawDefault
    split
    · exact .inl ⟨_, rfl⟩
    · exact .inr rfl
  have hdraws : ∀ w, ∃ index w', drawDefault T body w = .ok index w' ∧ w.nextId ≤ w'.nextId := by
    intro w
    obtain ⟨n, hrandom⟩ | hpure := hdefault
    · exact ⟨_, { w with randomAt := w.randomAt + 1 }, congrFun hrandom w, Nat.le_refl _⟩
    · exact ⟨0, w, congrFun hpure w, Nat.le_refl _⟩
  refine .now fun _ =>
    .modifyGs _ (.next hdraws fun index => .getGs fun gs => close (fun _ => rfl) ?_)
  exact Writes.settleChoice hem _ _ _ _

/-- An open window that settles has closed, however the settlement comes out: a question in any
case, a roll or a challenge unless a window of a newer frame stands. -/
theorem resolve (hopen : win.isOpen = true)
    (hafter : win.isPassable = true → w.gs.hasOpenFramesAfter frameId = false)
    (hdrawn : win.id < w.nextId) :
    win.id ∉ (comesTo (HereToSlaughter.resolve T em frameId win) w).gs.openIds := by
  have hresolved : ¬win.resolved = true := by simpa [Window.isOpen] using hopen
  unfold HereToSlaughter.resolve
  rw [if_neg hresolved]
  cases hbody : win.body with
  | roll body => exact resolveRoll hem body (hafter (by simp [Window.isPassable, hbody])) hdrawn
  | challenge body =>
    exact resolveChallenge hem body (hafter (by simp [Window.isPassable, hbody])) hdrawn
  | choice body => exact resolveChoice hem body w hdrawn

end

end Closes

end HereToSlaughter
