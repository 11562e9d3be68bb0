import HereToSlaughter.Refine.Turns

/-!
# Windows that settle, as the machine sees them

A window closes, its frame is released or restored, and `FrameResolved` goes out. A frame may go
with the game instead, when the drain its closing set off wins it.

Reference: `reactions/{modifiable-roll,modifier,attack,challenge,choice}-window.ts`.
-/

namespace HereToSlaughter

open Lib EngineM

/-- The window stands in this frame. -/
def Shape.HasWindow (s : Shape) (frameId : Nat) (w : WindowShape) : Prop :=
  ∃ f ∈ s.frames, f.id = frameId ∧ w ∈ f.windows

/-- A window of the state is one of its shape. -/
theorem GameState.HasWindow.world {s : World} {frameId : Nat} {w : Window}
    (h : s.gs.HasWindow frameId w) : s.shape.HasWindow frameId w.shape := h.shape

/-! ## Settling a frame, in the shape -/

namespace World

variable {s : World} {frameId : Nat} {frame : GameFrame}

/-- A frame looked up is there. -/
theorem has_of_get? (h : s.gs.frames.get? frameId = some frame) : s.gs.frames.has frameId = true :=
  OrderedMap.has_iff.2 (OrderedMap.get?_isSome.1 (by rw [h]; rfl))

/-- The frames left when one is gone. -/
theorem frameShapes_erase' : (s.gs.frames.erase frameId).entries.map (fun e => e.2.shape e.1) =
    s.shape.frames.filter fun f => f.id ≠ frameId :=
  GameState.frameShapes_erase frameId s.gs.frames

/-- A state that lets a frame go matches the shape without it, its spent cards put away. -/
theorem releaseFrame_matches (h : s.gs.frames.get? frameId = some frame) :
    (s.gs.releaseFrame frameId).Matches { s.shape with
      frames := s.shape.frames.filter (·.id ≠ frameId)
      board := GameState.putAway (s.shape.spentInto (frame.shape frameId)) s.shape.board } := by
  rw [GameState.releaseFrame, h]
  exact ⟨by rw [GameState.spentInto_shape]; rfl, frameShapes_erase', rfl⟩

/-- A state that is rolled back matches the shape without the frame, over the snapshot with its
spent cards taken back. -/
theorem restoreFrame_matches (h : s.gs.frames.get? frameId = some frame) :
    (s.gs.restoreFrame frameId).Matches { s.shape with
      frames := s.shape.frames.filter (·.id ≠ frameId)
      pipelines := s.shape.pipelines.filter (·.pausedOn ≠ some frameId)
      board := GameState.takeBack (s.shape.spentInto (frame.shape frameId)) frame.snapshot } := by
  rw [GameState.restoreFrame, h]
  refine ⟨by rw [GameState.spentInto_shape], frameShapes_erase', ?_⟩
  simp only [GameState.pipelineShapes, World.shape, List.filter_map, Function.comp_def]
  rfl

/-- So does the world: one mark more. -/
theorem shape_releaseFrame (h : s.gs.frames.get? frameId = some frame) :
    (s.releaseFrame frameId).shape = { s.shape with
      frames := s.shape.frames.filter (·.id ≠ frameId)
      board := GameState.putAway (s.shape.spentInto (frame.shape frameId)) s.shape.board
      history := .released frameId s.gs (s.gs.releaseFrame frameId) :: s.history } := by
  obtain ⟨hboard, hframes, hpipelines⟩ := releaseFrame_matches h
  rw [World.releaseFrame, if_pos (has_of_get? h)]
  simp only [World.shape] at hboard hframes hpipelines ⊢
  rw [hboard, hframes, hpipelines]

/-- So does the world: one mark more. -/
theorem shape_restoreFrame (h : s.gs.frames.get? frameId = some frame) :
    (s.restoreFrame frameId).shape = { s.shape with
      frames := s.shape.frames.filter (·.id ≠ frameId)
      pipelines := s.shape.pipelines.filter (·.pausedOn ≠ some frameId)
      board := GameState.takeBack (s.shape.spentInto (frame.shape frameId)) frame.snapshot
      history := .restored frameId s.gs (s.gs.restoreFrame frameId) :: s.history } := by
  obtain ⟨hboard, hframes, hpipelines⟩ := restoreFrame_matches h
  rw [World.restoreFrame, if_pos (has_of_get? h)]
  simp only [World.shape] at hboard hframes hpipelines ⊢
  rw [hboard, hframes, hpipelines]

end World

/-- Closing every window of an id, however the window is rewritten: there is one such window. -/
theorem GameState.frameShapes_settle {k : Control} {s : World} {frameId : Nat} {w : Window}
    {f : Window → Window} (hids : Ids k s.shape) (hw : s.shape.HasWindow frameId w.shape)
    (hf : ∀ v, v.shape = w.shape → (f v).shape = w.shape.close) :
    (s.gs.modifyWindow w.id f).frameShapes = s.gs.frameShapes.map (FrameShape.close w.id) := by
  obtain ⟨g, hg, -, hwg⟩ := hw
  simp only [modifyWindow, frameShapes, OrderedMap.entries_mapValues, List.map_map]
  refine List.map_congr_left fun e he => ?_
  simp only [Function.comp_apply, GameFrame.shape, GameFrame.modifyWindow, FrameShape.close,
    FrameShape.mk.injEq, List.map_map, true_and]
  refine List.map_congr_left fun v hv => ?_
  simp only [Function.comp_apply]
  by_cases hid : v.id = w.id
  · have hvw : v.shape = w.shape :=
      hids.shape_unique (List.mem_map_of_mem he) hg (List.mem_map_of_mem hv) hwg hid
    have hid' : v.shape.id = w.id := hid
    rw [if_pos hid, if_pos hid', hf v hvw, hvw]
  · have hid' : ¬ v.shape.id = w.id := hid
    rw [if_neg hid, if_neg hid']

/-- The questions of a frame stand in it. -/
theorem GameState.mem_frameChoices {gs : GameState} {frameId : Nat} {c : Window × ChoiceBody}
    (h : c ∈ gs.frameChoices frameId) :
    ∃ frame, gs.frames.get? frameId = some frame ∧ c.1 ∈ frame.windows := by
  unfold frameChoices at h
  split at h
  · cases h
  · rename_i frame hframe
    obtain ⟨w, hw, hc⟩ := List.mem_filterMap.1 h
    refine ⟨frame, hframe, ?_⟩
    split at hc
    · cases hc
      exact hw
    · cases hc

section
variable {T : PrintedTable} {k₀ k : Control} {s : World} {frameId : Nat} {subject : Option String}

/-- The ghost of a frame that has settled. -/
theorem At.gone {l : Control} {t : World} {fl fl₀ : List String} (h : At .amid k₀ k s)
    (hfl : fl = k.inFlight ∧ fl₀ = k₀.inFlight ∨ fl = fl₀)
    (hl : l = { k with settling := .gone frameId, inFlight := fl, flow := .flowing } ∨
      l = { k with
        settling := .gone frameId, inFlight := fl, flow := .flowing, unchecked := true })
    (hdraining : t.draining = s.draining) :
    At .amid { k₀ with settling := .gone frameId, inFlight := fl₀ } l t := by
  obtain ⟨hgoing, flow, unchecked, rfl⟩ := h
  obtain rfl : fl = fl₀ := hfl.elim (fun h => h.1.trans h.2.symm) id
  have hgoing' : ∀ unchecked, Going .amid { k₀ with
      settling := .gone frameId, inFlight := fl, flow := .flowing, unchecked } t := fun _ =>
    .amid (hdraining.trans (by simpa using hgoing.draining)) hgoing.clearing
      (hgoing.outside (by simp))
  rcases hl with rfl | rfl
  · exact ⟨hgoing' _, _, _, rfl⟩
  · exact ⟨hgoing' _, _, _, rfl⟩

/-- Where no card was in flight none is again. -/
theorem At.landed {d : Mode} (h : At d { k₀ with inFlight := [] } k s) (hk : k₀.inFlight = []) :
    At d k₀ k s := by
  rwa [← hk] at h

namespace Goes

/-- An event of a turn goes out, and any frame that a drain stopped at has opened since. -/
theorem speaks (n : Nat) (h : At .amid k₀ k s) (hspeaks : Speaks .outside k₀) {event : GameEvent}
    (hordinary : event.type.isOrdinary = true) {Q : Unit → Control → World → Prop}
    (hQ : ∀ k' s', At .outside k₀ k' s' → Since s.nextId (k', s'.shape) →
      SameTurn (k, s.shape) (k', s'.shape) → Q () k' s') : Goes T
      (emit T.toTable n event) Q k s := by
  refine .ghost (l := { k with flow := .flowing }) (Outer.inner (Inner.stir h.halted)) ?_
  refine (within (Runs.activeEmit n event k₀ _ s (h.stir .flowing) hordinary
    (Control.allows_playing hspeaks.playing hspeaks.paid ..) (hspeaks.landed.imp id .inl))).mono
      fun _ k' s' hs => ?_
  obtain ⟨⟨hat, -⟩, hpath⟩ := hs
  have hsince : Since s.nextId ({ k with flow := .flowing }, s.shape) :=
    Since.start (k := { k with flow := .flowing }) (s := s.shape) h.halted rfl
  obtain ⟨h₁, h₂, h₃, h₄, h₅, h₆, h₇⟩ := SameTurn.path hpath
  exact hQ k' s' hat (hsince.path hpath) ⟨h₁, h₂, h₃, h₄, h₅, h₆, fun h => h₇ ⟨h.1, h.2, h.3⟩⟩

/-- `releaseFrame`, of a frame whose last window has closed. -/
theorem releaseFrame (h : At .amid k₀ k s) (hk : k₀.Clear)
    (hsettling : k₀.settling = .closing frameId subject) :
    Goes T (EngineM.releaseFrame frameId) (fun _ k' s' =>
      At .amid { k₀ with settling := .gone frameId } k' s') k s := by
  cases hframe : s.gs.frames.get? frameId with
  | none =>
    have hclosed : ¬ s.gs.frames.has frameId = true := fun hhas => by
      have := OrderedMap.get?_isSome.2 (OrderedMap.has_iff.1 hhas)
      rw [hframe] at this
      cases this
    have hstays : s.releaseFrame frameId = s := if_neg hclosed
    have hstep := Outer.vanish (T := T.toTable) (h.clear hk) (h.settling.trans hsettling)
      (s := s.shape) (fun hopen => hclosed (s.gs.frameOpen_iff.1 hopen)) (.inl rfl)
    exact .acts (t := s) (congrArg (EStateM.Result.ok ()) hstays) hstep
      (h.gone (.inl ⟨rfl, rfl⟩) (.inl rfl) rfl)
  | some frame =>
    have hmem : frame.shape frameId ∈ s.shape.frames :=
      List.mem_map.2 ⟨_, OrderedMap.get?_eq_some.1 hframe, rfl⟩
    have hstep := Outer.release (T := T.toTable) (f := frame.shape frameId) (h.clear hk)
      (h.settling.trans hsettling) hmem s.gs_matches (World.releaseFrame_matches hframe)
    refine .acts (t := s.releaseFrame frameId) rfl
      ((World.shape_releaseFrame hframe).symm ▸ hstep) (h.gone (.inl ⟨rfl, rfl⟩) (.inr rfl) ?_)
    rw [World.releaseFrame]
    split <;> rfl

/-- `restoreFrame`, of a frame whose last window has closed and set off a drain. -/
theorem restoreFrame (h : At .outside k₀ k s) (hk : k₀.Clear)
    (hsettling : k₀.settling = .closing frameId subject)
    (hcut : ∀ F, k.flow = .cut F → frameId < F) :
    Goes T (EngineM.restoreFrame frameId) (fun _ k' s' =>
      At .amid { k₀ with settling := .gone frameId, inFlight := subject.toList } k' s') k s := by
  cases hframe : s.gs.frames.get? frameId with
  | none =>
    have hclosed : ¬ s.gs.frames.has frameId = true := fun hhas => by
      have := OrderedMap.get?_isSome.2 (OrderedMap.has_iff.1 hhas)
      rw [hframe] at this
      cases this
    have hstays : s.restoreFrame frameId = s := if_neg hclosed
    have hstep := Outer.vanish (T := T.toTable) (h.clear hk) (h.settling.trans hsettling)
      (s := s.shape) (fun hopen => hclosed (s.gs.frameOpen_iff.1 hopen)) (.inr rfl)
    exact .acts (t := s) (congrArg (EStateM.Result.ok ()) hstays) hstep
      (h.loosen.gone (.inr rfl) (.inl rfl) rfl)
  | some frame =>
    have hmem : frame.shape frameId ∈ s.shape.frames :=
      List.mem_map.2 ⟨_, OrderedMap.get?_eq_some.1 hframe, rfl⟩
    have hflow : k.flow = .halted ∨ ∃ F, k.flow = .cut F ∧ frameId < F := by
      cases hf : k.flow with
      | flowing => exact absurd hf (h.going.rested rfl).flow
      | halted => exact .inl rfl
      | cut F => exact .inr ⟨F, rfl, hcut F hf⟩
    have hstep := Outer.restore (T := T.toTable) (f := frame.shape frameId) (h.clear hk)
      (h.settling.trans hsettling) hmem s.gs_matches (World.restoreFrame_matches hframe) hflow
    refine .acts (t := s.restoreFrame frameId) rfl
      ((World.shape_restoreFrame hframe).symm ▸ hstep) (h.loosen.gone (.inr rfl) (.inr rfl) ?_)
    rw [World.restoreFrame]
    split <;> rfl

/-! ## Closing a window -/

/-- The window a frame settles with closes. -/
theorem closeLast {f : GameState → GameState} {w : WindowShape} (h : At .outside k₀ k s)
    (hk : k₀.Calm) (hw : s.shape.HasWindow frameId w) (hopen : w.isOpen = true)
    (hlast : w.isRestoring = true → openAfter frameId s.shape.frames = false)
    (hboard : (f s.gs).board = s.gs.board)
    (hpipelines : (f s.gs).pipelineShapes = s.gs.pipelineShapes)
    (hframes : (f s.gs).frameShapes = s.gs.frameShapes.map (FrameShape.close w.id))
    {Q : Unit → Control → World → Prop}
    (hQ : ∀ k', frameId < s.nextId →
      At .amid { k₀ with settling := .closing frameId w.subject } k' { s with gs := f s.gs } →
      Q () k' { s with gs := f s.gs }) : Goes T (modifyGs f) Q k s := by
  refine .assuming fun hsound => ?_
  obtain ⟨g, hg, rfl, hmem⟩ := hw
  have hstep := Outer.closeLast (T := T.toTable) (h.clear hk.clear) (h.settling.trans hk.settling)
    hg hmem hopen hlast
  have hshape : World.shape { s with gs := f s.gs } =
      { s.shape with frames := s.shape.frames.map (FrameShape.close w.id) } := by
    simp only [World.shape, hboard, hpipelines, hframes]
  rw [hsound.subjects.subject hg hmem] at hstep
  refine .acts (t := { s with gs := f s.gs }) rfl (hshape.symm ▸ hstep) (hQ _
    (hsound.ids.frames_lt g hg) ?_)
  obtain ⟨hgoing, flow, unchecked, rfl⟩ := h
  exact ⟨.amid (by simpa using hgoing.draining) hgoing.clearing (hgoing.outside (by simp)),
    _, _, rfl⟩

/-- One of several questions of a frame closes. -/
theorem closeOne {f : GameState → GameState} {w : WindowShape} (h : At .outside k₀ k s)
    (hk : k₀.Calm) (hw : ∃ g ∈ s.shape.frames, w ∈ g.windows ∧
      (g.close w.id).hasOpenWindow = true) (hopen : w.isOpen = true)
    (hchoice : w.isRestoring = false)
    (hboard : (f s.gs).board = s.gs.board)
    (hpipelines : (f s.gs).pipelineShapes = s.gs.pipelineShapes)
    (hframes : (f s.gs).frameShapes = s.gs.frameShapes.map (FrameShape.close w.id))
    {Q : Unit → Control → World → Prop}
    (hQ : ∀ k', At .amid k₀ k' { s with gs := f s.gs } → Q () k' { s with gs := f s.gs }) :
    Goes T (modifyGs f) Q k s := by
  obtain ⟨g, hg, hmem, hothers⟩ := hw
  have hstep := Outer.closeOne (T := T.toTable) (h.clear hk.clear) (h.settling.trans hk.settling)
    hg hmem hopen hchoice hothers
  have hshape : World.shape { s with gs := f s.gs } =
      { s.shape with frames := s.shape.frames.map (FrameShape.close w.id) } := by
    simp only [World.shape, hboard, hpipelines, hframes]
  refine .acts (t := { s with gs := f s.gs }) rfl (hshape.symm ▸ hstep) (hQ _ ?_)
  obtain ⟨hgoing, flow, unchecked, rfl⟩ := h
  exact ⟨.amid (by simpa using hgoing.draining) hgoing.clearing (hgoing.outside (by simp)),
    _, _, rfl⟩

/-! ## Rolls and challenges -/

/-- A drain that ran since the frame closed was cut short by a newer frame. -/
theorem cut_of_since {n : Nat} {x : Control × Shape} (h : Since n x) (hlt : frameId < n) :
    ∀ F, x.1.flow = .cut F → frameId < F := fun F hF => Nat.lt_of_lt_of_le hlt (h.cut F hF)

/-- `slayMonster`. -/
theorem slayMonster (n : Nat) {cardId playerId : String} (h : At .amid k₀ k s)
    (hspeaks : Speaks .outside k₀) :
    Goes T (EngineM.slayMonster (emit T.toTable n) cardId playerId)
      (fun _ k' s' => At .outside k₀ k' s') k s := by
  refine .bind (.reads rfl (.ite (fun hpile => ?_) fun _ => fail))
  refine .bind (getParty fun party hparty => .bind ?_)
  refine (of (Runs.moves (Q := fun _ => At .amid k₀) h (.slayMonster hpile hparty)
    (.follows (.slayMonster cardId playerId)) fun _ h₁ => h₁)).mono fun _ k₁ s₁ h₁ => ?_
  exact speaks n h₁ hspeaks rfl fun _ _ h₂ _ _ => h₂

/-- `settle` of a roll, after the drain its closing set off. -/
theorem settleRoll (n : Nat) {w : Window} {body : RollBody}
    (h : At .outside { k₀ with settling := .closing frameId none } k s) (hk : k₀.Calm)
    (hcut : ∀ F, k.flow = .cut F → frameId < F) :
    Goes T (HereToSlaughter.settleRoll T.toTable (emit T.toTable n) frameId w body) (fun _ k' s' =>
      At .amid { k₀ with settling := .gone frameId } k' s') k s := by
  have hclear : ({ k₀ with settling := .closing frameId none } : Control).Clear :=
    ⟨hk.clear.1, hk.clear.2, hk.clear.3, hk.clear.4, hk.clear.5, hk.clear.6⟩
  have hspeaks : Speaks .outside { k₀ with settling := .gone frameId } :=
    ⟨hk.between, .inr hk.clear.inFlight, hk.clear.due⟩
  have hrestore : Goes T (EngineM.restoreFrame frameId) (fun _ k' s' =>
      At .amid { k₀ with settling := .gone frameId } k' s') k s :=
    (restoreFrame h hclear rfl hcut).mono fun _ _ _ h₁ => At.landed h₁ hk.clear.inFlight
  have hrelease : Goes T (EngineM.releaseFrame frameId) (fun _ k' s' =>
      At .amid { k₀ with settling := .gone frameId } k' s') k s :=
    (releaseFrame h.loosen hclear rfl :)
  unfold HereToSlaughter.settleRoll
  split
  · refine .ite (fun _ => ?_) fun _ => ?_
    · exact .bind (hrestore.mono fun _ _ _ h₁ => speaks n h₁ hspeaks rfl
        fun _ _ h₂ _ _ => h₂.loosen)
    · exact .bind (hrelease.mono fun _ _ _ h₁ => speaks n h₁ hspeaks rfl
        fun _ _ h₂ _ _ => h₂.loosen)
  · split
    · split
      · exact .bind (hrelease.mono fun _ _ _ h₁ =>
          (slayMonster n h₁ hspeaks).mono fun _ _ _ h₂ => h₂.loosen)
      · exact .bind (hrestore.mono fun _ _ _ h₁ =>
          speaks n h₁ hspeaks rfl fun _ _ h₂ _ _ => h₂.loosen)
      · exact hrestore
    · exact hrestore

/-- A settlement that is refused starts the clock of the window again. -/
theorem rearm {windowId now : Nat} (h : At .outside k₀ k s) (hk : k₀.Calm)
    (hafter : s.gs.hasOpenFramesAfter frameId = true) :
    Goes T (modifyGs (GameState.modifyWindow windowId (Window.resetTimer now)))
      (fun _ => Rest) k s := by
  refine .assuming fun hsound => (inner (Runs.touch (Q := fun _ k' s' => At .outside k₀ k' s') h
    (Window.shape_resetTimer now) fun _ h₁ _ _ => h₁)).mono fun _ _ _ h₁ => ?_
  have hserved : Served s := .inr (.inr (.inl (GameState.hasOpenFrames_of_after hafter)))
  exact h₁.1.rest hk (hserved.sameTurn hsound h.going.clearing h₁.2)

/-- `ModifiableRollWindow.resolve`, of an open window. -/
theorem resolveRoll (n : Nat) {w : Window} {body : RollBody} (h : At .outside k₀ k s) (hk : k₀.Calm)
    (hw : s.shape.HasWindow frameId w.shape) (hopen : w.resolved = false)
    (hbody : w.body = .roll body) :
    Goes T (HereToSlaughter.resolveRoll T.toTable (emit T.toTable n) frameId w body) (fun _ => Rest)
      k s := by
  refine .bind (.reads rfl (.bind (.reads rfl (.ite (fun hafter => ?_) fun hafter => ?_))))
  · exact rearm h hk hafter
  · let s₁ : World := { s with gs := s.gs.restartWindowsOutside s.now frameId }
    have hframes : s₁.gs.frameShapes = s.gs.frameShapes :=
      s.gs.frameShapes_restartClocks s.now _ fun _ => Window.shape_restartClock ..
    have hshape : s₁.shape = s.shape := by
      simp only [World.shape, hframes]
      rfl
    have h₁ : At .outside k₀ k s₁ := h.congr rfl
    have hw₁ : s₁.shape.HasWindow frameId w.shape := hshape.symm ▸ hw
    refine .bind (.unseen (t := s₁) rfl hshape (.bind ?_))
    refine closeLast h₁ hk hw₁ (by simp [WindowShape.isOpen, Window.shape, hopen])
      (fun _ => ?_) rfl rfl (s₁.gs.frameShapes_modifyWindow_close Window.shape_close)
      fun k₂ hlt h₂ => .bind ?_
    · rw [hshape, GameState.openAfter_shape]
      simpa using hafter
    · rw [show w.shape.subject = none by simp [Window.shape, Window.subjectCardId, hbody]] at h₂
      refine speaks n h₂
        ⟨hk.between, .inr hk.clear.inFlight, hk.clear.due⟩ rfl fun k₃ s₃ h₃ hsince _ => .bind ?_
      refine (settleRoll n h₃ hk (cut_of_since hsince hlt)).mono fun _ k₄ s₄ h₄ => ?_
      exact resolved n h₄
        ⟨hk.clear.1, hk.clear.2, hk.clear.3, hk.clear.4, hk.clear.5, hk.clear.6⟩ rfl hk.between

/-- `ChallengeWindow.resolve`, of an open window. -/
theorem resolveChallenge (n : Nat) {w : Window} {body : ChallengeBody} (h : At .outside k₀ k s)
    (hk : k₀.Calm) (hw : s.shape.HasWindow frameId w.shape) (hopen : w.resolved = false)
    (hbody : w.body = .challenge body) :
    Goes T (HereToSlaughter.resolveChallenge (emit T.toTable n) frameId w body) (fun _ => Rest)
      k s := by
  refine .bind (.reads rfl (.bind (.reads rfl (.ite (fun hafter => ?_) fun hafter => ?_))))
  · exact rearm h hk hafter
  · refine .bind ?_
    refine closeLast h hk hw (by simp [WindowShape.isOpen, Window.shape, hopen])
      (fun _ => ?_) rfl rfl (s.gs.frameShapes_modifyWindow_close Window.shape_close)
      fun k₁ hlt h₁ => .bind ?_
    · rw [GameState.openAfter_shape]
      simpa using hafter
    let s₁ : World := { s with gs := s.gs.modifyWindow w.id Window.close }
    let s₂ : World := { s₁ with gs := s₁.gs.restartWindowsOutside s.now frameId }
    have hframes : s₂.gs.frameShapes = s₁.gs.frameShapes :=
      s₁.gs.frameShapes_restartClocks s.now _ fun _ => Window.shape_restartClock ..
    have hshape : s₂.shape = s₁.shape := by
      simp only [World.shape, hframes]
      rfl
    have hclear : ∀ settling, ({ k₀ with settling } : Control).Clear := fun _ =>
      ⟨hk.clear.1, hk.clear.2, hk.clear.3, hk.clear.4, hk.clear.5, hk.clear.6⟩
    rw [show w.shape.subject = some body.cardId by
      simp [Window.shape, Window.subjectCardId, hbody]] at h₁
    -- once the frame is gone, `FrameResolved` goes out
    have hgone : ∀ {k' s'}, At .amid { k₀ with settling := .gone frameId } k' s' →
        Goes T (emit T.toTable n (.frameResolved frameId [] (some body.cardId)))
          (fun _ => Rest) k' s' := fun h' => resolved n h' (hclear _) rfl hk.between
    have h₂ : At .amid { k₀ with settling := .closing frameId (some body.cardId) } k₁ s₂ :=
      h₁.congr rfl
    have hspeaks : Speaks .outside { k₀ with settling := .closing frameId (some body.cardId) } :=
      ⟨hk.between, .inr hk.clear.inFlight, hk.clear.due⟩
    refine .unseen (t := s₂) rfl hshape (.bind ?_)
    refine speaks n h₂ hspeaks rfl fun k₃ s₃ h₃ hsince₃ _ => ?_
    refine .ite (fun _ => .bind ?_) fun _ => .bind ?_
    · refine speaks n h₃.loosen hspeaks rfl fun k₄ s₄ h₄ hsince₄ _ => ?_
      refine .ite (fun _ => .bind ?_) fun _ => .bind ?_
      · refine (releaseFrame h₄.loosen (hclear _) rfl).mono fun _ k₅ s₅ h₅ => .bind ?_
        exact of (Runs.note h₅ (.contest _) fun h₆ => hgone h₆)
      · have hcut := cut_of_since hsince₄ (Nat.lt_of_lt_of_le hlt hsince₃.next)
        refine (restoreFrame h₄ (hclear _) rfl hcut).mono fun _ k₅ s₅ h₅ => .bind ?_
        exact of (Runs.moves (f := Board.addToDiscardPile body.cardId) h₅ .addToDiscardPile
          (.follows (.of_parties rfl)) fun _ h₆ => hgone (At.landed h₆ hk.clear.inFlight))
    · exact (releaseFrame h₃.loosen (hclear _) rfl).mono fun _ _ _ h₄ => hgone h₄

/-! ## Choices -/

/-- The random number of a choice that lapses. -/
theorem drawDefault {d : Mode} {body : ChoiceBody} (h : At d k₀ k s)
    {Q : Nat → Control → World → Prop} (hQ : ∀ i s', At d k₀ k s' → s'.gs = s.gs → Q i k s') :
    Runs T (HereToSlaughter.drawDefault T.toTable body) Q k s := by
  unfold HereToSlaughter.drawDefault
  split
  · exact Runs.random h hQ
  · exact .pure (hQ _ _ h rfl)

/-- `announceOutcome`. -/
theorem announceOutcome (n : Nat) {respondentId : String} {body : ChoiceBody}
    (h : At .outside k₀ k s) (hspeaks : Speaks .outside k₀) :
    Goes T (HereToSlaughter.announceOutcome (emit T.toTable n) respondentId body)
      (fun _ k' s' => At .outside k₀ k' s' ∧ SameTurn (k, s.shape) (k', s'.shape)) k s := by
  unfold HereToSlaughter.announceOutcome
  split
  · exact .ite (fun _ => .pure ⟨h, .refl⟩) fun _ =>
      speaks n h.loosen hspeaks rfl fun _ _ h₁ _ hturn => ⟨h₁, hturn⟩
  · exact .pure ⟨h, .refl⟩

/-- Every other question of the frame has closed. -/
def lastChoice (w : Window) (all : List (Window × ChoiceBody)) : Bool :=
  all.all fun choice => choice.1.id = w.id || !choice.1.isOpen

/-- `ChoiceWindow.resolve`, of an open window. -/
theorem resolveChoice (n : Nat) {w : Window} {body : ChoiceBody} (h : At .outside k₀ k s)
    (hk : k₀.Calm) (hw : s.shape.HasWindow frameId w.shape) (hopen : w.resolved = false)
    (hbody : w.getType = body.kind.type ∧ w.subjectCardId = none) :
    Goes T (HereToSlaughter.resolveChoice T.toTable (emit T.toTable n) frameId w body)
    (fun _ => Rest)
      k s := by
  unfold HereToSlaughter.resolveChoice
  refine .bind (.reads rfl (.bind ?_))
  let s₁ : World := { s with gs := s.gs.restartWindowsOutside s.now frameId }
  have hframes : s₁.gs.frameShapes = s.gs.frameShapes :=
    s.gs.frameShapes_restartClocks s.now _ fun _ => Window.shape_restartClock ..
  have hshape : s₁.shape = s.shape := by
    simp only [World.shape, hframes]
    rfl
  have h₁ : At .outside k₀ k s₁ := h.congr rfl
  have hw₁ : s₁.shape.HasWindow frameId w.shape := hshape.symm ▸ hw
  refine .unseen (t := s₁) rfl hshape (.bind ?_)
  refine (of (drawDefault (Q := fun _ k' s' => k' = k ∧ At .outside k₀ k s' ∧
    s'.gs = s₁.gs) h₁ fun _ _ h' hgs => ⟨rfl, h', hgs⟩)).mono ?_
  rintro index k' s₂ ⟨hghost, h₂, hgs₂⟩
  obtain rfl : k = k' := hghost.symm
  have hw₂ : s₂.shape.HasWindow frameId w.shape := by
    simp only [Shape.HasWindow, World.shape, hgs₂]
    exact hw₁
  refine .assuming fun hsound => .bind (.reads rfl (.bind ?_))
  extract_lets rest
  let settled : ChoiceBody := { body with picked := body.settledPick T.toTable s₂.gs.board index }
  let f : Window → Window := fun w => { w with resolved := true, body := .choice settled }
  have hshapew : w.shape = ⟨w.id, false, body.kind.type, none⟩ := by
    rw [Window.shape, hopen, hbody.1, hbody.2]
  have hopenw : w.shape.isOpen = true := by rw [hshapew]; rfl
  have hchoice : w.shape.isRestoring = false := by
    rw [hshapew]
    rcases hkind : body.kind <;> rfl
  have hclose : (s₂.gs.modifyWindow w.id f).frameShapes =
      s₂.gs.frameShapes.map (FrameShape.close w.id) :=
    GameState.frameShapes_settle hsound.ids hw₂ fun v hv => by
      have hid : v.id = w.id := congrArg WindowShape.id hv
      rw [hshapew]
      exact congrArg (WindowShape.mk · true body.kind.type none) hid
  let s₃ : World := { s₂ with gs := s₂.gs.modifyWindow w.id f }
  -- what follows reads the frame only for the other questions it holds
  have hrest : ∀ k' t, t.gs.frameChoices frameId = s₃.gs.frameChoices frameId →
      (lastChoice w (s₃.gs.frameChoices frameId) = true →
        At .amid { k₀ with settling := .closing frameId w.shape.subject } k' t) →
      (lastChoice w (s₃.gs.frameChoices frameId) = false →
        At .amid k₀ k' t ∧ t.gs.hasOpenFrames = true) →
      Goes T (rest ()) (fun _ => Rest) k' t := by
    intro k' t hchoices hlast hmore
    refine .bind (.reads rfl ?_)
    rw [hchoices]
    extract_lets all last say
    have hclear : ∀ settling, ({ k₀ with settling } : Control).Clear := fun _ =>
      ⟨hk.clear.1, hk.clear.2, hk.clear.3, hk.clear.4, hk.clear.5, hk.clear.6⟩
    have hsay : ∀ {settling : Settling} {k' : Control} {t : World},
        At .amid { k₀ with settling } k' t →
        (∀ k₅ t₅, At .outside { k₀ with settling } k₅ t₅ → SameTurn (k', t.shape) (k₅, t₅.shape) →
          Goes T (if last = true then emit T.toTable n (.frameResolved frameId
            (all.filterMap fun choice => choice.2.contextWrite)) else pure ())
              (fun _ => Rest) k₅ t₅) →
        Goes T (say ()) (fun _ => Rest) k' t := fun h' hnext =>
      .bind (speaks n h'
      ⟨hk.between, .inr hk.clear.inFlight, hk.clear.due⟩ rfl fun k₄ t₄ h₄ _ hturn =>
        .bind ((announceOutcome n h₄ ⟨hk.between, .inr hk.clear.inFlight, hk.clear.due⟩).mono
          fun _ k₅ t₅ h₅ => hnext k₅ t₅ h₅.1 (hturn.trans h₅.2)))
    refine .ite (fun hl => .bind ?_) fun hl => ?_
    · refine (releaseFrame (hlast hl) (hclear _) rfl).mono fun _ k₄ t₄ h₄ =>
        hsay h₄ fun k₅ t₅ h₅ _ => ?_
      refine .ite (fun _ => ?_) fun hn => absurd hl hn
      exact resolved n h₅.loosen (hclear _) rfl hk.between
    · obtain ⟨h', hwaits⟩ : At .amid { k₀ with settling := k₀.settling } k' t ∧ _ :=
        hmore (Bool.eq_false_iff.2 hl)
      refine .assuming fun hsound => hsay h' fun k₅ t₅ h₅ hturn =>
        .ite (fun hn => absurd hn hl) fun _ => .pure (h₅.rest hk ?_)
      exact Served.sameTurn (.inr (.inr (.inl hwaits))) hsound h'.going.clearing hturn
  cases hlast : lastChoice w (s₃.gs.frameChoices frameId) with
  | true =>
    refine closeLast h₂ hk hw₂ hopenw
      (fun hr => by cases hchoice.symm.trans hr) rfl rfl hclose fun k₃ _ h₃ =>
      .ite (fun _ => .bind (of (Runs.hiddenGs h₃ rfl rfl rfl fun h₄ => ?_))) fun _ => ?_
    · exact hrest _ _ rfl (fun _ => h₄) fun hn => by cases hlast.symm.trans hn
    · exact hrest _ _ rfl (fun _ => h₃) fun hn => by cases hlast.symm.trans hn
  | false =>
    obtain ⟨c, hc, hopenc⟩ := List.all_eq_false.1 hlast
    simp only [Bool.or_eq_true, decide_eq_true_eq, Bool.not_eq_true', not_or,
      Bool.not_eq_false] at hopenc
    obtain ⟨frame, hframe, hwindow⟩ := GameState.mem_frameChoices hc
    have hwaits : s₃.gs.hasOpenFrames = true :=
      List.any_eq_true.2 ⟨frame, List.mem_map.2 ⟨_, OrderedMap.get?_eq_some.1 hframe, rfl⟩,
        List.any_eq_true.2 ⟨c.1, hwindow, hopenc.2⟩⟩
    refine closeOne h₂ hk ?_ hopenw hchoice rfl rfl hclose fun k₃ h₃ =>
      .ite (fun _ => .bind (of (Runs.hiddenGs h₃ rfl rfl rfl fun h₄ => ?_))) fun _ => ?_
    · obtain ⟨g, hg, hgid, hmem⟩ := hw₂
      have hshapes : frame.shape frameId ∈ s₂.gs.frameShapes.map (FrameShape.close w.id) :=
        hclose ▸ List.mem_map.2 ⟨_, OrderedMap.get?_eq_some.1 hframe, rfl⟩
      obtain ⟨g', hg', hclosed⟩ := List.mem_map.1 hshapes
      obtain rfl : g = g' := List.inj_on_of_nodup_map hsound.ids.frames_nodup hg hg'
        (hgid.trans (congrArg FrameShape.id hclosed).symm)
      refine ⟨g, hg, hmem, ?_⟩
      rw [show w.shape.id = w.id from rfl, hclosed, GameFrame.shape_hasOpenWindow]
      exact List.any_eq_true.2 ⟨c.1, hwindow, hopenc.2⟩
    · exact hrest _ _ rfl (fun hn => by cases hlast.symm.trans hn) fun _ => ⟨h₄, hwaits⟩
    · exact hrest _ _ rfl (fun hn => by cases hlast.symm.trans hn) fun _ => ⟨h₃, hwaits⟩

/-- `resolve`, of a window that stands in its frame. -/
theorem resolve (n : Nat) {w : Window} (h : At .outside k₀ k s) (hk : k₀.Calm) (hserved : Served s)
    (hw : s.shape.HasWindow frameId w.shape) :
    Goes T (HereToSlaughter.resolve T.toTable (emit T.toTable n) frameId w)
    (fun _ => Rest) k s := by
  refine .ite (fun _ => .pure (h.rest hk hserved)) fun hopen => ?_
  have hopen' : w.resolved = false := by simpa using hopen
  split
  · rename_i body hbody
    exact resolveRoll n h hk hw hopen' hbody
  · rename_i body hbody
    exact resolveChallenge n h hk hw hopen' hbody
  · rename_i body hbody
    refine resolveChoice n h hk hw hopen' ⟨?_, ?_⟩
    · simp [Window.getType, hbody]
    · simp [Window.subjectCardId, hbody]

/-- `ChoiceWindow.submitReaction`, of an open window. -/
theorem submitToChoice (n : Nat) {w : Window} {body : ChoiceBody} {playerId : String}
    {choice : Option Pick} (h : At .outside k₀ k s) (hk : k₀.Calm) (hserved : Served s)
    (hw : s.shape.HasWindow frameId w.shape) (hopen : w.resolved = false)
    (hbody : w.body = .choice body) :
    Goes T (HereToSlaughter.submitToChoice T.toTable (emit T.toTable n) frameId w body playerId
      choice) (fun _ => Rest) k s := by
  have htype : w.getType = body.kind.type ∧ w.subjectCardId = none :=
    ⟨by simp [Window.getType, hbody], by simp [Window.subjectCardId, hbody]⟩
  refine .ite (fun _ => .pure (h.rest hk hserved)) fun _ => ?_
  split
  · exact .bind ((resolveChoice n h hk hw hopen htype).mono fun _ _ _ hrest => .pure hrest)
  · refine .bind (.reads rfl (.ite (fun _ => ?_) fun _ => fail))
    refine .bind ((resolveChoice n h hk hw hopen ?_).mono fun _ _ _ hrest => .pure hrest)
    exact htype

end Goes

end

end HereToSlaughter
