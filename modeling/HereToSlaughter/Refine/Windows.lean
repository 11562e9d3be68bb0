import HereToSlaughter.Refine.Plays

/-!
# Answers to a window, as the machine sees them

A bonus lands in a roll or a contest, a contest starts: the window changes where its shape does not
show it. That is so because no two windows share an id.

Reference: `reactions/modifiable-roll-window.ts`, `reactions/challenge-window.ts`.
-/

namespace HereToSlaughter

open Lib EngineM

/-! ## Windows of a state -/

/-- The window stands in this frame. -/
def GameState.HasWindow (gs : GameState) (frameId : Nat) (w : Window) : Prop :=
  ∃ frame, gs.frames.get? frameId = some frame ∧ w ∈ frame.windows

namespace GameState
variable {gs : GameState} {frameId : Nat} {w : Window}

/-- A window in a frame that is open stands. -/
theorem hasWindow_of_mem {frame : GameFrame} (h : (frameId, frame) ∈ gs.frames.entries)
    (hw : w ∈ frame.windows) : gs.HasWindow frameId w :=
  ⟨frame, OrderedMap.get?_eq_some.2 h, hw⟩

/-- A window looked up by type stands in the frame it is found in. -/
theorem hasWindow_firstWindowOfType {type : ReactionWindowType}
    (h : gs.firstWindowOfType type = some (frameId, w)) :
    gs.HasWindow frameId w ∧ w.getType = type := by
  simp only [firstWindowOfType, getFrameByWindowType, Option.bind_eq_some_iff,
    Option.map_eq_some_iff] at h
  obtain ⟨⟨id, frame⟩, hframe, w', hw, heq⟩ := h
  cases heq
  exact ⟨hasWindow_of_mem (List.mem_of_find?_eq_some hframe) (List.mem_of_find?_eq_some hw),
    by simpa using List.find?_some hw⟩

/-- The window a bonus goes into is open and takes one. -/
theorem hasWindow_findOpenModifiableWindow (h : gs.findOpenModifiableWindow = some (frameId, w)) :
    gs.HasWindow frameId w ∧ w.isOpen = true := by
  obtain ⟨type, -, hfound⟩ := List.exists_of_findSome?_eq_some h
  obtain ⟨hfirst, hopen⟩ := Option.filter_eq_some_iff.1 hfound
  simp only [Bool.and_eq_true] at hopen
  exact ⟨(hasWindow_firstWindowOfType hfirst).1, hopen.1⟩

/-- Its shape is one of the shapes. -/
theorem HasWindow.shape (h : gs.HasWindow frameId w) :
    ∃ f ∈ gs.frameShapes, f.id = frameId ∧ w.shape ∈ f.windows := by
  obtain ⟨frame, hframe, hw⟩ := h
  exact ⟨frame.shape frameId, List.mem_map.2 ⟨_, OrderedMap.get?_eq_some.1 hframe, rfl⟩, rfl,
    List.mem_map_of_mem hw⟩

end GameState

/-- Windows with one id have one shape. -/
theorem Ids.shape_unique {k : Control} {s : Shape} (h : Ids k s) {f g : FrameShape}
    {v w : WindowShape} (hf : f ∈ s.frames) (hg : g ∈ s.frames) (hv : v ∈ f.windows)
    (hw : w ∈ g.windows) (hid : v.id = w.id) : v = w := by
  have hnodup := (List.nodup_append.1 h.windows_nodup).1
  rw [windowIds, ← List.map_flatMap] at hnodup
  exact List.inj_on_of_nodup_map hnodup (List.mem_flatMap.2 ⟨f, hf, hv⟩)
    (List.mem_flatMap.2 ⟨g, hg, hw⟩) hid

section
variable {T : PrintedTable} {em : Emit} {d : Mode} {k₀ k : Control} {s : World}

namespace Runs

/-- A change of every window of an id that shows in no shape. -/
theorem touch {windowId : Nat} {f : Window → Window} (h : At d k₀ k s)
    (hf : ∀ w, (f w).shape = w.shape) {Q : Unit → Control → World → Prop}
    (hQ : ∀ s', At d k₀ k s' → s'.gs.board = s.gs.board → s'.gs.pipelines = s.gs.pipelines →
      Q () k s') : Runs T (modifyGs (GameState.modifyWindow windowId f)) Q k s :=
  hiddenGs h rfl (s.gs.frameShapes_modifyWindow_of_shape hf) rfl fun h' => hQ _ h' rfl rfl

/-- A change of one window, found in its frame, that does not show in its shape. -/
theorem touchFound {frameId : Nat} {w : Window} {f : Window → Window} (h : At d k₀ k s)
    (hw : s.gs.HasWindow frameId w) (hf : ∀ v, v.shape = w.shape → (f v).shape = w.shape)
    {Q : Unit → Control → World → Prop}
    (hQ : ∀ s', At d k₀ k s' → s'.gs.board = s.gs.board → s'.gs.pipelines = s.gs.pipelines →
      Q () k s') : Runs T (modifyGs (GameState.modifyWindow w.id f)) Q k s := by
  refine .assuming fun hsound => ?_
  obtain ⟨g, hg, -, hwg⟩ := hw.shape
  refine hiddenGs h rfl ?_ rfl fun h' => hQ _ h' rfl rfl
  simp only [GameState.modifyWindow, GameState.frameShapes, OrderedMap.entries_mapValues,
    List.map_map]
  refine List.map_congr_left fun e he => ?_
  simp only [Function.comp_apply, GameFrame.shape, GameFrame.modifyWindow, FrameShape.mk.injEq,
    List.map_map, true_and]
  refine List.map_congr_left fun v hv => ?_
  simp only [Function.comp_apply]
  split
  · rename_i hid
    have hvw : v.shape = w.shape :=
      hsound.ids.shape_unique (List.mem_map_of_mem he) hg (List.mem_map_of_mem hv) hwg hid
    exact (hf v hvw).trans hvw.symm
  · rfl

/-- Clocks start again. -/
theorem restart {now : Nat} {select : Nat → Bool} (h : At d k₀ k s)
    {Q : Unit → Control → World → Prop}
    (hQ : ∀ s', At d k₀ k s' → s'.gs.board = s.gs.board → s'.gs.pipelines = s.gs.pipelines →
      Q () k s') : Runs T (modifyGs (GameState.restartClocks now select)) Q k s :=
  hiddenGs h rfl (s.gs.frameShapes_restartClocks now select fun _ => Window.shape_restartClock ..)
    rfl fun h' => hQ _ h' rfl rfl

/-! ## Answers -/

section Playing
variable (hem : Hears T d em) (h : At d k₀ k s) (hspeaks : Speaks d k₀)
include hem h hspeaks

/-- `announceStanding`. -/
theorem announceStanding {w : Window} {body : RollBody} :
    Runs T (HereToSlaughter.announceStanding em w body) (fun _ k' s' => At d k₀ k' s') k s := by
  unfold HereToSlaughter.announceStanding
  split
  · exact .pure h
  · refine .bind (touch h (fun v => ?_) fun s₁ h₁ _ _ => ?_)
    · rcases v with ⟨_, _, _, _, _, body⟩
      cases body <;> rfl
    · exact hem.speaks h₁.loosen hspeaks rfl fun _ _ h₂ _ => h₂

variable {frameId : Nat} {w : Window} (hw : s.gs.HasWindow frameId w)
include hw

/-- `submitReaction` of a roll. -/
theorem submitToRoll {body : RollBody} {playerId : String} {value : Option Int}
    {cardId targetPlayerId : Option String} (hbody : w.body = .roll body) :
    Runs T (HereToSlaughter.submitToRoll em frameId w body playerId value cardId targetPlayerId)
      (fun _ k' s' => At d k₀ k' s') k s := by
  unfold HereToSlaughter.submitToRoll
  split
  · exact .pure h
  · refine .bind (.reads rfl (.bind (touchFound h hw (fun v hv => ?_) fun s₁ h₁ _ _ => .bind ?_)))
    · have hvid : v.id = w.id := congrArg WindowShape.id hv
      have hvres : v.resolved = w.resolved := congrArg WindowShape.resolved hv
      simp only [Window.shape, Window.getType, Window.subjectCardId, hvid, hvres, hbody,
        RollBody.withBonus]
    · refine hem.speaks h₁.loosen hspeaks rfl fun k₂ s₂ h₂ _ => .bind (.reads rfl (.bind ?_))
      refine touch h₂ (Window.shape_resetTimer _) fun s₃ h₃ _ _ => .bind ?_
      refine restart h₃ fun s₄ h₄ _ _ => .bind ?_
      exact (announceStanding hem h₄ hspeaks).mono fun _ _ _ h₅ => .pure h₅

/-- `submitReaction` of a contest. -/
theorem submitToChallenge {body : ChallengeBody} {playerId cardId targetPlayerId : String}
    {value : Int} (hbody : w.body = .challenge body) :
    Runs T (HereToSlaughter.submitToChallenge em w body playerId value cardId targetPlayerId)
      (fun _ k' s' => At d k₀ k' s') k s := by
  unfold HereToSlaughter.submitToChallenge
  split
  · exact .pure h
  · refine .bind (.reads rfl (.bind (touchFound h hw (fun v hv => ?_) fun s₁ h₁ _ _ => .bind ?_)))
    · have hvid : v.id = w.id := congrArg WindowShape.id hv
      have hvres : v.resolved = w.resolved := congrArg WindowShape.resolved hv
      simp only [Window.shape, Window.getType, Window.subjectCardId, hvid, hvres, hbody,
        ChallengeBody.withBonus]
      split <;> rfl
    · refine hem.speaks h₁.loosen hspeaks rfl fun k₂ s₂ h₂ _ => .bind (.reads rfl (.bind ?_))
      exact touch h₂ (Window.shape_resetTimer _) fun s₃ h₃ _ _ => .pure h₃

/-- `startChallenge`. -/
theorem startChallenge {body : ChallengeBody} {challengerId : String}
    (hbody : w.body = .challenge body) :
    Runs T (HereToSlaughter.startChallenge T.toTable em w body challengerId)
      (fun _ k' s' => At d k₀ k' s') k s := by
  refine .ite (fun _ => .pure h) fun _ => ?_
  refine .bind (roll2Dice h fun _ s₁ h₁ hgs₁ => .bind (roll2Dice h₁ fun _ s₂ h₂ hgs₂ => ?_))
  have hw₂ : s₂.gs.HasWindow frameId w := by rw [hgs₂, hgs₁]; exact hw
  refine .bind (.reads rfl (.bind (touchFound h₂ hw₂ (fun v hv => ?_) fun s₃ h₃ _ _ => .bind ?_)))
  · have hvid : v.id = w.id := congrArg WindowShape.id hv
    have hvres : v.resolved = w.resolved := congrArg WindowShape.resolved hv
    simp only [Window.shape, Window.getType, Window.subjectCardId, hvid, hvres, hbody]
  · refine hem.speaks h₃.loosen hspeaks rfl fun k₄ s₄ h₄ _ => .bind (.reads rfl (.bind ?_))
    exact touch h₄ (Window.shape_resetTimer _) fun s₅ h₅ _ _ => .pure h₅

end Playing

end Runs

end

end HereToSlaughter
