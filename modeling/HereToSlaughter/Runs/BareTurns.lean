import HereToSlaughter.Runs.Lives
import HereToSlaughter.Writes.Sustained

/-!
# Turns begin and end over a bare table

The frames that an event finds open are frames that were opened and of which nothing has been heard
since (`Framed`). A turn begins and ends when every frame that was ever opened has settled (`Bare`),
so the board a turn begins or ends with is the only one there is.

Reference: `pipelines/turn-manager.ts`, `pipelines/game-state.ts`.
-/

namespace HereToSlaughter

open Lib

/-! ## What was last heard of a frame -/

/-- Every mark of a history fits what came before it. -/
def EachMark (P : List Mark → Mark → Prop) (history : List Mark) : Prop :=
  ∀ m before, m :: before <:+ history → P before m

/-- An empty history says nothing. -/
theorem EachMark.nil {P : List Mark → Mark → Prop} : EachMark P [] :=
  fun _ _ h => absurd (List.suffix_nil.1 h) (List.cons_ne_nil _ _)

/-- A history grows by a mark that is as it should be. -/
theorem EachMark.cons {P : List Mark → Mark → Prop} {m : Mark} {history : List Mark}
    (h : EachMark P history) (hm : P history m) : EachMark P (m :: history) := by
  intro m' before hsuffix
  rcases List.suffix_cons_iff.1 hsuffix with heq | hsuffix
  · cases heq
    exact hm
  · exact h m' before hsuffix

/-- The last that was heard of the frame is that it opened. -/
def Unsettled (frameId : Nat) : List Mark → Prop
  | [] => False
  | .opened other _ :: history => other = frameId ∨ Unsettled frameId history
  | .released other _ _ :: history | .restored other _ _ :: history =>
    other ≠ frameId ∧ Unsettled frameId history
  | _ :: history => Unsettled frameId history

/-- Where frames open once, a frame that is unsettled stands. -/
theorem Lived.stood {frameId : Nat} {history : List Mark} (h : Lived history)
    (hlast : Unsettled frameId history) : Stood frameId history := by
  induction history with
  | nil => cases hlast
  | cons m history ih =>
    cases m with
    | opened other gs =>
      obtain ⟨hopened, hsettled, hrest⟩ := h
      obtain rfl | hlast := hlast
      · exact ⟨List.mem_cons_self, hsettled⟩
      · obtain ⟨hmem, hnot⟩ := ih hrest hlast
        exact ⟨List.mem_cons_of_mem _ hmem, hnot⟩
    | released other before after | restored other before after =>
      obtain ⟨hne, hlast⟩ := hlast
      obtain ⟨hmem, hnot⟩ := ih h.2 hlast
      exact ⟨hmem, fun hsettled => (List.mem_cons.1 hsettled).elim (fun heq => hne heq.symm) hnot⟩
    | spent | suspended => exact ih h.2 hlast
    | _ => exact ih h hlast

/-- What a history tells of frames an earlier one told. -/
theorem Lived.suffix {history before : List Mark} (h : Lived history)
    (hsuffix : before <:+ history) :
    Lived before := by
  induction history with
  | nil => rwa [List.suffix_nil.1 hsuffix]
  | cons m history ih =>
    rcases List.suffix_cons_iff.1 hsuffix with rfl | hsuffix
    · exact h
    · refine ih ?_ hsuffix
      cases m with
      | opened => exact h.2.2
      | released | restored | spent | suspended => exact h.2
      | _ => exact h

/-- An event goes out over frames of which nothing has been heard since they opened. -/
def Mark.Framed (history : List Mark) : Mark → Prop
  | .emitted _ gs => ∀ frameId ∈ gs.frames.keys, Unsettled frameId history
  | _ => True

/-- So it is of the frames that are open, and was whenever an event went out. -/
structure Framed (w : World) : Prop where
  frames : ∀ frameId ∈ w.gs.frames.keys, Unsettled frameId w.history
  marks : EachMark Mark.Framed w.history

namespace Framed

variable {w w' : World}

/-- Nothing is told of frames, and none is new. -/
theorem congr (h : Framed w) (hhistory : w'.history = w.history)
    (hframes : w'.gs.frames.keys ⊆ w.gs.frames.keys) : Framed w' :=
  ⟨fun F hF => hhistory ▸ h.frames F (hframes hF), hhistory ▸ h.marks⟩

/-- A mark is made that no frame opens or settles with. -/
theorem note {m : Mark} (h : Framed w) (hm : m.Framed w.history) (hopened : m.openedFrame = none)
    (hsettled : m.settledFrame = none) (hhistory : w'.history = m :: w.history)
    (hframes : w'.gs.frames.keys ⊆ w.gs.frames.keys) : Framed w' := by
  refine ⟨fun F hF => ?_, hhistory ▸ h.marks.cons hm⟩
  have hlast := h.frames F (hframes hF)
  rw [hhistory]
  cases m with
  | opened => cases hopened
  | released | restored => cases hsettled
  | _ => exact hlast

/-- A frame settles. -/
theorem settle {m : Mark} {frameId : Nat} (h : Framed w) (hsettled : m.settledFrame = some frameId)
    (hhistory : w'.history = m :: w.history) (hframes : w'.gs.frames = w.gs.frames.erase frameId) :
    Framed w' := by
  refine ⟨fun F hF => ?_, hhistory ▸ h.marks.cons ?_⟩
  · rw [hframes, OrderedMap.mem_keys_erase] at hF
    have hlast := h.frames F hF.1
    rw [hhistory]
    cases m with
    | released | restored =>
      cases hsettled
      exact ⟨Ne.symm hF.2, hlast⟩
    | _ => cases hsettled
  · cases m with
    | emitted => cases hsettled
    | _ => trivial

/-- No write empties a frame on record, and none records an empty one. -/
theorem change (h : Framed w) (hchange : Change w w') : Framed w' := by
  have hspent : ∀ now playerId cardId,
      (w.gs.spendCard now playerId cardId).frames.keys = w.gs.frames.keys := by
    intro now playerId cardId
    unfold GameState.spendCard
    dsimp only
    split
    · rfl
    · exact OrderedMap.keys_mapValues _ _
  cases hchange with
  | managers | drawId | seat | tick | door | install => exact ⟨h.frames, h.marks⟩
  | state _ hframes => exact h.congr rfl (by simp [hframes])
  | @note m hnote =>
    refine h.note ?_ ?_ ?_ rfl (List.Subset.refl _) <;> cases m <;> trivial
  | openFrame frameId =>
    refine ⟨fun F hF => ?_, h.marks.cons trivial⟩
    obtain ⟨e, he, rfl⟩ := List.mem_map.1 hF
    obtain he | rfl := OrderedMap.mem_entries_set he
    · exact .inr (h.frames _ (OrderedMap.mem_keys_of_mem he))
    · exact .inl rfl
  | releaseFrame frameId =>
    unfold World.releaseFrame
    split
    · next hopen =>
      obtain ⟨frame, hfound⟩ := Option.isSome_iff_exists.1
        (OrderedMap.get?_isSome.2 (OrderedMap.has_iff.1 hopen))
      refine h.settle (m := .released frameId _ _) rfl rfl ?_
      simp only [GameState.releaseFrame, hfound]
    · exact h
  | restoreFrame frameId =>
    unfold World.restoreFrame
    split
    · next hopen =>
      obtain ⟨frame, hfound⟩ := Option.isSome_iff_exists.1
        (OrderedMap.get?_isSome.2 (OrderedMap.has_iff.1 hopen))
      refine h.settle (m := .restored frameId _ _) rfl rfl ?_
      simp only [GameState.restoreFrame, hfound]
    · exact h
  | clear => exact ⟨fun F hF => absurd hF List.not_mem_nil, h.marks⟩
  | window windowId => exact h.congr rfl (by simp [GameState.modifyWindow])
  | restart now select => exact h.congr rfl (by simp [GameState.restartClocks])
  | spend now playerId cardId frameId =>
    exact h.note (m := .spent playerId cardId frameId w.gs) trivial rfl rfl rfl
      (by simp [hspent])

instance : Sustained Framed where
  change hchange h := h.change hchange
  insert frameId _ h := h.congr rfl (by simp [GameState.addWindow])
  announce event h := h.note (m := .emitted event _) h.frames rfl rfl rfl (List.Subset.refl _)
  record _ h := ⟨h.frames, h.marks⟩
  pass windowId _ h := h.congr rfl (by simp [GameState.modifyWindow])

end Framed

/-! ## Turns -/

/-- A turn begins or ends when every frame has settled, unless the game is over. -/
def Mark.Bare (history : List Mark) : Mark → Prop
  | .emitted event gs => event.type = .turnStarted ∨ event.type = .turnEnded →
    gs.board.gamePhase ≠ .concluded → ∀ frameId, ¬Stood frameId history
  | _ => True

/-- No frame opens before the first turn. -/
structure Bare (x : Control × Shape) : Prop where
  before : x.1.between = .before → openedFrames x.2.history = []
  marks : EachMark Mark.Bare x.2.history

namespace Bare

variable {T : Table} {x y : Control × Shape}

/-- A mark is made that opens no frame. -/
theorem cons {k k' : Control} {s s' : Shape} {m : Mark} (h : Bare (k, s)) (hm : m.Bare s.history)
    (hopened : m.openedFrame = none) (hhistory : s'.history = m :: s.history)
    (hbetween : k'.between = .before → k.between = .before) : Bare (k', s') := by
  refine ⟨fun hb => ?_, hhistory ▸ h.marks.cons hm⟩
  rw [hhistory, openedFrames, List.filterMap_cons, hopened]
  exact h.before (hbetween hb)

/-- Within a drain no turn begins or ends. -/
theorem inner (h : Bare x) (hstep : Inner T x y) : Bare y := by
  cases hstep with
  | announce event hgs hflow hstart hend =>
    exact h.cons (fun hturn => (hturn.elim hstart hend).elim) rfl rfl id
  | «open» subject hgs hsubject hbefore =>
    exact ⟨fun hb => absurd hb hbefore, h.marks.cons trivial⟩
  | pause | declare | equip => exact h.cons (by trivial) rfl rfl id
  | _ => exact ⟨h.before, h.marks⟩

/-- Between drains a turn begins or ends with no frame open, since every frame that stands holds a
window. -/
theorem outer (h : Bare x) (hsound : Windowed x.1 x.2) (hturns : TurnPoints x.1 x.2)
    (hlives : Lives x) (hwon : Won T x) (hstep : Outer T x y) : Bare y := by
  -- a frame that stood would be open, as long as the game goes on
  have hnone : ∀ {k s}, Lives (k, s) → Won T (k, s) → s.board.gamePhase ≠ .concluded →
      s.frames = [] → ∀ frameId, ¬Stood frameId s.history := by
    intro k s hlives hwon hphase hframes frameId hstood
    have hverdicts : verdicts s.history = [] := by
      by_contra hsome
      exact hphase (hwon.verdict.atEnd.2 hsome)
    obtain ⟨f, hf, -⟩ := hlives.kept hverdicts frameId hstood
    rw [show s.frames = [] from hframes] at hf
    cases hf
  cases hstep with
  | inner hstep => exact h.inner hstep
  | endTurn hk hsettling hgs hbetween hqueue hcurrent hstarted hplayer hpoints hbusy =>
    refine h.cons (fun _ hphase => ?_) rfl rfl fun hb => by cases hb
    exact hnone hlives hwon (by simpa [hgs.board, Board.clearUsedAbilities] using hphase)
      (hsound.idle hk hsettling hbusy)
  | @startTurn k s gs playerId hk hsettling hgs hseated hnext =>
    refine h.cons (fun _ hphase frameId hstood => ?_) rfl rfl fun hb => by cases hb
    obtain ⟨hbefore, -⟩ | ⟨last, hended, hgoes, -⟩ := hnext
    · rw [Stood, h.before hbefore] at hstood
      exact absurd hstood.1 List.not_mem_nil
    · exact hnone hlives hwon hgoes (hturns.ended last hended).2 frameId hstood
  | spend | release | restore | enqueue | execute => exact h.cons (by trivial) rfl rfl id
  | adrift => exact ⟨fun hb => (by cases hb), h.marks⟩
  | _ => exact ⟨h.before, h.marks⟩

/-- So it goes along a run. -/
theorem path {T : PrintedTable} (h : Bare x) (hsound : Sound T.cards x) (hwon : Won T.toTable x)
    (hlives : Lives x) (hpath : (outerSystem T).Path x y) : Bare y := by
  induction hpath with
  | refl => exact h
  | tail hpath hstep ih =>
    have hsound' := (outerSystem T).inv_of_path hpath hsound
    exact ih.outer hsound'.windows hsound'.turns (hlives.path hsound hwon hpath)
      (hwon.path hsound hpath) hstep

end Bare

/-- No frame is open when a turn begins or ends, as long as the game goes on. -/
theorem Reach.turns_bare {setup : GameSetup} {w : World} (h : Reach setup w) {event : GameEvent}
    {gs : GameState} (hmem : .emitted event gs ∈ w.history)
    (hturn : event.type = .turnStarted ∨ event.type = .turnEnded)
    (hphase : gs.board.gamePhase ≠ .concluded) : gs.frames.keys = [] := by
  obtain ⟨hvalid, k, hpath, -⟩ := h.machine
  have hlives : Lives setup.origin :=
    ⟨fun _ hF => absurd hF List.not_mem_nil, trivial, fun _ hf => absurd hf List.not_mem_nil,
      fun _ _ hF => absurd hF.1 List.not_mem_nil⟩
  have hbare : Bare (k, w.shape) :=
    Bare.path ⟨fun _ => rfl, .nil⟩ hvalid.sound setup.won_origin hlives hpath
  have hframed : Framed w := h.sustains fun _ => ⟨fun _ hF => absurd hF List.not_mem_nil, .nil⟩
  obtain ⟨after, before, hsplit⟩ := List.append_of_mem hmem
  have hsuffix : .emitted event gs :: before <:+ w.history := ⟨after, hsplit.symm⟩
  refine List.eq_nil_iff_forall_not_mem.2 fun frameId hF => ?_
  have hlast : Unsettled frameId before := hframed.marks _ before hsuffix frameId hF
  have hlived : Lived before :=
    h.frames_once.1.suffix ((List.suffix_cons _ _).trans hsuffix)
  exact hbare.marks _ before hsuffix hturn hphase frameId (hlived.stood hlast)

end HereToSlaughter
