import HereToSlaughter.Runs.Cards
import HereToSlaughter.Runs.Lives
import HereToSlaughter.Writes.Sustained

/-!
# Rolling back

A frame keeps the board as it was when the frame opened, and nothing that happens meanwhile touches
it: not the plays and draws over it, not the frames that open and settle after it. So a frame that
is restored brings that very board back, but for the cards that have been spent since, which have
left the hands for the discard pile.

Reference: `pipelines/game-state.ts`.
-/

namespace HereToSlaughter

open Lib

/-! ## What is put back -/

/-- The board as it was, without the cards that have been spent since. -/
def Board.rewound (spent : List (String × String)) (b : Board) : Board :=
  { b with
    players := b.players.mapValues fun playerId player =>
      { player with hand := player.hand.filter fun cardId => (cardId, playerId) ∉ spent }
    discardPile := (spent.map Prod.fst).reverse ++ b.discardPile }

namespace GameState

/-- What a restore takes back, card by card, is what was spent. -/
theorem takeBack_eq_rewound : ∀ (spent : List (String × String)) (b : Board),
    takeBack spent b = b.rewound spent
  | [], b => by simp [takeBack, Board.rewound, OrderedMap.mapValues]
  | (cardId, playerId) :: spent, b => by
    have htail :=
      takeBack_eq_rewound spent ((b.removeFromHand playerId cardId).addToDiscardPile cardId)
    refine Eq.trans htail ?_
    have hplayers : (b.players.modify playerId (Player.removeFromHand cardId)).mapValues
        (fun q player => { player with hand := player.hand.filter fun c => (c, q) ∉ spent }) =
        b.players.mapValues fun q player =>
          { player with
            hand := player.hand.filter fun c => (c, q) ∉ (cardId, playerId) :: spent } := by
      rw [OrderedMap.modify, OrderedMap.mapValues_mapValues]
      congr 1
      funext q player
      by_cases hseat : q = playerId
      · simp [hseat, Player.removeFromHand, List.filter_filter, Bool.and_comm]
      · simp [hseat]
    simp only [Board.rewound, Board.removeFromHand, Board.addToDiscardPile, List.map_cons,
      List.reverse_cons, List.append_assoc, List.singleton_append]
    rw [hplayers]

/-- What was spent into a frame lies in an instance pile, did not when the frame opened, and is not
the card the frame is about. -/
theorem mem_spentInto {gs : GameState} {frame : GameFrame} {cardId playerId : String} :
    (cardId, playerId) ∈ gs.spentInto frame ↔ cardId ∈ gs.board.instanceCardIds playerId ∧
      cardId ∉ frame.snapshot.instanceCardIds playerId ∧ some cardId ≠ frame.subject := by
  simp only [spentInto, List.mem_flatMap, List.mem_map, List.mem_filter, decide_eq_true_eq,
    Prod.exists, Prod.mk.injEq]
  constructor
  · rintro ⟨q, party, hparty, c, ⟨hmem, hnew, hother⟩, rfl, rfl⟩
    refine ⟨?_, hnew, hother⟩
    rw [Board.instanceCardIds, OrderedMap.get?_eq_some.2 hparty]
    exact hmem
  · rintro ⟨hmem, hnew, hother⟩
    cases hparty : gs.board.parties.get? playerId with
    | none => simp [Board.instanceCardIds, hparty] at hmem
    | some party =>
      rw [Board.instanceCardIds, hparty] at hmem
      exact ⟨playerId, party, OrderedMap.get?_eq_some.1 hparty, cardId, ⟨hmem, hnew, hother⟩,
        rfl, rfl⟩

end GameState

/-! ## What a frame keeps -/

/-- Every open frame keeps the board it was opened over, and whatever was restored went back to
it. -/
structure Backed (w : World) : Prop where
  kept : ∀ e ∈ w.gs.frames.entries, ∃ opening,
    .opened e.1 opening ∈ w.history ∧ e.2.snapshot = opening.board
  restored : ∀ frameId before after, .restored frameId before after ∈ w.history →
    ∃ opening frame, .opened frameId opening ∈ w.history ∧
      before.frames.get? frameId = some frame ∧ frame.snapshot = opening.board ∧
      after = before.restoreFrame frameId

namespace Backed

variable {w w' : World}

/-- The frames are written to, and nothing is told of them. -/
theorem congr {f : Nat → GameFrame → GameFrame} (h : Backed w) (hhistory : w'.history = w.history)
    (hframes : w'.gs.frames = w.gs.frames.mapValues f)
    (hf : ∀ frameId frame, (f frameId frame).snapshot = frame.snapshot) : Backed w' := by
  refine ⟨fun e' he' => ?_, by rw [hhistory]; exact h.restored⟩
  rw [hframes] at he'
  obtain ⟨e, he, rfl⟩ := List.mem_map.1 he'
  rw [hhistory, hf]
  exact h.kept e he

/-- The frames stay, and so does what has been told. -/
theorem mono (h : Backed w) (hhistory : w.history ⊆ w'.history)
    (hframes : w'.gs.frames.entries ⊆ w.gs.frames.entries)
    (hnew : ∀ m ∈ w'.history, m ∈ w.history ∨ ∀ frameId before after,
    m ≠ .restored frameId before after) :
    Backed w' := by
  refine ⟨fun e he => ?_, fun frameId before after hmem => ?_⟩
  · obtain ⟨opening, hopened, hkept⟩ := h.kept e (hframes he)
    exact ⟨opening, hhistory hopened, hkept⟩
  · obtain hold | hother := hnew _ hmem
    · obtain ⟨opening, frame, hopened, hrest⟩ := h.restored frameId before after hold
      exact ⟨opening, frame, hhistory hopened, hrest⟩
    · exact absurd rfl (hother frameId before after)

/-- A note that rolls nothing back. -/
theorem note {m : Mark} (h : Backed w)
    (hm : ∀ frameId before after, m ≠ .restored frameId before after)
    (hhistory : w'.history = m :: w.history)
    (hframes : w'.gs.frames.entries ⊆ w.gs.frames.entries) :
    Backed w' := by
  refine h.mono (by simp [hhistory]) hframes fun x hx => ?_
  rw [hhistory, List.mem_cons] at hx
  obtain rfl | hx := hx
  · exact .inr hm
  · exact .inl hx

/-- A frame that opens keeps the board. -/
theorem openFrame (h : Backed w) (frameId : Nat) : Backed (w.openFrame frameId) := by
  refine ⟨fun e he => ?_, fun F before after hmem => ?_⟩
  · obtain he | rfl := OrderedMap.mem_entries_set he
    · obtain ⟨opening, hopened, hkept⟩ := h.kept e he
      exact ⟨opening, List.mem_cons_of_mem _ hopened, hkept⟩
    · exact ⟨w.gs, List.mem_cons_self, rfl⟩
  · obtain heq | hmem := List.mem_cons.1 hmem
    · cases heq
    · obtain ⟨opening, frame, hopened, hrest⟩ := h.restored F before after hmem
      exact ⟨opening, frame, List.mem_cons_of_mem _ hopened, hrest⟩

/-- A frame that is let go keeps its mark. -/
theorem releaseFrame (h : Backed w) (frameId : Nat) : Backed (w.releaseFrame frameId) := by
  unfold World.releaseFrame
  split
  · refine h.note (m := .released frameId w.gs _) (by simp) rfl ?_
    dsimp only [GameState.releaseFrame]
    split
    · exact List.Subset.refl _
    · exact fun _ he => (List.mem_filter.1 he).1
  · exact h

/-- A frame that is rolled back leaves on record what it rolled back to. -/
theorem restoreFrame (h : Backed w) (frameId : Nat) : Backed (w.restoreFrame frameId) := by
  unfold World.restoreFrame
  split
  · next hopen =>
    obtain ⟨frame, hfound⟩ := Option.isSome_iff_exists.1
      (OrderedMap.get?_isSome.2 (OrderedMap.has_iff.1 hopen))
    have hafter : w.gs.restoreFrame frameId = { w.gs with
        frames := w.gs.frames.erase frameId
        pipelines := w.gs.pipelines.filter fun p => p.pausedOn ≠ some frameId
        board := GameState.takeBack (w.gs.spentInto frame) frame.snapshot } := by
      rw [GameState.restoreFrame, hfound]
    refine ⟨fun e he => ?_, fun F before after hmem => ?_⟩
    · rw [hafter] at he
      obtain ⟨opening, hopened, hkept⟩ := h.kept e (List.mem_filter.1 he).1
      exact ⟨opening, List.mem_cons_of_mem _ hopened, hkept⟩
    · obtain heq | hmem := List.mem_cons.1 hmem
      · cases heq
        obtain ⟨opening, hopened, hkept⟩ := h.kept _ (OrderedMap.get?_eq_some.1 hfound)
        exact ⟨opening, frame, List.mem_cons_of_mem _ hopened, hfound, hkept, rfl⟩
      · obtain ⟨opening, frame, hopened, hrest⟩ := h.restored F before after hmem
        exact ⟨opening, frame, List.mem_cons_of_mem _ hopened, hrest⟩
  · exact h

/-- Every write keeps what stands behind the marks. -/
theorem change (h : Backed w) (hchange : Change w w') : Backed w' := by
  cases hchange with
  | managers | drawId | seat | tick | door | install => exact ⟨h.kept, h.restored⟩
  | state _ hframes => exact ⟨by simpa [hframes] using h.kept, h.restored⟩
  | @note m hnote =>
    refine h.note (fun F before after heq => ?_) rfl (List.Subset.refl _)
    rw [heq] at hnote
    cases hnote
  | openFrame frameId => exact h.openFrame frameId
  | releaseFrame frameId => exact h.releaseFrame frameId
  | restoreFrame frameId => exact h.restoreFrame frameId
  | clear => exact ⟨fun e he => absurd he List.not_mem_nil, h.restored⟩
  | window windowId =>
    exact h.congr (f := fun _ frame => frame.modifyWindow windowId _) rfl rfl fun _ _ => rfl
  | restart now select =>
    refine h.congr (f := fun k frame => if select k then
      { frame with windows := frame.windows.map (·.restartClock now) } else frame) rfl rfl
      fun k frame => ?_
    split <;> rfl
  | spend now playerId cardId frameId =>
    have hspent : Backed { w with gs := w.gs.spendCard now playerId cardId } := by
      dsimp only [GameState.spendCard]
      split
      · exact ⟨h.kept, h.restored⟩
      · exact h.congr (f := fun _ frame => frame.modifyWindow _ _) rfl rfl fun _ _ => rfl
    exact hspent.note (m := .spent playerId cardId frameId w.gs) (by simp) rfl (List.Subset.refl _)

instance : Sustained Backed where
  change hchange h := h.change hchange
  insert frameId v h := by
    refine h.congr (f := fun k frame => if k = frameId then
      { frame with windows := frame.windows ++ [v] } else frame) rfl rfl fun k frame => ?_
    split <;> rfl
  announce event h := h.note (m := .emitted event _) (by simp) rfl (List.Subset.refl _)
  record _ h := ⟨h.kept, h.restored⟩
  pass windowId _ h :=
  h.congr (f := fun _ frame => frame.modifyWindow windowId _) rfl rfl fun _ _ => rfl

end Backed

/-! ## Over a run -/

section
variable {setup : GameSetup} {w : World}

/-- So it stands on every run. -/
theorem Reach.backed (h : Reach setup w) : Backed w :=
  h.sustains fun _ =>
    ⟨fun _ he => absurd he List.not_mem_nil, fun _ _ _ hm => absurd hm List.not_mem_nil⟩

/-- A frame that is opened once is opened over one state. -/
theorem opening_unique {frameId : Nat} {gs gs' : GameState} : ∀ {history : List Mark},
    (openedFrames history).Nodup → .opened frameId gs ∈ history → .opened frameId gs' ∈ history →
    gs = gs' := by
  intro history hnodup hmem hmem'
  induction history with
  | nil => cases hmem
  | cons m history ih =>
    have hrest : (openedFrames history).Nodup := by
      refine hnodup.sublist ?_
      exact (List.sublist_cons_self m history).filterMap _
    have hone : ∀ {gs₁ gs₂}, m = .opened frameId gs₁ → .opened frameId gs₂ ∈ history → False := by
      rintro gs₁ gs₂ rfl hagain
      exact (List.nodup_cons.1 hnodup).1 (List.mem_filterMap.2 ⟨_, hagain, rfl⟩)
    rcases List.mem_cons.1 hmem with heq | hold
    · rcases List.mem_cons.1 hmem' with heq' | hold'
      · cases heq.trans heq'.symm
        rfl
      · exact (hone heq.symm hold').elim
    · rcases List.mem_cons.1 hmem' with heq' | hold'
      · exact (hone heq'.symm hold).elim
      · exact ih hrest hold hold'

/-- Whatever happened while a frame was open, its restoration brings back the board of its one
opening, but for what was spent into the frame: the cards that lie in an instance pile now, did not
when the frame opened, and are not the card the frame is about. These go from the hands to the
discard pile. What waited on the frame is dropped, the other frames and pipelines stay as they are.
So it is in a run in which no input throws half-way. -/
theorem Reach.rollback (h : Reach setup w) {frameId : Nat} {before after : GameState}
    (hrestored : .restored frameId before after ∈ w.history) :
    ∃ opening frame, .opened frameId opening ∈ w.history ∧
      (∀ opening', .opened frameId opening' ∈ w.history → opening' = opening) ∧
      before.frames.get? frameId = some frame ∧ frame.snapshot = opening.board ∧
      (∀ cardId playerId, (cardId, playerId) ∈ before.spentInto frame ↔
        cardId ∈ before.board.instanceCardIds playerId ∧
        cardId ∉ opening.board.instanceCardIds playerId ∧ some cardId ≠ frame.subject) ∧
      after = { before with
        board := opening.board.rewound (before.spentInto frame)
        frames := before.frames.erase frameId
        pipelines := before.pipelines.filter fun p => p.pausedOn ≠ some frameId } := by
  obtain ⟨opening, frame, hopened, hfound, hkept, hafter⟩ :=
    h.backed.restored frameId before after hrestored
  refine ⟨opening, frame, hopened, fun opening' hopened' => ?_, hfound, hkept,
    fun cardId playerId => ?_, ?_⟩
  · exact opening_unique h.frames_once.2.1 hopened' hopened
  · rw [GameState.mem_spentInto, hkept]
  · rw [hafter, GameState.restoreFrame, hfound]
    dsimp only
    rw [GameState.takeBack_eq_rewound, hkept]

end

/-- The frame of the lost contest is about the magic, and the modifier has been spent into it. -/
theorem contestLost_spent :
    ((modifierInHand.play 60 (contestLost 1)).any fun w => w.history.any fun
      | .restored frameId before _ => (before.frames.get? frameId).any fun frame =>
        frame.subject == some "magic-055" && (before.spentInto frame).contains ("modifier-077", "A")
      | _ => false) = true := by
  decide +kernel

/-- The lost contest of a magic is rolled back to the board the magic was played over. The modifier
came into the instance pile meanwhile, and goes to the discard pile. -/
theorem Reach.rollback_modifierInHand : ∃ w frameId before after opening frame,
    Reach modifierInHand w ∧ .restored frameId before after ∈ w.history ∧
      .opened frameId opening ∈ w.history ∧ before.frames.get? frameId = some frame ∧
      frame.subject = some "magic-055" ∧ "modifier-077" ∈ before.board.instanceCardIds "A" ∧
      "modifier-077" ∉ opening.board.instanceCardIds "A" ∧
      "modifier-077" ∈ after.board.discardPile ∧
      after.board = opening.board.rewound (before.spentInto frame) := by
  obtain ⟨w, h, hplayed⟩ := Reach.of_play _ _ _ _ contestLost_spent
  obtain ⟨m, hmem, hm⟩ := List.any_eq_true.1 hplayed
  cases m with
  | restored frameId before after =>
    obtain ⟨frame', hfound', hspent⟩ := Option.any_eq_true _ _ |>.1 hm
    obtain ⟨opening, frame, hopened, -, hfound, -, hiff, hafter⟩ := h.rollback hmem
    obtain rfl : frame = frame' := Option.some.inj (hfound.symm.trans hfound')
    rw [Bool.and_eq_true, beq_iff_eq, List.contains_iff_mem] at hspent
    obtain ⟨hsubject, hspent⟩ := hspent
    obtain ⟨hpile, hnew, -⟩ := (hiff _ _).1 hspent
    have hboard : after.board = opening.board.rewound (before.spentInto frame) :=
      congrArg GameState.board hafter
    have hdiscarded : "modifier-077" ∈ after.board.discardPile := by
      rw [hboard]
      exact List.mem_append_left _ (List.mem_reverse.2 (List.mem_map.2 ⟨_, hspent, rfl⟩))
    exact ⟨w, frameId, before, after, opening, frame, h, hmem, hopened, hfound, hsubject, hpile,
      hnew, hdiscarded, hboard⟩
  | _ => cases hm

end HereToSlaughter
