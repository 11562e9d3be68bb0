import HereToSlaughter.Machine.Inner

/-!
# No card is lost

Every card that was dealt lies in one place: on the board or in flight. A frame that opens files
the board without the card it is about, so its snapshot and that card make up the deal again. A
frame that is released puts away what was spent into it; one that is restored takes the spent
cards out of the hands its snapshot gives them back to. That loses nothing when they lay in those
hands as the frame opened (`Mark.Fair`), and when no gear is put over other gear.

A card that a frame is about rests on windows that may restore the board, so no win is declared
while such a frame settles, and it is still open when it does.
-/

namespace HereToSlaughter

open Lib

/-! ## Boards that hold the same cards -/

namespace Board

variable {b b' : Board} {playerId cardId : String}

/-- A change of players that leaves their hands alone. -/
theorem flatMap_hand_modify {players : OrderedMap String Player} {f : Player → Player}
    (h : ∀ player : Player, (f player).hand = player.hand) :
    (players.modify playerId f).values.flatMap Player.hand =
    players.values.flatMap Player.hand := by
  simp only [OrderedMap.values, OrderedMap.entries_modify, List.flatMap_map, List.map_map]
  refine List.flatMap_congr fun e _ => ?_
  simp only [Function.comp_apply]
  split
  · exact h e.2
  · rfl

/-- A turn that starts moves no card. -/
theorem cardIds_startTurn : (b.startTurn playerId).cardIds = b.cardIds := by
  simp only [Board.startTurn, cardIds, increaseActionPoints, resetActionPoints,
    clearUsedAbilities, clearChallengedCards]
  rw [flatMap_hand_modify (f := Player.increaseActionPoints _) fun _ => rfl,
    flatMap_hand_modify (f := Player.resetActionPoints) fun _ => rfl]

/-! ### Cards that were spent -/

/-- A card off an instance pile leaves the others where they lie. -/
theorem mem_instanceCardIds_removeInstanceCard {otherId otherCardId : String}
    (h : otherCardId ∈ b.instanceCardIds otherId) (hne : otherCardId ≠ cardId) :
    otherCardId ∈ (b.removeInstanceCard playerId cardId).instanceCardIds otherId := by
  simp only [instanceCardIds, removeInstanceCard, OrderedMap.get?_modify] at h ⊢
  cases hparty : b.parties.get? otherId with
  | none => simp [hparty] at h
  | some party =>
    rw [hparty] at h
    simp only [Option.map_some, Option.getD_some] at h ⊢
    split
    · exact List.mem_filter.2 ⟨h, by simpa using hne⟩
    · exact h

/-- Putting away what lies on instance piles moves it to the discard pile. -/
theorem cardIds_putAway : ∀ {spent : List (String × String)} {b : Board}, b.cardIds.Nodup →
    (∀ s ∈ spent, s.1 ∈ b.instanceCardIds s.2) → (spent.map Prod.fst).Nodup →
    (GameState.putAway spent b).cardIds.Perm b.cardIds
  | [], _, _, _, _ => .refl _
  | (cardId, playerId) :: spent, b, hnodup, hlie, hdistinct => by
    obtain ⟨hnew, hdistinct⟩ := List.nodup_cons.1 hdistinct
    have hmem := hlie _ List.mem_cons_self
    obtain ⟨party, hparty, hpile⟩ : ∃ party, b.parties.get? playerId = some party ∧
        cardId ∈ party.instanceCardIds := by
      simp only [instanceCardIds] at hmem
      cases hparty : b.parties.get? playerId with
      | none => simp [hparty] at hmem
      | some party => exact ⟨party, rfl, by simpa [hparty] using hmem⟩
    have hstep : ((b.removeInstanceCard playerId cardId).addToDiscardPile cardId).cardIds.Perm
        b.cardIds :=
      cardIds_addToDiscardPile.trans (cardIds_removeInstanceCard hparty hpile hnodup).symm
    refine (cardIds_putAway (hstep.nodup_iff.2 hnodup) (fun s hs => ?_) hdistinct).trans hstep
    exact mem_instanceCardIds_removeInstanceCard (hlie s (List.mem_cons_of_mem _ hs))
      fun heq => hnew (List.mem_map.2 ⟨s, hs, heq⟩)

/-- Taking back what lies in hands moves it to the discard pile. -/
theorem cardIds_takeBack : ∀ {spent : List (String × String)} {b : Board}, b.Seated →
    b.cardIds.Nodup → (∀ s ∈ spent, s.1 ∈ b.hand s.2) → (spent.map Prod.fst).Nodup →
    (GameState.takeBack spent b).cardIds.Perm b.cardIds
  | [], _, _, _, _, _ => .refl _
  | (cardId, playerId) :: spent, b, hseated, hnodup, hlie, hdistinct => by
    obtain ⟨hnew, hdistinct⟩ := List.nodup_cons.1 hdistinct
    have hmoves : Moves [] b [] (b.discardFromHand playerId cardId) :=
      .discardFromHand (hlie _ List.mem_cons_self)
    have hstep := hmoves.cardIds hseated (by simpa using hnodup)
    simp only [List.append_nil] at hstep
    refine (cardIds_takeBack (seated_congr hmoves.rest hseated) (hstep.nodup_iff.2 hnodup)
      (fun s hs => ?_) hdistinct).trans hstep
    have hne : s.1 ≠ cardId := fun heq => hnew (List.mem_map.2 ⟨s, hs, heq⟩)
    have hmem := hlie s (List.mem_cons_of_mem _ hs)
    show s.1 ∈ (b.removeFromHand playerId cardId).hand s.2
    rw [hand_removeFromHand]
    split
    · exact List.mem_filter.2 ⟨hmem, by simpa using hne⟩
    · exact hmem

end Board

/-! ## What a frame counts as spent -/

/-- What was spent into a frame lies on an instance pile. -/
theorem Shape.mem_spentInto {s : Shape} {f : FrameShape} {spent : String × String}
    (h : spent ∈ s.spentInto f) : spent.1 ∈ s.board.instanceCardIds spent.2 := by
  obtain ⟨⟨playerId, party⟩, hparty, h⟩ := List.mem_flatMap.1 h
  obtain ⟨cardId, hcard, rfl⟩ := List.mem_map.1 h
  simp only [Board.instanceCardIds, OrderedMap.get?_eq_some.2 hparty, Option.map_some,
    Option.getD_some]
  exact (List.mem_filter.1 hcard).1

/-- It lies there once. -/
theorem Shape.nodup_spentInto {s : Shape} (hnodup : s.board.cardIds.Nodup) (f : FrameShape) :
    ((s.spentInto f).map Prod.fst).Nodup := by
  have hparties : (s.board.parties.values.flatMap Party.cardIds).Nodup :=
    (List.nodup_append.1 hnodup).2.1
  refine hparties.sublist ?_
  simp only [spentInto, List.map_flatMap, List.map_map, OrderedMap.values, List.flatMap_map]
  refine List.Sublist.flatMap_right _ fun e _ => ?_
  simp only [Function.comp_def, List.map_id_fun', id_eq, Party.cardIds]
  refine List.filter_sublist.trans ?_
  exact (List.sublist_append_right _ _).trans (List.sublist_append_left _ _)

namespace GameState.Matches

variable {gs : GameState} {s : Shape} {f : FrameShape}

/-- A frame of the shape is a frame of the state. -/
theorem frame (h : gs.Matches s) (hf : f ∈ s.frames) :
    ∃ frame, gs.frames.get? f.id = some frame ∧ frame.shape f.id = f := by
  obtain ⟨frame, hframe, hshape⟩ := GameState.mem_frameShapes (h.frames ▸ hf)
  exact ⟨frame, OrderedMap.get?_eq_some.2 hframe, hshape⟩

/-- What a frame has spent is read off the shape. -/
theorem spentInto (h : gs.Matches s) (frameId : Nat) (frame : GameFrame) :
    s.spentInto (frame.shape frameId) = gs.spentInto frame := by
  simp only [Shape.spentInto, GameState.spentInto, GameFrame.shape_subject, h.board]
  rfl

end GameState.Matches

/-! ## Fair runs -/

/-- What the mark tells of lost no card: what a restored frame took back lay in those hands when the
frame opened, and an item went into an empty slot. -/
def Mark.Fair : Mark → Prop
  | .restored frameId before _ => ∀ frame ∈ before.frames.get? frameId,
      ∀ spent ∈ before.spentInto frame, spent.1 ∈ frame.snapshot.hand spent.2
  | .equipped playerId heroId _ gs =>
      ∀ party ∈ gs.board.parties.get? playerId, party.getEquippedItem heroId = none
  | _ => True

instance : DecidablePred Mark.Fair
  | .restored .. => inferInstanceAs (Decidable (∀ _ ∈ _, ∀ _ ∈ _, _))
  | .equipped .. => inferInstanceAs (Decidable (∀ _ ∈ _, _))
  | .emitted .. | .opened .. | .released .. | .spent .. | .queued .. | .executed ..
  | .suspended .. | .concluded .. => inferInstanceAs (Decidable True)

/-- The card that a frame of a state is about. -/
def GameState.subjectOf (gs : GameState) (frameId : Nat) : Option String :=
  (gs.frames.get? frameId).bind GameFrame.subject

/-- The frame that the mark tells of settled over the cards `ids`: a released one leaves them on the
board, a restored one all but the card it was about. -/
def Mark.Conserves (ids : List String) : Mark → Prop
  | .released _ _ after => after.board.cardIds.Perm ids
  | .restored frameId before after =>
    (after.board.cardIds ++ (before.subjectOf frameId).toList).Perm ids
  | _ => True

/-- A frame is filed without the card it is about. -/
structure Filed (ids : List String) (k : Control) (f : FrameShape) (subject : Option String) :
    Prop where
  snapshot : (f.snapshot.cardIds ++ subject.toList).Perm ids
  opening : ∀ o ∈ k.opening, o.frameId = f.id → o.subject = subject
  windows : ∀ w ∈ f.windows, w.subject = subject ∧ (subject.isSome → w.isRestoring = true)
  closing : ∀ subject', k.settling = .closing f.id subject' → subject' = subject ∧ f.windows ≠ []

/-- Every card is on the board or in flight, and every frame is filed. -/
structure Ledger (ids : List String) (x : Control × Shape) : Prop where
  board : (x.2.board.cardIds ++ x.1.inFlight).Perm ids
  frames : ∀ f ∈ x.2.frames, ∃ subject, Filed ids x.1 f subject
  settling_lt : ∀ frameId subject, x.1.settling = .closing frameId subject → frameId < x.2.nextId
  contest : ∀ frameId cardId, x.1.settling = .closing frameId (some cardId) →
    x.1.clearing = false ∧ frameOpen frameId x.2.frames
  marks : ∀ m ∈ x.2.history, m.Conserves ids

namespace Filed

variable {ids : List String} {k k' : Control} {f : FrameShape} {subject : Option String}

/-- The openings and the settlement say the same of the frame. -/
theorem congr (h : Filed ids k f subject) (hopening : ∀ o ∈ k'.opening, ∃ o' ∈ k.opening,
      o'.frameId = o.frameId ∧ o'.subject = o.subject)
    (hsettling : k'.settling = k.settling ∨ ∀ frameId subject',
    k'.settling ≠ .closing frameId subject') :
    Filed ids k' f subject where
  snapshot := h.snapshot
  opening o ho hid := by
    obtain ⟨o', ho', hid', hsubject⟩ := hopening o ho
    exact hsubject ▸ h.opening o' ho' (hid'.trans hid)
  windows := h.windows
  closing subject' hclosing := by
    rcases hsettling with hsettling | hsettling
    · exact h.closing subject' (hsettling ▸ hclosing)
    · exact absurd hclosing (hsettling _ _)

/-- The subject of a frame that settles. -/
theorem subject_eq (h : Filed ids k f subject) (hwindows : f.windows ≠ []) :
    f.subject = subject := by
  obtain ⟨w, ws, hcons⟩ := List.exists_cons_of_ne_nil hwindows
  cases subject with
  | none =>
    rw [FrameShape.subject, List.findSome?_eq_none_iff]
    exact fun w hw => (h.windows w hw).1
  | some cardId =>
    have hw := (h.windows w (hcons ▸ List.mem_cons_self)).1
    simp [FrameShape.subject, hcons, hw]

/-- A window of the frame closes. -/
theorem close (h : Filed ids k f subject) (windowId : Nat) :
    Filed ids k (f.close windowId) subject where
  snapshot := h.snapshot
  opening := h.opening
  windows w hw := by
    obtain ⟨v, hv, rfl⟩ := List.mem_map.1 hw
    have := h.windows v hv
    split <;> exact this
  closing subject' hclosing := by
    obtain ⟨heq, hne⟩ := h.closing subject' hclosing
    exact ⟨heq, by simpa [FrameShape.close] using hne⟩

/-- A window of a frame that is about a card may restore it as long as it is open. -/
theorem mayRestore (h : Filed ids k f subject) (hsubject : subject.isSome = true) :
    f.mayRestore = true := by
  rw [FrameShape.mayRestore, Bool.or_eq_true, Bool.not_eq_true']
  cases hopen : f.hasOpenWindow with
  | false => exact .inl rfl
  | true =>
    obtain ⟨w, hw, hwopen⟩ := List.any_eq_true.1 hopen
    refine .inr (List.any_eq_true.2 ⟨w, hw, ?_⟩)
    rw [hwopen, (h.windows w hw).2 hsubject]
    rfl

end Filed

namespace Ledger

variable {T : Table} {ids : List String} {k k' : Control} {s s' : Shape} {x y : Control × Shape}

/-- Cards move, frames go, and nothing new is filed. -/
theorem congr (h : Ledger ids (k, s)) (hboard : (s'.board.cardIds ++ k'.inFlight).Perm ids)
    (hframes : ∀ f ∈ s'.frames, f ∈ s.frames)
    (hopening : ∀ o ∈ k'.opening, ∃ o' ∈ k.opening, o'.frameId = o.frameId ∧ o'.subject = o.subject)
    (hsettling : (k'.settling = k.settling ∧ s.nextId ≤ s'.nextId) ∨
      ∀ frameId subject, k'.settling ≠ .closing frameId subject)
    (hcontest : ∀ frameId cardId, k'.settling = .closing frameId (some cardId) →
      k'.clearing = false ∧ frameOpen frameId s'.frames)
    (hmarks : ∀ m ∈ s'.history, m ∈ s.history ∨ m.Conserves ids) : Ledger ids (k', s') where
  board := hboard
  frames f hf := by
    obtain ⟨subject, hfiled⟩ := h.frames f (hframes f hf)
    exact ⟨subject, hfiled.congr hopening (hsettling.imp And.left id)⟩
  settling_lt F subject hclosing := by
    rcases hsettling with ⟨heq, hnext⟩ | hnot
    · exact Nat.lt_of_lt_of_le (h.settling_lt F subject (heq ▸ hclosing)) hnext
    · exact absurd hclosing (hnot F subject)
  contest := hcontest
  marks m hm := (hmarks m hm).elim (h.marks m) id

/-- Nothing but the board and the rest of the control changes. -/
theorem same (h : Ledger ids (k, s)) (hboard : (s'.board.cardIds ++ k'.inFlight).Perm ids)
    (hframes : s'.frames = s.frames) (hopening : k'.opening = k.opening)
    (hsettling : k'.settling = k.settling) (hclearing : k'.clearing = k.clearing)
    (hnext : s.nextId ≤ s'.nextId) (hmarks : ∀ m ∈ s'.history, m ∈ s.history ∨ m.Conserves ids) :
    Ledger ids (k', s') := by
  refine h.congr hboard (fun f hf => hframes ▸ hf) (fun o ho => ⟨o, hopening ▸ ho, rfl, rfl⟩)
    (.inl ⟨hsettling, hnext⟩) (fun F c hclosing => ?_) hmarks
  rw [hclearing, hframes]
  exact h.contest F c (hsettling ▸ hclosing)

/-- Nothing settles any more. -/
theorem calm (h : Ledger ids (k, s)) (hboard : (s'.board.cardIds ++ k'.inFlight).Perm ids)
    (hframes : ∀ f ∈ s'.frames, f ∈ s.frames) (hopening : k'.opening = k.opening)
    (hsettling : ∀ frameId subject, k'.settling ≠ .closing frameId subject)
    (hmarks : ∀ m ∈ s'.history, m ∈ s.history ∨ m.Conserves ids) : Ledger ids (k', s') :=
  h.congr hboard hframes (fun o ho => ⟨o, hopening ▸ ho, rfl, rfl⟩) (.inr hsettling)
    (fun F c hclosing => absurd hclosing (hsettling F (some c))) hmarks

/-- A mark that settles nothing. -/
theorem mark {m : Mark} {history : List Mark} (hm : m.Conserves ids) :
    ∀ m' ∈ m :: history, m' ∈ history ∨ m'.Conserves ids := fun m' hmem => by
  rcases List.mem_cons.1 hmem with rfl | hmem
  · exact .inr hm
  · exact .inl hmem

/-- No card lies twice. -/
theorem nodup (h : Ledger ids (k, s)) (hids : ids.Nodup) : s.board.cardIds.Nodup :=
  (List.nodup_append.1 (h.board.nodup_iff.2 hids)).1

/-- An edit moves cards, or leaves them alone. -/
theorem edit {fl : List String} {b : Board} (h : Ledger ids (k, s)) (hids : ids.Nodup)
    (hseated : s.board.Seated) (hedit : Edit T k s fl b) : (b.cardIds ++ fl).Perm ids := by
  have hnodup := h.board.nodup_iff.2 hids
  cases hedit with
  | retire | install | gain | pay =>
    refine .trans (.of_eq ?_) h.board
    congr 1
    simp only [Board.cardIds, Board.removeEffect, Board.addEffect, Board.increaseActionPoints,
      Board.decreaseActionPoints]
    rw [Board.flatMap_hand_modify fun _ => ?_]
    rfl
  | use | contest => exact h.board
  | move hmoves => exact (hmoves.cardIds hseated hnodup).trans h.board
  | pile hparty hfl =>
    refine .trans ?_ (hfl ▸ h.board)
    exact ((Board.cardIds_addInstanceCard hparty).append_right fl).trans List.perm_middle.symm
  | dispose hparty hmem =>
    refine .trans (.append_right _ ?_) h.board
    exact Board.cardIds_addToDiscardPile.trans
      (Board.cardIds_removeInstanceCard hparty hmem (h.nodup hids)).symm

/-- A frame opens without the card it is about, which alone is in flight. -/
theorem «open» (h : Ledger ids (k, s)) (hsound : Ids k s) {gs : GameState} (subject : Option String)
    (hsubject : k.inFlight = subject.toList) : Ledger ids (k.opens s.nextId subject,
      { s with
        frames := insertFrame s.nextId s.board s.frames
        nextId := s.nextId + 1
        history := .opened s.nextId gs :: s.history }) where
  board := h.board
  frames f hf := by
    dsimp only at hf
    rw [insertFrame_fresh hsound.frames_lt, List.mem_append, List.mem_singleton] at hf
    rcases hf with hf | rfl
    · obtain ⟨subject', hfiled⟩ := h.frames f hf
      refine ⟨subject', hfiled.snapshot, fun o ho hid => ?_, hfiled.windows, hfiled.closing⟩
      rcases List.mem_cons.1 ho with rfl | ho
      · exact absurd hid.symm (Nat.ne_of_lt (hsound.frames_lt f hf))
      · exact hfiled.opening o ho hid
    · refine ⟨subject, hsubject ▸ h.board, fun o ho hid => ?_,
        fun w hw => absurd hw List.not_mem_nil, fun subject' hclosing => ?_⟩
      · rcases List.mem_cons.1 ho with rfl | ho
        · rfl
        · exact absurd hid (Nat.ne_of_lt (hsound.opening_lt o ho))
      · exact absurd (h.settling_lt _ _ hclosing) (Nat.lt_irrefl _)
  settling_lt F subject' hclosing := Nat.lt_succ_of_lt (h.settling_lt F subject' hclosing)
  contest F c hclosing :=
    ⟨(h.contest F c hclosing).1, frameOpen_insertFrame (h.contest F c hclosing).2⟩
  marks m hm := (List.mem_cons.1 hm).elim (fun heq => heq ▸ trivial) (h.marks m)

/-- A window is inserted that is about what its frame is about. -/
theorem insert (h : Ledger ids (k, s)) {o : Opening} {w : WindowShape} {reserved : List Nat}
    (ho : o ∈ k.opening) (hsubject : w.subject = o.subject)
    (hcontest : w.subject.isSome → w.isRestoring = true) :
    Ledger ids ({ k with reserved, opening := markShown o.frameId k.opening },
      { s with frames := modifyFrame o.frameId (FrameShape.addWindow w) s.frames }) where
  board := h.board
  frames f hf := by
    obtain ⟨g, hg, rfl⟩ := List.mem_map.1 hf
    obtain ⟨subject, hfiled⟩ := h.frames g hg
    have hopening : ∀ o' ∈ markShown o.frameId k.opening, o'.frameId = g.id →
      o'.subject = subject := by
      intro o' ho' hid
      obtain ⟨o'', ho'', rfl⟩ := List.mem_map.1 ho'
      split at hid <;> split <;> exact hfiled.opening o'' ho'' hid
    refine ⟨subject, ?_⟩
    split
    · rename_i hgo
      refine ⟨hfiled.snapshot, hopening, fun v hv => ?_, fun subject' hclosing => ?_⟩
      · rcases List.mem_append.1 hv with hv | hv
        · exact hfiled.windows v hv
        · obtain rfl := List.mem_singleton.1 hv
          have hv := hsubject.trans (hfiled.opening o ho hgo.symm)
          exact ⟨hv, fun hsome => hcontest (hv ▸ hsome)⟩
      · exact ⟨(hfiled.closing subject' hclosing).1, by simp [FrameShape.addWindow]⟩
    · exact ⟨hfiled.snapshot, hopening, hfiled.windows, hfiled.closing⟩
  settling_lt := h.settling_lt
  contest F c hclosing :=
    ⟨(h.contest F c hclosing).1, frameOpen_modifyFrame.2 (h.contest F c hclosing).2⟩
  marks := h.marks

/-- Windows close. -/
theorem close (h : Ledger ids (k, s)) (windowId : Nat) :
    Ledger ids (k, { s with frames := s.frames.map (FrameShape.close windowId) }) where
  board := h.board
  frames f hf := by
    obtain ⟨g, hg, rfl⟩ := List.mem_map.1 hf
    obtain ⟨subject, hfiled⟩ := h.frames g hg
    exact ⟨subject, hfiled.close windowId⟩
  settling_lt := h.settling_lt
  contest F c hclosing :=
    ⟨(h.contest F c hclosing).1, frameOpen_close.2 (h.contest F c hclosing).2⟩
  marks := h.marks

/-- While a frame that is about a card settles, an outcome is pending. -/
theorem pending (h : Ledger ids (k, s)) {frameId : Nat} {cardId : String}
    (hclosing : k.settling = .closing frameId (some cardId)) : s.hasPendingOutcome = true := by
  obtain ⟨f, hf, rfl⟩ := (h.contest frameId cardId hclosing).2
  obtain ⟨subject, hfiled⟩ := h.frames f hf
  obtain ⟨rfl, -⟩ := hfiled.closing _ hclosing
  exact List.any_eq_true.2 ⟨f, hf, hfiled.mayRestore rfl⟩

/-- Within a drain cards move between the board and the flight, and a snapshot is filed without the
card in flight. -/
theorem inner (hids : ids.Nodup) (hsound : Ids x.1 x.2) (hseats : Seats x.2) (h : Ledger ids x)
    (hstep : Inner T x y) (hfair : ∀ m ∈ y.2.history, m.Fair) : Ledger ids y := by
  have hsame : ∀ m ∈ x.2.history, m ∈ x.2.history ∨ m.Conserves ids := fun m hm => .inl hm
  cases hstep with
  | idle n hn => exact h.same h.board rfl rfl rfl rfl hn hsame
  | push => exact h.same h.board rfl rfl rfl rfl (Nat.le_succ _) hsame
  | reserve => exact h.same h.board rfl rfl rfl rfl (Nat.le_succ _) hsame
  | announce | pause => exact h.same h.board rfl rfl rfl rfl (Nat.le_refl _) (mark trivial)
  | edit hedit =>
    exact h.same (h.edit hids hseats.board.seated hedit) rfl rfl rfl rfl (Nat.le_refl _) hsame
  | equip hgs hparty hfl =>
    rename_i k s gs playerId heroId itemId fl party _ _
    have hboard : (s.board.cardIds ++ itemId :: fl).Perm ids := hfl ▸ h.board
    have hmoves : Moves (itemId :: fl) s.board fl _ :=
      .equip hparty (hfair _ List.mem_cons_self _ (hgs.board ▸ hparty))
    exact h.same ((hmoves.cardIds hseats.board.seated (hboard.nodup_iff.2 hids)).trans hboard)
      rfl rfl rfl rfl (Nat.le_refl _) (mark trivial)
  | «open» subject _ hsubject => exact h.open hsound subject hsubject
  | insert _ ho _ hsubject hcontest => exact h.insert ho hsubject hcontest
  | opened ho =>
    exact h.congr h.board (fun f hf => hf)
      (fun o' ho' => ⟨o', ho.symm ▸ List.mem_cons_of_mem _ ho', rfl, rfl⟩)
      (.inl ⟨rfl, Nat.le_refl _⟩) h.contest hsame
  | declare _ _ _ hpending =>
    -- nobody wins while a frame settles that is about a card
    refine h.congr h.board (fun f hf => hf) (fun o ho => ⟨o, ho, rfl, rfl⟩)
      (.inl ⟨rfl, Nat.le_refl _⟩)
      (fun F c hclosing => ?_) (mark trivial)
    exact absurd (h.pending hclosing) (Bool.eq_false_iff.1 hpending)
  | cancel windowId => exact h.close windowId
  | clear hclearing =>
    refine h.congr h.board (fun f hf => absurd hf List.not_mem_nil) (fun o ho => ⟨o, ho, rfl, rfl⟩)
      (.inl ⟨rfl, Nat.le_refl _⟩) (fun F c hclosing => ?_) hsame
    exact absurd hclearing (Bool.eq_false_iff.1 (h.contest F c hclosing).1)
  | _ => exact h.same h.board rfl rfl rfl rfl (Nat.le_refl _) hsame

/-- A card goes from a hand onto an instance pile. -/
theorem spend (h : Ledger ids (k, s)) (hids : ids.Nodup) (hseated : s.board.Seated)
    (hlanded : k.inFlight = []) {playerId cardId : String} {party : Party}
    (hcard : cardId ∈ s.board.hand playerId) (hparty : s.board.parties.get? playerId = some party) :
    (((s.board.removeFromHand playerId cardId).addInstanceCard playerId cardId).cardIds ++
      k.inFlight).Perm ids := by
  have hboard : (s.board.cardIds ++ []).Perm ids := hlanded ▸ h.board
  have hmoves : Moves [] s.board [cardId] _ := .removeFromHand hcard
  have hadd :
      ((s.board.removeFromHand playerId cardId).addInstanceCard playerId cardId).cardIds.Perm
      (cardId :: (s.board.removeFromHand playerId cardId).cardIds) :=
    Board.cardIds_addInstanceCard hparty
  rw [hlanded, List.append_nil]
  exact ((hadd.trans (List.perm_append_singleton _ _).symm).trans
    (hmoves.cardIds hseated (hboard.nodup_iff.2 hids))).trans hboard

/-- A frame that is released loses none of the cards spent into it. -/
theorem release (h : Ledger ids (k, s)) (hids : ids.Nodup) (hlanded : k.inFlight = [])
    (f : FrameShape) : (GameState.putAway (s.spentInto f) s.board).cardIds.Perm ids := by
  have hnodup := h.nodup hids
  refine (Board.cardIds_putAway hnodup (fun spent hspent => Shape.mem_spentInto hspent)
    (Shape.nodup_spentInto hnodup f)).trans ?_
  have hboard := h.board
  rwa [hlanded, List.append_nil] at hboard

/-- A frame that is restored takes back the cards spent into it, and leaves the one it was about. -/
theorem restore (h : Ledger ids (k, s)) (hids : ids.Nodup) (hseats : Seats s) {f : FrameShape}
    {subject : Option String} (hsettling : k.settling = .closing f.id subject) (hf : f ∈ s.frames)
    (hfair : ∀ spent ∈ s.spentInto f, spent.1 ∈ f.snapshot.hand spent.2) :
    ((GameState.takeBack (s.spentInto f) f.snapshot).cardIds ++ subject.toList).Perm ids ∧
      f.subject = subject := by
  obtain ⟨subject', hfiled⟩ := h.frames f hf
  obtain ⟨rfl, hwindows⟩ := hfiled.closing subject hsettling
  have hnodup : f.snapshot.cardIds.Nodup :=
    (List.nodup_append.1 (hfiled.snapshot.nodup_iff.2 hids)).1
  have htake := Board.cardIds_takeBack (hseats.snapshots f hf).seated hnodup hfair
    (Shape.nodup_spentInto (h.nodup hids) f)
  exact ⟨(htake.append_right _).trans hfiled.snapshot, hfiled.subject_eq hwindows⟩

/-- Between drains a released frame leaves every card on the board, and a restored one all but its
subject. -/
theorem outer (hids : ids.Nodup) (hsound : Ids x.1 x.2) (hseats : Seats x.2) (h : Ledger ids x)
    (hstep : Outer T x y) (hfair : ∀ m ∈ y.2.history, m.Fair) : Ledger ids y := by
  have hsame : ∀ m ∈ x.2.history, m ∈ x.2.history ∨ m.Conserves ids := fun m hm => .inl hm
  have hfilter : ∀ {p : FrameShape → Bool}, ∀ f ∈ x.2.frames.filter p, f ∈ x.2.frames :=
    fun f hf => (List.mem_filter.1 hf).1
  cases hstep with
  | inner hstep => exact h.inner hids hsound hseats hstep hfair
  | spend hgs hk hsettling hcard hparty =>
    exact h.calm (h.spend hids hseats.board.seated hk.inFlight hcard hparty) (fun f hf => hf) rfl
      (fun F subject hc => (nomatch hsettling.symm.trans hc)) (mark trivial)
  | closeOne hk hsettling hf hw =>
    rename_i f w _ _ _
    have hclose := h.close w.id
    exact hclose.calm hclose.board (fun f hf => hf) rfl
      (fun F subject hc => (nomatch hsettling.symm.trans hc)) hsame
  | closeLast hk hsettling hf hw =>
    rename_i k s f w _ _
    refine ⟨h.board, fun g hg => ?_, fun F subject hc => ?_, fun F c hc => ?_, h.marks⟩
    · obtain ⟨g, hg', rfl⟩ := List.mem_map.1 hg
      obtain ⟨subject, hfiled⟩ := h.frames g hg'
      have hclosed := hfiled.close w.id
      refine ⟨subject, hclosed.snapshot, hclosed.opening, hclosed.windows,
        fun subject' hclosing => ?_⟩
      -- the frame settles about what its windows are about
      obtain ⟨hid, rfl⟩ := Settling.closing.inj hclosing
      obtain rfl : f = g := List.inj_on_of_nodup_map hsound.frames_nodup hf hg' hid
      exact ⟨hfiled.subject_eq (List.ne_nil_of_mem hw),
        List.ne_nil_of_mem (List.mem_map_of_mem hw)⟩
    · obtain ⟨rfl, -⟩ := Settling.closing.inj hc
      exact hsound.frames_lt f hf
    · obtain ⟨rfl, -⟩ := Settling.closing.inj hc
      exact ⟨hk.clearing, frameOpen_close.2 ⟨f, hf, rfl⟩⟩
  | release hk hsettling hf hgs hgs' =>
    rename_i k s gs gs' f subject
    have hboard := h.release hids hk.inFlight f
    refine h.calm ?_ hfilter rfl (fun F subject hc => (nomatch hc)) (mark ?_)
    · show (_ ++ k.inFlight).Perm ids
      rwa [hk.inFlight, List.append_nil]
    · rwa [Mark.Conserves, hgs'.board]
  | restore hk hsettling hf hgs hgs' =>
    rename_i k s gs gs' f subject _
    obtain ⟨frame, hframe, hshape⟩ := hgs.frame hf
    have hspent : s.spentInto f = gs.spentInto frame := hshape ▸ hgs.spentInto f.id frame
    have hsnapshot : f.snapshot = frame.snapshot := hshape ▸ rfl
    have hfair := hfair _ List.mem_cons_self frame hframe
    rw [← hspent, ← hsnapshot] at hfair
    obtain ⟨hboard, hsubject⟩ := h.restore hids hseats hsettling hf hfair
    refine h.calm hboard hfilter rfl (fun F subject hc => (nomatch hc)) (mark ?_)
    have hof : gs.subjectOf f.id = subject := by
      rw [GameState.subjectOf, hframe, Option.bind_some, ← GameFrame.shape_subject f.id, hshape,
        hsubject]
    rwa [Mark.Conserves, hgs'.board, hof]
  | vanish hk hsettling hf hfl =>
    rename_i k s frameId subject fl
    -- a frame about a card cannot have gone before it settled
    have hnone : subject = none := by
      cases subject with
      | none => rfl
      | some cardId => exact absurd (h.contest frameId cardId hsettling).2 hf
    have hfl : fl = k.inFlight := by
      rcases hfl with rfl | rfl
      · rfl
      · rw [hk.inFlight, hnone]
        rfl
    exact h.calm (hfl ▸ h.board) (fun f hf => hf) rfl (fun F subject hc => (nomatch hc)) hsame
  | wake | finish =>
    exact h.calm h.board (fun f hf => hf) rfl (fun F subject hc => (nomatch hc)) hsame
  | enqueue | execute | endTurn =>
    exact h.same h.board rfl rfl rfl rfl (Nat.le_refl _) (mark trivial)
  | startTurn =>
    refine h.same ?_ rfl rfl rfl rfl (Nat.le_refl _) (mark trivial)
    rw [show _ = _ from Board.cardIds_startTurn]
    exact h.board
  | _ => exact h.same h.board rfl rfl rfl rfl (Nat.le_refl _) hsame

/-- A fair run loses no card. -/
theorem path {T : PrintedTable} (hids : ids.Nodup) (hsound : Sound T.cards x) (h : Ledger ids x)
    (hpath : (outerSystem T).Path x y) (hfair : ∀ m ∈ y.2.history, m.Fair) : Ledger ids y := by
  induction hpath with
  | refl => exact h
  | tail hpath hstep ih =>
    have hsound := (outerSystem T).inv_of_path hpath hsound
    have hbefore := ih fun m hm => hfair m (hstep.history.subset hm)
    exact hbefore.outer hids hsound.ids hsound.seats hstep hfair

end Ledger

end HereToSlaughter
