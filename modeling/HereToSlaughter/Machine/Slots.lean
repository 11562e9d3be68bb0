import HereToSlaughter.Machine.Inner

/-!
# Slots of a turn

A card whose slot an action took in this turn is marked, on the board and on the snapshot of every
open frame, from the moment the action has taken it to the end of the turn. So no rollback within
the turn brings back a board without the mark, and the check of a second action on the card refuses.

Reference: `actions/roll-on-{hero,leader}-action.ts`, `pipelines/game-state.ts`.
-/

namespace HereToSlaughter

open Lib

/-- An action that took the slot of a card in a turn. -/
def Mark.takes (cards : Cards) (turn : Nat) (cardId : String) : Mark → Bool
  | .executed action turn' _ => turn' = turn ∧ action.kind.slot cards = some cardId
  | _ => false

/-- A mark takes a slot when an action that has one is executed. -/
theorem Mark.takes_eq_true {cards : Cards} {turn : Nat} {cardId : String} {m : Mark} :
    m.takes cards turn cardId = true ↔ ∃ action gs, m = .executed action turn gs ∧
      action.kind.slot cards = some cardId := by
  cases m with
  | executed action turn' gs =>
    simp only [takes, decide_eq_true_eq]
    constructor
    · rintro ⟨rfl, hslot⟩
      exact ⟨action, gs, rfl, hslot⟩
    · rintro ⟨action', gs', heq, hslot⟩
      cases heq
      exact ⟨rfl, hslot⟩
  | _ => simp [takes]

/-- An action of this kind was executed in this turn. -/
def Mark.executes (kind : ActionKind) (turn : Nat) : Mark → Bool
  | .executed action turn' _ => turn' = turn ∧ action.kind = kind
  | _ => false

/-- What is executed takes its slot. -/
theorem Mark.takes_of_executes {cards : Cards} {kind : ActionKind} {turn : Nat} {cardId : String}
    (hslot : kind.slot cards = some cardId) {m : Mark} (h : m.executes kind turn = true) :
    m.takes cards turn cardId = true := by
  cases m with
  | executed action turn' gs =>
    simp only [executes, decide_eq_true_eq] at h
    simp only [takes, decide_eq_true_eq]
    exact ⟨h.1, h.2 ▸ hslot⟩
  | _ => cases h

/-- A turn is on, and an action has taken the slot of the card in it. -/
def Shape.Taken (cards : Cards) (s : Shape) (cardId : String) : Prop :=
  (∃ playerId, (turnMarks s.history).head? = some (.started playerId)) ∧
    ∃ m ∈ s.history, m.takes cards s.turn cardId = true

/-- An accepted action finds the slot it takes free. -/
theorem Action.slot_free {T : Table} {b : Board} {action : Action} {cardId : String}
    (h : action.canExecute T b = .ok .accepted) (hslot : action.kind.slot T.cards = some cardId) :
    cardId ∉ b.abilitiesUsedThisTurn := by
  obtain ⟨playerId, kind⟩ := action
  simp only [canExecute, Bind.bind, Except.bind] at h
  split at h
  · cases h
  · split at h
    · simp [Pure.pure, Except.pure] at h
    · cases kind with
      | rollOnHero heroId =>
        obtain rfl : heroId = cardId := by
          simp only [ActionKind.slot] at hslot
          split at hslot
          · exact Option.some.inj hslot
          · cases hslot
        simp only [ActionKind.canExecute, Bind.bind, Except.bind] at h
        intro hused
        split at h
        · cases h
        · split at h <;> simp [Pure.pure, Except.pure] at h
      | rollOnLeader leaderId =>
        obtain rfl : leaderId = cardId := Option.some.inj hslot
        simp only [ActionKind.canExecute, Bind.bind, Except.bind] at h
        intro hused
        split at h
        · cases h
        · repeat' split at h
          all_goals simp_all [Pure.pure, Except.pure]
      | _ => cases hslot

/-- An edit of the board takes no mark away. -/
theorem Edit.used {T : Table} {k : Control} {s : Shape} {fl : List String} {b : Board}
    (h : Edit T k s fl b) : s.board.abilitiesUsedThisTurn ⊆ b.abilitiesUsedThisTurn := by
  cases h with
  | use cardId => exact List.subset_append_left ..
  | move h _ _ =>
    have hused : b.abilitiesUsedThisTurn = s.board.abilitiesUsedThisTurn :=
      (congrArg Board.abilitiesUsedThisTurn h.rest :)
    exact hused ▸ fun _ hmem => hmem
  | _ => exact fun _ hmem => hmem

/-- What has been recorded since takes no slot, and neither begins nor ends a turn. -/
def NoneTaken (cards : Cards) (history history' : List Mark) : Prop :=
  history' = history ∨ ∃ m, history' = m :: history ∧ turnMarks history' = turnMarks history ∧
    ∀ turn cardId, m.takes cards turn cardId = false

namespace NoneTaken

variable {cards : Cards} {history history' : List Mark} {turn : Nat} {cardId : String}

/-- Where nothing is recorded no slot is taken. -/
theorem refl (history : List Mark) : NoneTaken cards history history := .inl rfl

/-- A mark that takes a slot was there before. -/
theorem mem (h : NoneTaken cards history history') {m : Mark} (hm : m ∈ history')
    (htakes : m.takes cards turn cardId = true) : m ∈ history := by
  obtain rfl | ⟨m', rfl, -, hm'⟩ := h
  · exact hm
  · refine (List.mem_cons.1 hm).resolve_left fun heq => ?_
    rw [heq, hm' turn cardId] at htakes
    cases htakes

/-- A slot that was taken once is taken once. -/
theorem once (h : NoneTaken cards history history')
    (honce : history.countP (Mark.takes cards turn cardId) ≤ 1) :
    history'.countP (Mark.takes cards turn cardId) ≤ 1 := by
  obtain rfl | ⟨m, rfl, -, hm⟩ := h
  · exact honce
  · rw [List.countP_cons_of_neg (by simp [hm turn cardId])]
    exact honce

end NoneTaken

/-- What is taken was taken already. -/
theorem Shape.Taken.earlier {cards : Cards} {s s' : Shape} {cardId : String}
    (htaken : s'.Taken cards cardId) (h : NoneTaken cards s.history s'.history)
    (hturn : s'.turn = s.turn) : s.Taken cards cardId := by
  obtain ⟨⟨playerId, hhead⟩, m, hm, htakes⟩ := htaken
  refine ⟨⟨playerId, ?_⟩, m, h.mem hm htakes, hturn ▸ htakes⟩
  obtain heq | ⟨_, -, hmarks, -⟩ := h
  · rw [← heq]
    exact hhead
  · rw [← hmarks]
    exact hhead

/-- The slots of a run. -/
structure Slots (cards : Cards) (x : Control × Shape) : Prop where
  /-- No slot is of a turn to come. -/
  past : ∀ m ∈ x.2.history, ∀ turn cardId, m.takes cards turn cardId = true → turn ≤ x.2.turn
  board : ∀ cardId, x.2.Taken cards cardId →
    x.1.due = some cardId ∨ cardId ∈ x.2.board.abilitiesUsedThisTurn
  snapshots : ∀ f ∈ x.2.frames, ∀ cardId, x.2.Taken cards cardId →
    cardId ∈ f.snapshot.abilitiesUsedThisTurn
  /-- No slot is taken twice. -/
  once : ∀ turn cardId, x.2.history.countP (Mark.takes cards turn cardId) ≤ 1

namespace Slots

variable {T : Table} {cards : Cards} {x y : Control × Shape}

/-- Nothing is taken, and no mark is lost. -/
theorem congr {k k' : Control} {s s' : Shape} (h : Slots cards (k, s))
    (hhistory : NoneTaken cards s.history s'.history) (hturn : s'.turn = s.turn)
    (hdue : k'.due = k.due)
    (hused : s.board.abilitiesUsedThisTurn ⊆ s'.board.abilitiesUsedThisTurn)
    (hframes : ∀ f ∈ s'.frames, ∃ g ∈ s.frames, f.snapshot = g.snapshot) :
    Slots cards (k', s') where
  past m hm turn cardId htakes := by
    have hpast := h.past m (hhistory.mem hm htakes) turn cardId htakes
    exact hpast.trans (Nat.le_of_eq hturn.symm)
  board cardId htaken :=
    (h.board cardId (htaken.earlier hhistory hturn)).imp hdue.trans fun hmem => hused hmem
  snapshots f hf cardId htaken := by
    obtain ⟨g, hg, hsnapshot⟩ := hframes f hf
    rw [hsnapshot]
    exact h.snapshots g hg cardId (htaken.earlier hhistory hturn)
  once turn cardId := hhistory.once (h.once turn cardId)

/-- Within a drain no action is executed; a slot that is due is taken. -/
theorem inner (h : Slots cards x) (hdues : Dues x.1 x.2) (hstep : Inner T x y) :
    Slots cards y := by
  have hsame : ∀ {fs : List FrameShape}, ∀ f ∈ fs, ∃ g ∈ fs, f.snapshot = g.snapshot :=
    fun f hf => ⟨f, hf, rfl⟩
  cases hstep with
  | edit hedit => exact h.congr (.refl _) rfl rfl hedit.used hsame
  | announce event _ _ hstart hend =>
    exact h.congr (.inr ⟨_, rfl, turnMarks_emitted hstart hend, fun _ _ => rfl⟩) rfl rfl
      (List.Subset.refl _) hsame
  | equip | pause | declare =>
    exact h.congr (.inr ⟨_, rfl, rfl, fun _ _ => rfl⟩) rfl rfl (List.Subset.refl _) hsame
  | @«open» k s gs subject _ _ _ _ haction =>
    -- whatever has been taken is marked by the time the snapshot is made
    have hpaid : k.due = none := by
      cases hrun : k.running with
      | none => exact (haction hrun).2.2
      | some r => exact hdues.paid_of_running hrun
    have hquiet : NoneTaken cards s.history (.opened s.nextId gs :: s.history) :=
      .inr ⟨_, rfl, rfl, fun _ _ => rfl⟩
    have hboard : ∀ cardId, s.Taken cards cardId → cardId ∈ s.board.abilitiesUsedThisTurn :=
      fun cardId htaken => (h.board cardId htaken).resolve_left fun hdue =>
        nomatch hpaid.symm.trans hdue
    refine ⟨fun m hm turn cardId ht => h.past m (hquiet.mem hm ht) turn cardId ht,
      fun cardId htaken => .inr (hboard cardId (htaken.earlier hquiet rfl)),
      fun f hf cardId htaken => ?_, fun turn cardId => hquiet.once (h.once turn cardId)⟩
    have htaken' : s.Taken cards cardId := htaken.earlier hquiet rfl
    dsimp only at hf
    unfold insertFrame at hf
    split at hf
    · obtain ⟨g, hg, rfl⟩ := List.mem_map.1 hf
      split
      · exact hboard cardId htaken'
      · exact h.snapshots g hg cardId htaken'
    · rcases List.mem_append.1 hf with hf | hf
      · exact h.snapshots f hf cardId htaken'
      · rw [List.mem_singleton.1 hf]
        exact hboard cardId htaken'
  | insert =>
    refine h.congr (.refl _) rfl rfl (List.Subset.refl _) fun f hf => ?_
    obtain ⟨g, hg, rfl⟩ := List.mem_map.1 hf
    refine ⟨g, hg, ?_⟩
    split <;> rfl
  | paid hmarked =>
    exact ⟨h.past, fun cardId htaken => .inr ((h.board cardId htaken).elim (hmarked cardId) id),
      h.snapshots, h.once⟩
  | cancel =>
    refine h.congr (.refl _) rfl rfl (List.Subset.refl _) fun f hf => ?_
    obtain ⟨g, hg, rfl⟩ := List.mem_map.1 hf
    exact ⟨g, hg, rfl⟩
  | clear => exact h.congr (.refl _) rfl rfl (List.Subset.refl _) fun f hf => (nomatch hf)
  | _ => exact h.congr (.refl _) rfl rfl (List.Subset.refl _) hsame

/-- An action takes a slot that was free. -/
theorem execute {k : Control} {s : Shape} {gs : GameState} {action : Action} {queue : List Action}
    {playerId : String} (h : Slots T.cards (k, s)) (hpaid : k.due = none) (hframes : s.frames = [])
    (hstarted : (turnMarks s.history).head? = some (.started playerId))
    (hcan : action.canExecute T s.board = .ok .accepted) :
    Slots T.cards ({ k with due := action.kind.slot T.cards },
      { s with queue, history := .executed action s.turn gs :: s.history }) := by
  have hboard : ∀ cardId m, m ∈ s.history → m.takes T.cards s.turn cardId = true →
      cardId ∈ s.board.abilitiesUsedThisTurn := fun cardId m hm htakes =>
    (h.board cardId ⟨⟨playerId, hstarted⟩, m, hm, htakes⟩).resolve_left fun hdue =>
      nomatch hpaid.symm.trans hdue
  refine ⟨fun m hm turn cardId htakes => ?_, fun cardId htaken => ?_, fun f hf => ?_,
    fun turn cardId => ?_⟩
  · rcases List.mem_cons.1 hm with rfl | hm
    · obtain ⟨_, _, heq, -⟩ := Mark.takes_eq_true.1 htakes
      cases heq
      exact Nat.le_refl _
    · exact h.past m hm turn cardId htakes
  · obtain ⟨-, m, hm, htakes⟩ := htaken
    rcases List.mem_cons.1 hm with rfl | hm
    · obtain ⟨_, _, heq, hslot⟩ := Mark.takes_eq_true.1 htakes
      cases heq
      exact .inl hslot
    · exact .inr (hboard cardId m hm htakes)
  · rw [show s.frames = [] from hframes] at hf
    cases hf
  · have hold := h.once turn cardId
    dsimp only at hold ⊢
    by_cases htakes : (Mark.executed action s.turn gs).takes T.cards turn cardId = true
    · obtain ⟨_, _, heq, hslot⟩ := Mark.takes_eq_true.1 htakes
      cases heq
      have hnone : s.history.countP (Mark.takes T.cards s.turn cardId) = 0 :=
        List.countP_eq_zero.2 fun m hm ht => Action.slot_free hcan hslot (hboard cardId m hm ht)
      rw [List.countP_cons_of_pos htakes, hnone]
    · rw [List.countP_cons_of_neg htakes]
      exact hold

/-- Between drains an action is executed only on a slot that is free, since its check reads the
board. -/
theorem outer (h : Slots T.cards x) (hsound : Sound T.cards x) (hstep : Outer T x y) :
    Slots T.cards y := by
  have hsame : ∀ {fs : List FrameShape}, ∀ f ∈ fs, ∃ g ∈ fs, f.snapshot = g.snapshot :=
    fun f hf => ⟨f, hf, rfl⟩
  have hfilter : ∀ {fs : List FrameShape} {p : FrameShape → Bool}, ∀ f ∈ fs.filter p,
      ∃ g ∈ fs, f.snapshot = g.snapshot := fun f hf => ⟨f, (List.mem_filter.1 hf).1, rfl⟩
  cases hstep with
  | inner hstep => exact h.inner hsound.dues hstep
  | spend | enqueue =>
    exact h.congr (.inr ⟨_, rfl, rfl, fun _ _ => rfl⟩) rfl rfl (List.Subset.refl _) hsame
  | closeOne | closeLast =>
    refine h.congr (.refl _) rfl rfl (List.Subset.refl _) fun f hf => ?_
    obtain ⟨g, hg, rfl⟩ := List.mem_map.1 hf
    exact ⟨g, hg, rfl⟩
  | @release k s gs gs' f subject =>
    have hrest := GameState.putAway_rest (s.spentInto f) s.board
    have hused : (GameState.putAway (s.spentInto f) s.board).abilitiesUsedThisTurn =
        s.board.abilitiesUsedThisTurn := (congrArg Board.abilitiesUsedThisTurn hrest :)
    exact h.congr (.inr ⟨_, rfl, rfl, fun _ _ => rfl⟩) rfl rfl (fun _ hmem => hused ▸ hmem) hfilter
  | @restore k s gs gs' f subject hk hsettling hf =>
    -- the snapshot of a frame that is open has every mark of the turn
    have hrest := GameState.takeBack_rest (s.spentInto f) f.snapshot
    have hused : (GameState.takeBack (s.spentInto f) f.snapshot).abilitiesUsedThisTurn =
        f.snapshot.abilitiesUsedThisTurn := (congrArg Board.abilitiesUsedThisTurn hrest :)
    have hquiet : NoneTaken T.cards s.history (.restored f.id gs gs' :: s.history) :=
      .inr ⟨_, rfl, rfl, fun _ _ => rfl⟩
    refine ⟨fun m hm turn cardId ht => h.past m (hquiet.mem hm ht) turn cardId ht,
      fun cardId htaken => .inr (hused ▸ ?_), fun g hg cardId htaken => ?_,
      fun turn cardId => hquiet.once (h.once turn cardId)⟩
    · exact h.snapshots f hf cardId (htaken.earlier hquiet rfl)
    · exact h.snapshots g (List.mem_filter.1 hg).1 cardId (htaken.earlier hquiet rfl)
  | execute hk hsettling _ _ _ hstarted hbusy hcan =>
    exact h.execute hk.due (hsound.windows.idle hk hsettling hbusy) hstarted hcan
  | @endTurn k s gs playerId =>
    -- the turn is over, and with it its slots
    have hended : ∀ cardId, ¬ Shape.Taken T.cards { s with
        board := s.board.clearUsedAbilities
        history := .emitted (.turnEnded playerId) gs :: s.history } cardId := by
      rintro cardId ⟨⟨_, hhead⟩, -⟩
      cases hhead
    refine ⟨fun m hm turn cardId htakes => ?_, fun cardId htaken => absurd htaken (hended cardId),
      fun f hf cardId htaken => absurd htaken (hended cardId), fun turn cardId => ?_⟩
    · rcases List.mem_cons.1 hm with rfl | hm
      · cases htakes
      · exact h.past m hm turn cardId htakes
    · rw [List.countP_cons_of_neg (by simp [Mark.takes])]
      exact h.once turn cardId
  | @startTurn k s gs playerId =>
    -- of the turn that begins no slot has been taken
    have hnone : ∀ cardId, ¬ Shape.Taken T.cards { s with
        board := s.board.startTurn playerId
        turn := s.turn + 1
        history := .emitted (.turnStarted playerId) gs :: s.history } cardId := by
      rintro cardId ⟨-, m, hm, htakes⟩
      rcases List.mem_cons.1 hm with rfl | hm
      · cases htakes
      · exact absurd (h.past m hm _ _ htakes) (Nat.not_succ_le_self _)
    refine ⟨fun m hm turn cardId htakes => ?_, fun cardId htaken => absurd htaken (hnone cardId),
      fun f hf cardId htaken => absurd htaken (hnone cardId), fun turn cardId => ?_⟩
    · rcases List.mem_cons.1 hm with rfl | hm
      · cases htakes
      · exact (h.past m hm turn cardId htakes).trans (Nat.le_succ _)
    · rw [List.countP_cons_of_neg (by simp [Mark.takes])]
      exact h.once turn cardId
  | wake | finish | vanish | refuse | adrift =>
    exact h.congr (.refl _) rfl rfl (List.Subset.refl _) hsame

/-- So it goes along a run. -/
theorem path {T : PrintedTable} (hsound : Sound T.cards x) (h : Slots T.cards x)
    (hpath : (outerSystem T).Path x y) : Slots T.cards y := by
  have hboth : Sound T.cards y ∧ Slots T.cards y := by
    refine Relation.ReflTransGen.invariant
      (I := fun z => Sound T.cards z ∧ Slots T.cards z) ?_ hpath
      ⟨hsound, h⟩
    exact fun x y h hstep => ⟨Sound.outer T h.1 hstep, h.2.outer h.1 hstep⟩
  exact hboth.2

end Slots

end HereToSlaughter
