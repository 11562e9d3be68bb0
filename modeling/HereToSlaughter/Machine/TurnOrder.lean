import HereToSlaughter.Machine.Deal

/-!
# Turns go round

Turns begin and end in the order of the seats (`RoundRobin`); each event of a turn and each action
fits the history it stands over (`Orderly`); what is queued was queued in this turn (`Queued`); and
nobody owes action points, on the board or on a snapshot of it (`Solvent`).
-/

namespace HereToSlaughter

open Lib

/-! ## The order of the turns -/

/-- The turns, newest first, go round the seats, each ended before the next begins. -/
inductive RoundRobin (order : List String) : List TurnMark → Prop
  | none : RoundRobin order []
  | first {playerId} (h : order.head? = some playerId) : RoundRobin order [.started playerId]
  | ends {playerId marks} (h : RoundRobin order (.started playerId :: marks)) :
    RoundRobin order (.ended playerId :: .started playerId :: marks)
  | next {last playerId marks} {seat : Nat} (h : RoundRobin order (.ended last :: marks))
    (hlast : order[seat]? = some last) (hnext : order[(seat + 1) % order.length]? = some playerId) :
    RoundRobin order (.started playerId :: .ended last :: marks)

namespace RoundRobin

variable {order : List String} {marks : List TurnMark}

/-- Whoever has had a turn is in the order. -/
theorem mem_order (h : RoundRobin order marks) : ∀ playerId,
    marks.head? = some (.started playerId) ∨ marks.head? = some (.ended playerId) →
    playerId ∈ order := by
  induction h with
  | none => rintro _ (hhead | hhead) <;> cases hhead
  | first h =>
    rintro _ (hhead | hhead) <;> cases hhead
    exact List.mem_of_mem_head? h
  | ends h ih =>
    rintro _ (hhead | hhead) <;> cases hhead
    exact ih _ (.inl rfl)
  | next h hlast hnext ih =>
    rintro _ (hhead | hhead) <;> cases hhead
    exact List.mem_of_getElem? hnext

/-- The next seat is the one after the last, round the table. -/
theorem startNext {last playerId : String} (h : RoundRobin order marks)
    (hended : marks.head? = some (.ended last)) (hnext : nextSeat order last = some playerId) :
    RoundRobin order (.started playerId :: marks) := by
  have hmem := h.mem_order last (.inr hended)
  obtain ⟨rest, rfl⟩ : ∃ rest, marks = .ended last :: rest := by
    cases marks with
    | nil => cases hended
    | cons m rest => exact ⟨rest, by cases hended; rfl⟩
  unfold nextSeat at hnext
  split at hnext
  · rename_i seat hseat
    refine .next h ?_ hnext
    obtain ⟨hlt, hid, -⟩ := List.findIdx?_eq_some_iff_getElem.1 hseat
    rw [List.getElem?_eq_getElem hlt]
    simpa using hid
  · rename_i hnone
    rw [List.findIdx?_eq_none_iff] at hnone
    simpa using hnone last hmem

end RoundRobin

/-! ## Action points -/

/-- The player owes no action points, and no effect of theirs takes any. -/
structure Player.Solvent (player : Player) : Prop where
  points : 0 ≤ player.actionPoints
  perTurn : 0 ≤ player.actionPointsPerTurn
  bonuses : ∀ effect ∈ player.effects, effect.type = .actionPointBonus → 0 ≤ effect.value.getD 0

/-- Nobody on the board owes action points. -/
def Board.Solvent (b : Board) : Prop :=
  ∀ playerId player, b.players.get? playerId = some player → player.Solvent

namespace Board.Solvent

variable {b b' : Board}

/-- One player changes. -/
theorem modify (h : b.Solvent) {playerId : String} {f : Player → Player}
    (hplayers : b'.players = b.players.modify playerId f)
    (hf : ∀ player, b.players.get? playerId = some player → player.Solvent → (f player).Solvent) :
    b'.Solvent := by
  intro seat player hplayer
  rw [hplayers, OrderedMap.get?_modify] at hplayer
  obtain ⟨old, hold, rfl⟩ := Option.map_eq_some_iff.1 hplayer
  split
  · rename_i heq
    cases heq
    exact hf old hold (h _ _ hold)
  · exact h _ _ hold

/-- Only the players count. -/
theorem congr (h : b.Solvent) (hplayers : b'.players = b.players) : b'.Solvent := by
  intro seat player hplayer
  rw [hplayers] at hplayer
  exact h seat player hplayer

/-- Cards may change hands. -/
theorem of_unstocked (h : b.Solvent) (hrest : b'.unstocked = b.unstocked) : b'.Solvent := by
  intro seat player hplayer
  have hplayers : b'.players.mapValues (fun _ => Player.unstocked) =
      b.players.mapValues fun _ => Player.unstocked := congrArg Board.players hrest
  have hget := congrArg (fun m : OrderedMap String Player => m.get? seat) hplayers
  simp only [OrderedMap.get?_mapValues, hplayer, Option.map_some] at hget
  obtain ⟨old, hold, heq⟩ := Option.map_eq_some_iff.1 hget.symm
  have hsolvent := h seat old hold
  have hpoints : old.actionPoints = player.actionPoints := (congrArg Player.actionPoints heq :)
  have hperTurn : old.actionPointsPerTurn = player.actionPointsPerTurn :=
    (congrArg Player.actionPointsPerTurn heq :)
  have heffects : old.effects = player.effects := (congrArg Player.effects heq :)
  exact ⟨hpoints ▸ hsolvent.points, hperTurn ▸ hsolvent.perTurn, heffects ▸ hsolvent.bonuses⟩

/-- Dropping cards keeps everyone solvent. -/
theorem removeFromHand (h : b.Solvent) (playerId cardId : String) :
    (b.removeFromHand playerId cardId).Solvent :=
  h.modify rfl fun _ _ hs => ⟨hs.1, hs.2, hs.3⟩

/-- Spent cards taken back keep everyone solvent. -/
theorem takeBack (spent : List (String × String)) : ∀ {b : Board}, b.Solvent →
    (GameState.takeBack spent b).Solvent := by
  induction spent with
  | nil => exact fun h => h
  | cons s spent ih => exact fun h => ih ((h.removeFromHand _ _).congr rfl)

/-- So do spent cards put away. -/
theorem putAway (spent : List (String × String)) (h : b.Solvent) :
    (GameState.putAway spent b).Solvent :=
  h.congr (congrArg Board.players (GameState.putAway_rest spent b) :)

/-- A turn begins with a full budget, and what the effects of the seat add to it. -/
theorem startTurn (h : b.Solvent) (playerId : String) : (b.startTurn playerId).Solvent := by
  let b₁ : Board :=
    { b with currentPlayerId := some playerId }.clearUsedAbilities.clearChallengedCards
  have h₁ : (b₁.resetActionPoints playerId).Solvent :=
    (h.congr rfl : b₁.Solvent).modify rfl fun _ _ hs => ⟨hs.perTurn, hs.perTurn, hs.bonuses⟩
  have hbonus : 0 ≤ actionPointBonus (b₁.resetActionPoints playerId) playerId := by
    refine List.sum_nonneg fun n hn => ?_
    obtain ⟨effect, heffect, rfl⟩ := List.mem_map.1 hn
    have heffect := (List.mem_filter.1 heffect).1
    cases hplayer : (b₁.resetActionPoints playerId).players.get? playerId with
    | none => simp [hplayer] at heffect
    | some player =>
      simp only [hplayer, Option.map_some, Option.getD_some] at heffect
      obtain ⟨hmem, htype⟩ := List.mem_filter.1 heffect
      exact (h₁ _ _ hplayer).bonuses effect hmem (by simpa using htype)
  exact h₁.modify rfl fun _ _ hs => ⟨Int.add_nonneg hs.points hbonus, hs.perTurn, hs.bonuses⟩

/-- No edit puts anybody in debt: a price is paid out of what is there, and an effect of a printed
step takes no points. -/
theorem edit {T : Table} {k : Control} {s : Shape} {fl : List String} (h : s.board.Solvent)
    (hgenerous : ∀ r, k.running = some r → r.task.isGenerous = true) (hedit : Edit T k s fl b) :
    b.Solvent := by
  cases hedit with
  | retire playerId effectId =>
    exact h.modify rfl fun _ _ hs => ⟨hs.points, hs.perTurn, fun effect he =>
      hs.bonuses effect (List.mem_filter.1 he).1⟩
  | @install r spec effect hrun htask htype hvalue =>
    refine h.modify rfl fun _ _ hs => ⟨hs.points, hs.perTurn, fun e he hbonus => ?_⟩
    rcases List.mem_append.1 he with he | he
    · exact hs.bonuses e he hbonus
    · obtain rfl := List.mem_singleton.1 he
      have := hgenerous r hrun
      rw [htask] at this
      simpa [Task.isGenerous, ← htype, hbonus, ← hvalue] using this
  | gain playerId hrun htask =>
    refine h.modify rfl fun _ _ hs => ⟨Int.add_nonneg hs.points ?_, hs.perTurn, hs.bonuses⟩
    have := hgenerous _ hrun
    rw [htask] at this
    simpa [Task.isGenerous] using this
  | pay hplayer hamount =>
    refine h.modify rfl fun player hfound hs => ⟨?_, hs.perTurn, hs.bonuses⟩
    cases hplayer.symm.trans hfound
    exact Int.sub_nonneg_of_le hamount
  | use | contest => exact h.congr rfl
  | move hmoves => exact h.of_unstocked hmoves.rest
  | pile => exact h.congr rfl
  | dispose => exact h.congr rfl

end Board.Solvent

/-- A mark's state is busy when the shape is. -/
theorem GameState.Matches.isBusy {gs : GameState} {s : Shape} (h : gs.Matches s) :
    gs.isBusy = s.isBusy := by
  rw [Shape.isBusy, Shape.hasOpenFrames, ← h.frames, ← h.pipelines]
  simp only [GameState.isBusy, GameState.hasOpenFrames, frameShapes, pipelineShapes,
    OrderedMap.values, List.any_map, Function.comp_def, GameFrame.shape_hasOpenWindow]
  simp

/-! ## What a run keeps of its turns -/

/-- An action was queued since the last turn began or ended. -/
def QueuedIn (history : List Mark) (action : Action) (turn : Nat) : Prop :=
  ∃ since before, history = since ++ .queued action turn :: before ∧ turnMarks since = []

/-- The marks of a turn, one mark at a time. -/
theorem turnMarks_cons (m : Mark) (history : List Mark) :
    turnMarks (m :: history) = turnMarks [m] ++ turnMarks history := by
  cases m with
  | emitted event gs =>
    rw [turnMarks, turnMarks]
    split <;> rfl
  | _ => rfl

/-- An action stays queued in its turn as long as no turn begins or ends. -/
theorem QueuedIn.cons {history : List Mark} {action : Action} {turn : Nat} {m : Mark}
    (h : QueuedIn history action turn) (hm : turnMarks [m] = []) :
    QueuedIn (m :: history) action turn := by
  obtain ⟨since, before, rfl, hsince⟩ := h
  exact ⟨m :: since, before, rfl, by rw [turnMarks_cons, hm, hsince]; rfl⟩

/-- A mark fits the history it stands over: an event goes out with nobody in debt, a turn ends with
no points left on an idle board, and an action is executed in the turn it was queued in, by the seat
whose turn it is and as its check allows. -/
def Mark.Fits (T : Table) (history : List Mark) : Mark → Prop
  | .emitted event gs => gs.board.Solvent ∧
    (event.type = .turnStarted → gs.board.currentPlayerId = some event.playerId) ∧
    (event.type = .turnEnded → ∃ player, gs.board.currentPlayerId = some event.playerId ∧
      gs.board.players.get? event.playerId = some player ∧ player.actionPoints ≤ 0 ∧
      gs.isBusy = false)
  | .executed action turn gs => gs.board.currentPlayerId = some action.playerId ∧
    action.canExecute T gs.board = .ok .accepted ∧ QueuedIn history action turn
  | _ => True

/-- Every mark fits. -/
def Orderly (T : Table) (history : List Mark) : Prop :=
  ∀ m before, m :: before <:+ history → m.Fits T before

/-- An orderly history grows by marks that fit. -/
theorem Orderly.cons {T : Table} {history : List Mark} {m : Mark} (h : Orderly T history)
    (hm : m.Fits T history) : Orderly T (m :: history) := by
  intro m' before hsuffix
  rcases List.suffix_cons_iff.1 hsuffix with heq | hsuffix
  · cases heq
    exact hm
  · exact h m' before hsuffix

/-- The turns of a run. -/
structure Disciplined (T : Table) (x : Control × Shape) : Prop where
  order : RoundRobin x.2.playerOrder (turnMarks x.2.history)
  marks : Orderly T x.2.history
  queue : ∀ action ∈ x.2.queue, x.2.board.currentPlayerId = some action.playerId ∧
    QueuedIn x.2.history action x.2.turn
  idle : x.1.between ≠ .playing → x.2.queue = []
  solvent : x.2.board.Solvent
  snapshots : ∀ f ∈ x.2.frames, f.snapshot.Solvent

namespace Disciplined

variable {T : Table} {x y : Control × Shape}

/-- One mark more at most, of no turn, and the queue no longer. -/
theorem congr {k k' : Control} {s s' : Shape} (h : Disciplined T (k, s))
    (hhistory : s'.history = s.history ∨
      ∃ m, s'.history = m :: s.history ∧ turnMarks [m] = [] ∧ m.Fits T s.history)
    (horder : s'.playerOrder = s.playerOrder) (hqueue : ∀ action ∈ s'.queue, action ∈ s.queue)
    (hturn : s'.turn = s.turn) (hcurrent : s'.board.currentPlayerId = s.board.currentPlayerId)
    (hbetween : k'.between = k.between) (hsolvent : s'.board.Solvent)
    (hsnapshots : ∀ f ∈ s'.frames, f.snapshot.Solvent) : Disciplined T (k', s') := by
  have hmarks : turnMarks s'.history = turnMarks s.history := by
    obtain heq | ⟨m, heq, hm, -⟩ := hhistory
    · rw [heq]
    · rw [heq, turnMarks_cons, hm]; rfl
  have hidle : k'.between ≠ .playing → s'.queue = [] := fun hb =>
    List.eq_nil_iff_forall_not_mem.2 fun action ha => by
      have hnil := h.idle (hbetween ▸ hb)
      have hmem := hqueue action ha
      rw [show s.queue = [] from hnil] at hmem
      cases hmem
  refine ⟨?_, ?_, fun action ha => ⟨?_, ?_⟩, hidle, hsolvent, hsnapshots⟩
  · rw [horder, hmarks]
    exact h.order
  · obtain heq | ⟨m, heq, -, hfits⟩ := hhistory
    · exact heq ▸ h.marks
    · exact heq ▸ h.marks.cons hfits
  · exact hcurrent.trans (h.queue action (hqueue action ha)).1
  · have hqueued := (h.queue action (hqueue action ha)).2
    dsimp only at hqueued ⊢
    obtain heq | ⟨m, heq, hm, -⟩ := hhistory
    · rw [heq, hturn]
      exact hqueued
    · rw [heq, hturn]
      exact hqueued.cons hm

/-- Within a drain no turn begins or ends and nothing is queued. -/
theorem inner (h : Disciplined T x) (hprinted : Printed x.1 x.2) (hstep : Inner T x y) :
    Disciplined T y := by
  have hself : ∀ {queue : List Action}, ∀ action ∈ queue, action ∈ queue := fun _ ha => ha
  cases hstep with
  | edit hedit =>
    exact h.congr (.inl rfl) rfl hself rfl hedit.current rfl (h.solvent.edit hprinted.running hedit)
      h.snapshots
  | announce event hgs _ hstart hend =>
    refine h.congr (.inr ⟨_, rfl, ?_, ?_⟩) rfl hself rfl rfl rfl h.solvent h.snapshots
    · rw [turnMarks_emitted hstart hend]; rfl
    · exact ⟨hgs.board ▸ h.solvent, fun ht => absurd ht hstart, fun ht => absurd ht hend⟩
  | equip =>
    exact h.congr (.inr ⟨_, rfl, rfl, trivial⟩) rfl hself rfl rfl rfl
      (h.solvent.congr rfl) h.snapshots
  | «open» =>
    refine h.congr (.inr ⟨_, rfl, rfl, trivial⟩) rfl hself rfl rfl rfl h.solvent fun f hf => ?_
    dsimp only at hf
    unfold insertFrame at hf
    split at hf
    · obtain ⟨g, hg, rfl⟩ := List.mem_map.1 hf
      split
      · exact h.solvent
      · exact h.snapshots g hg
    · rcases List.mem_append.1 hf with hf | hf
      · exact h.snapshots f hf
      · rw [List.mem_singleton.1 hf]
        exact h.solvent
  | insert =>
    refine h.congr (.inl rfl) rfl hself rfl rfl rfl h.solvent fun f hf => ?_
    obtain ⟨g, hg, rfl⟩ := List.mem_map.1 hf
    have := h.snapshots g hg
    split <;> exact this
  | pause | declare =>
    exact h.congr (.inr ⟨_, rfl, rfl, trivial⟩) rfl hself rfl rfl rfl
      (h.solvent.congr rfl) h.snapshots
  | cancel =>
    refine h.congr (.inl rfl) rfl hself rfl rfl rfl h.solvent fun f hf => ?_
    obtain ⟨g, hg, rfl⟩ := List.mem_map.1 hf
    exact h.snapshots g hg
  | clear =>
    exact h.congr (.inl rfl) rfl hself rfl rfl rfl h.solvent fun f hf => (nomatch hf)
  | _ => exact h.congr (.inl rfl) rfl hself rfl rfl rfl h.solvent h.snapshots

/-- Between drains an action is queued and executed in its turn, and turns follow each other. -/
theorem outer (h : Disciplined T x) (hsound : Sound T.cards x) (hstep : Outer T x y) :
    Disciplined T y := by
  have hself : ∀ {queue : List Action}, ∀ action ∈ queue, action ∈ queue := fun _ ha => ha
  cases hstep with
  | inner hstep => exact h.inner hsound.printed hstep
  | spend =>
    exact h.congr (.inr ⟨_, rfl, rfl, trivial⟩) rfl hself rfl rfl rfl
      ((h.solvent.removeFromHand _ _).congr rfl) h.snapshots
  | closeOne | closeLast =>
    refine h.congr (.inl rfl) rfl hself rfl rfl rfl h.solvent fun f hf => ?_
    obtain ⟨g, hg, rfl⟩ := List.mem_map.1 hf
    exact h.snapshots g hg
  | release =>
    rename_i k s gs gs' f subject hk hsettling hf hgs hgs'
    have hrest := GameState.putAway_rest (s.spentInto f) s.board
    exact h.congr (.inr ⟨_, rfl, rfl, trivial⟩) rfl hself rfl
      (congrArg Board.currentPlayerId hrest :) rfl (h.solvent.putAway _)
      fun g hg => h.snapshots g (List.mem_filter.1 hg).1
  | restore =>
    rename_i k s gs gs' f subject hk hsettling hf hgs hgs' hflow
    have hrest := GameState.takeBack_rest (s.spentInto f) f.snapshot
    exact h.congr (.inr ⟨_, rfl, rfl, trivial⟩) rfl hself rfl
      (.trans (congrArg Board.currentPlayerId hrest :) (hsound.turns.snapshots f hf)) rfl
      ((h.snapshots f hf).takeBack _) fun g hg => h.snapshots g (List.mem_filter.1 hg).1
  | enqueue hk hsettling hbetween howner =>
    rename_i k s action
    refine ⟨h.order, h.marks.cons trivial, fun a ha => ?_, fun hb => absurd hbetween hb, h.solvent,
      h.snapshots⟩
    rcases List.mem_append.1 ha with ha | ha
    · exact ⟨(h.queue a ha).1, (h.queue a ha).2.cons rfl⟩
    · obtain rfl := List.mem_singleton.1 ha
      exact ⟨howner, [], _, rfl, rfl⟩
  | refuse hk hqueue =>
    refine h.congr (.inl rfl) rfl (fun a ha => ?_) rfl rfl rfl h.solvent h.snapshots
    rw [hqueue]
    exact List.mem_cons_of_mem _ ha
  | execute hk hsettling hbetween hqueue hgs hstarted hbusy hcan =>
    rename_i k s gs action queue playerId
    have hfirst := h.queue action (hqueue ▸ List.mem_cons_self)
    refine h.congr (.inr ⟨_, rfl, rfl, ?_, ?_, hfirst.2⟩) rfl (fun a ha => ?_) rfl rfl rfl h.solvent
      h.snapshots
    · rw [hgs]; exact hfirst.1
    · rw [hgs]; exact hcan
    · rw [hqueue]
      exact List.mem_cons_of_mem _ ha
  | endTurn hk hsettling hgs hbetween hqueue hcurrent hstarted hplayer hpoints hbusy =>
    rename_i k s gs playerId player
    obtain ⟨marks, hmarks⟩ : ∃ marks, turnMarks s.history = .started playerId :: marks := by
      cases hm : turnMarks s.history with
      | nil => simp [hm] at hstarted
      | cons m marks => exact ⟨marks, by simp [hm] at hstarted; rw [hstarted]⟩
    have hnone : ∀ {queue : List Action}, s.queue = [] → ∀ a ∈ s.queue, a ∈ queue :=
      fun hn a ha => by
      rw [hn] at ha
      cases ha
    have hsolvent : s.board.clearUsedAbilities.Solvent := h.solvent.congr rfl
    refine ⟨?_, h.marks.cons ⟨hgs.board ▸ hsolvent, fun ht => (nomatch ht), fun _ => ?_⟩,
      fun a ha => ?_, fun _ => hqueue, hsolvent, h.snapshots⟩
    · show RoundRobin _ (.ended playerId :: turnMarks s.history)
      rw [hmarks]
      exact .ends (hmarks ▸ h.order)
    · have hidle : gs.isBusy = false := by
        rw [GameState.Matches.isBusy hgs]
        exact hbusy
      exact ⟨player, hgs.board ▸ hcurrent, hgs.board ▸ hplayer, hpoints, hidle⟩
    · dsimp only at ha
      rw [hqueue] at ha
      cases ha
  | startTurn hk hsettling hgs hseated hnext =>
    rename_i k s gs playerId
    have hsolvent := h.solvent.startTurn playerId
    have hqueue : s.queue = [] := by
      obtain ⟨hbefore, -⟩ | ⟨last, hended, -⟩ := hnext
      · exact h.idle (by rw [show k.between = .before from hbefore]; simp)
      · exact h.idle (by rw [show k.between = .ended last from hended]; simp)
    refine ⟨?_, h.marks.cons ⟨hgs ▸ hsolvent, fun _ => ?_, fun ht => (nomatch ht)⟩, fun a ha => ?_,
      fun hb => absurd rfl hb, hsolvent, h.snapshots⟩
    · show RoundRobin _ (.started playerId :: turnMarks s.history)
      obtain ⟨hbefore, hfirst⟩ | ⟨last, hended, -, hnext⟩ := hnext
      · rw [show turnMarks s.history = [] from (hsound.turns.before hbefore).1]
        exact .first hfirst
      · exact h.order.startNext (hsound.turns.ended last hended).1 hnext
    · rw [hgs]; rfl
    · dsimp only at ha
      rw [hqueue] at ha
      cases ha
  | adrift hk hsettling hdone =>
    rename_i k s
    exact ⟨h.order, h.marks, h.queue, fun hb => absurd rfl hb, h.solvent, h.snapshots⟩
  | _ => exact h.congr (.inl rfl) rfl hself rfl rfl rfl h.solvent h.snapshots

/-- So it goes along a run. -/
theorem path {T : PrintedTable} (hsound : Sound T.cards x) (h : Disciplined T.toTable x)
    (hpath : (outerSystem T).Path x y) : Disciplined T.toTable y := by
  have hboth : Sound T.cards y ∧ Disciplined T.toTable y := by
    refine Relation.ReflTransGen.invariant
      (I := fun z => Sound T.cards z ∧ Disciplined T.toTable z) ?_ hpath
      ⟨hsound, h⟩
    exact fun x y h hstep => ⟨Sound.outer T h.1 hstep, h.2.outer h.1 hstep⟩
  exact hboth.2

end Disciplined

/-! ## The deal -/

namespace Board.Solvent

/-- Dealing monsters touches no player. -/
theorem dealMonsters : ∀ (n : Nat) {b : Board}, b.Solvent → (b.dealMonsters n).Solvent
  | 0, _, h => h
  | n + 1, _, h => dealMonsters n (h.congr rfl)

/-- Dealing a hand puts nobody in debt. -/
theorem dealHand (playerId : String) : ∀ (n : Nat) {b : Board}, b.Solvent →
    (b.dealHand playerId n).Solvent
  | 0, _, h => h
  | n + 1, b, h => by
    unfold Board.dealHand
    split
    · exact h
    · exact dealHand playerId n (h.modify rfl fun _ _ hs => ⟨hs.1, hs.2, hs.3⟩)

/-- Nor does dealing every hand. -/
theorem dealHands (size : Nat) : ∀ (seats : List String) {b : Board}, b.Solvent →
    (b.dealHands size seats).Solvent
  | [], _, h => h
  | playerId :: seats, _, h => dealHands size seats (dealHand playerId size h)

end Board.Solvent

namespace GameSetup

variable {setup : GameSetup}

/-- Every seat is dealt in with the points of a turn. -/
theorem Valid.solvent (h : setup.Valid) : setup.board.Solvent := by
  refine .dealHands _ _ (.dealMonsters _ fun playerId player hplayer => ?_)
  have hmem : (playerId, player) ∈ setup.players.entries := OrderedMap.get?_eq_some.1 hplayer
  rw [h.entries_players] at hmem
  obtain ⟨seat, -, heq⟩ := List.mem_map.1 hmem
  cases heq
  exact ⟨Int.natCast_nonneg _, Int.natCast_nonneg _, fun effect he => (nomatch he)⟩

/-- A deal has no turns yet, and nobody owes anything. -/
theorem Valid.disciplined (h : setup.Valid) : Disciplined setup.table setup.origin where
  order := .none
  marks _ _ hsuffix := nomatch List.suffix_nil.1 hsuffix
  queue _ ha := nomatch ha
  idle _ := rfl
  solvent := h.solvent.congr rfl
  snapshots _ hf := nomatch hf

end GameSetup

end HereToSlaughter
