import HereToSlaughter.Machine.Slots
import HereToSlaughter.Machine.TurnOrder
import HereToSlaughter.Runs.Basic

/-!
# Turns keep their discipline

Turns go round the seats, a turn ends when its seat has nothing left to do on an idle board, what is
executed was queued in that turn by the seat whose turn it is, and nobody ever owes action points.
However often a hero is rolled on for nothing, a seat pays for one roll on it in a turn, and
activates its leader once.

Reference: `pipelines/turn-manager.ts`, `game-engine.ts`, `actions/roll-on-{hero,leader}-action.ts`.
-/

namespace HereToSlaughter

open Lib EngineM

variable {setup : GameSetup} {w : World}

/-- Turns begin and end in the cyclic order of the seats; a turn ends when its seat has no points
left and the board is idle; an action is executed in the turn it was queued in, by the seat whose
turn it is, as its check allows over the board it then finds; and nobody owes action points, at
rest or while any event goes out. So it is in a run in which no input throws half-way. -/
theorem Reach.turn_discipline (h : Reach setup w) :
    RoundRobin setup.playerOrder (turnMarks w.history) ∧
    (∀ event gs, .emitted event gs ∈ w.history → event.type = .turnEnded →
      ∃ player, gs.board.currentPlayerId = some event.playerId ∧
        gs.board.players.get? event.playerId = some player ∧ player.actionPoints = 0 ∧
        gs.hasOpenFrames = false ∧ gs.pipelines = []) ∧
    (∀ action turn gs before, .executed action turn gs :: before <:+ w.history →
      gs.board.currentPlayerId = some action.playerId ∧
      action.canExecute setup.table gs.board = .ok .accepted ∧ QueuedIn before action turn) ∧
    (∀ playerId player, w.gs.board.players.get? playerId = some player →
      0 ≤ player.actionPoints) ∧
    (∀ event gs, .emitted event gs ∈ w.history → ∀ playerId player,
      gs.board.players.get? playerId = some player → 0 ≤ player.actionPoints) := by
  obtain ⟨hvalid, k, hpath, -⟩ := h.machine
  have hturns := Disciplined.path hvalid.sound hvalid.disciplined hpath
  have horder : w.playerOrder = setup.playerOrder := playerOrder_path hpath
  have hfits : ∀ event gs, .emitted event gs ∈ w.history →
      ∃ before, Mark.Fits setup.table before (.emitted event gs) := fun event gs hmem => by
    obtain ⟨after, before, hsplit⟩ := List.append_of_mem hmem
    exact ⟨before, hturns.marks _ before ⟨after, hsplit.symm⟩⟩
  refine ⟨horder ▸ hturns.order, fun event gs hmem htype => ?_, fun action turn gs before hsuffix =>
    hturns.marks _ before hsuffix, fun playerId player hplayer =>
      (hturns.solvent _ _ hplayer).points, fun event gs hmem playerId player hplayer => ?_⟩
  · obtain ⟨before, hsolvent, -, hended⟩ := hfits event gs hmem
    obtain ⟨player, hcurrent, hplayer, hpoints, hbusy⟩ := hended htype
    simp only [GameState.isBusy, Bool.or_eq_false_iff, Bool.not_eq_false',
      List.isEmpty_iff] at hbusy
    exact ⟨player, hcurrent, hplayer, Int.le_antisymm hpoints (hsolvent _ _ hplayer).points, hbusy⟩
  · obtain ⟨before, hsolvent, -⟩ := hfits event gs hmem
    exact (hsolvent _ _ hplayer).points

/-- The first seat passes its turn on. -/
def secondSeatPlays : GameSetup :=
  tableForTwo 1 [heroCard "hero-001" .fighter 8, heroCard "hero-002" .thief 8] []

/-- A's turn, its end, and an action of B in the next. -/
theorem Reach.turn_discipline_secondSeatPlays : ∃ w, Reach secondSeatPlays w ∧
    turnMarks w.history = [.started "B", .ended "A", .started "A"] ∧
    RoundRobin secondSeatPlays.playerOrder (turnMarks w.history) ∧
    (∃ action turn gs before, .executed action turn gs :: before <:+ w.history ∧
      QueuedIn before action turn) ∧
    ∀ playerId player, w.gs.board.players.get? playerId = some player →
    0 ≤ player.actionPoints := by
  obtain ⟨w, h, hturns⟩ := Reach.of_play secondSeatPlays 40
    [.command "A" (.action .endTurn)] (fun w =>
      turnMarks w.history = [.started "B", .ended "A", .started "A"] ∧
        w.history.any (Mark.executes .endTurn 1)) (by decide +kernel)
  simp only [decide_eq_true_eq] at hturns
  obtain ⟨m, hmem, hexecuted⟩ := List.any_eq_true.1 hturns.2
  obtain ⟨after, before, hsplit⟩ := List.append_of_mem hmem
  obtain ⟨horder, -, hactions, hpoints, -⟩ := h.turn_discipline
  refine ⟨w, h, hturns.1, horder, ?_, hpoints⟩
  cases m with
  | executed action turn gs =>
    have hsuffix : .executed action turn gs :: before <:+ w.history := ⟨after, hsplit.symm⟩
    exact ⟨action, turn, gs, before, hsuffix, (hactions action turn gs before hsuffix).2.2⟩
  | _ => cases hexecuted

/-! ## One paid roll per card and turn -/

namespace GameSetup

/-- Before the game nothing has been executed. -/
theorem slots_origin (setup : GameSetup) : Slots setup.table.cards setup.origin where
  past _ hm := nomatch hm
  board _ htaken := by
    obtain ⟨-, m, hm, -⟩ := htaken
    cases hm
  snapshots _ hf := nomatch hf
  once _ _ := Nat.zero_le 1

end GameSetup

/-- In a turn the slot of a card is taken once at most. -/
theorem Reach.slot_once (h : Reach setup w) {kind : ActionKind} {cardId : String}
    (hslot : kind.slot setup.table.cards = some cardId) (turn : Nat) :
    w.history.countP (Mark.executes kind turn) ≤ 1 := by
  obtain ⟨hvalid, k, hpath, -⟩ := h.machine
  have hslots := Slots.path hvalid.sound setup.slots_origin hpath
  refine Nat.le_trans (List.countP_mono_left fun m _ hm => ?_) (hslots.once turn cardId)
  exact Mark.takes_of_executes hslot hm

/-- A paid roll on a hero, and an activation of a leader, is executed once in a turn at most, in a
run in which no input throws half-way. -/
theorem Reach.paid_once (h : Reach setup w) (turn : Nat) (cardId : String) :
    (isHero setup.table.cards cardId = true →
      w.history.countP (Mark.executes (.rollOnHero cardId) turn) ≤ 1) ∧
    w.history.countP (Mark.executes (.rollOnLeader cardId) turn) ≤ 1 := by
  refine ⟨fun hhero => ?_, h.slot_once rfl turn⟩
  have hslot : (ActionKind.rollOnHero cardId).slot setup.table.cards = some cardId := by
    simp [ActionKind.slot, hhero]
  exact h.slot_once hslot turn

/-- The free roll is declined and one is paid for, which fails. -/
def failedRoll : GameSetup :=
  tableForTwo 1 [heroCard "hero-001" .fighter 8, heroCard "hero-002" .thief 8] [0, 0]

/-- A roll that failed, and was rolled back, has been paid for. -/
theorem Reach.paid_once_failedRoll : ∃ w, Reach failedRoll w ∧
    isHero failedRoll.table.cards "hero-001" = true ∧
    w.history.countP (Mark.executes (.rollOnHero "hero-001") 1) = 1 ∧
    w.history.countP (Mark.executes (.rollOnHero "hero-001") 1) ≤ 1 := by
  obtain ⟨w, h, hplayed⟩ := Reach.of_play failedRoll 40
    [.command "A" (.action (.playHero "hero-001")), .command "B" (.passWindow 1),
      .command "A" (.submitChoice 4 (some (.id "decline"))),
      .command "A" (.action (.rollOnHero "hero-001")), .command "A" (.passWindow 6),
      .command "B" (.passWindow 6), .command "A" (.action (.rollOnHero "hero-001"))]
    (fun w => w.history.countP (Mark.executes (.rollOnHero "hero-001") 1) = 1 ∧ w.gs.isBusy = false)
    (by decide +kernel)
  simp only [decide_eq_true_eq] at hplayed
  exact ⟨w, h, rfl, hplayed.1, (h.paid_once 1 "hero-001").1 rfl⟩

end HereToSlaughter
