import HereToSlaughter.Runs.BareTurns
import HereToSlaughter.Runs.Cards
import HereToSlaughter.Runs.Recorded
import HereToSlaughter.Writes.Sustained

/-!
# Effects end

An effect is installed under an id of its own, and an event that ends it takes it off the board
before anything else is done about the event. What is off the board comes back with a frame that is
restored and remembers it, and in no other way: no other effect ever gets the id. No frame is open
as a turn ends, so what lasts until the end of a turn does not outlast it.

Reference: `abilities/ability-lifecycle.ts`, `abilities/expiries.ts`, `pipelines/task-manager.ts`.
-/

namespace HereToSlaughter

open Lib EngineM

/-! ## The effects of a board -/

namespace Board

/-- An effect with this id stands on a seat. -/
def Bears (b : Board) (playerId : String) (effectId : Nat) : Prop :=
  ∃ player, (playerId, player) ∈ b.players.entries ∧ effectId ∈ player.effects.map Effect.id

variable {b b' : Board} {playerId seat : String} {effectId id : Nat}

/-- A seat is written to. -/
theorem bears_modify {f : Player → Player} :
    ({ b with players := b.players.modify seat f } : Board).Bears playerId effectId ↔
      ∃ player, (playerId, player) ∈ b.players.entries ∧
        effectId ∈ (if playerId = seat then f player else player).effects.map Effect.id := by
  simp only [Bears, OrderedMap.entries_modify, List.mem_map, Prod.mk.injEq]
  constructor
  · rintro ⟨player, ⟨⟨q, old⟩, hmem, rfl, rfl⟩, hid⟩
    exact ⟨old, hmem, hid⟩
  · rintro ⟨player, hmem, hid⟩
    exact ⟨_, ⟨_, hmem, rfl, rfl⟩, hid⟩

/-- An effect removed is gone, and no other. -/
theorem bears_removeEffect : (b.removeEffect seat id).Bears playerId effectId ↔
    b.Bears playerId effectId ∧ ¬(playerId = seat ∧ effectId = id) := by
  rw [removeEffect, bears_modify]
  constructor
  · rintro ⟨player, hmem, hid⟩
    split at hid
    · obtain ⟨effect, heffect, rfl⟩ := List.mem_map.1 hid
      obtain ⟨hold, hother⟩ := List.mem_filter.1 heffect
      exact ⟨⟨player, hmem, List.mem_map_of_mem hold⟩, fun h => by simp [h.2] at hother⟩
    · next hseat => exact ⟨⟨player, hmem, hid⟩, fun h => hseat h.1⟩
  · rintro ⟨⟨player, hmem, hid⟩, hother⟩
    refine ⟨player, hmem, ?_⟩
    split
    · next hseat =>
      obtain ⟨effect, heffect, rfl⟩ := List.mem_map.1 hid
      refine List.mem_map_of_mem (List.mem_filter.2 ⟨heffect, ?_⟩)
      simpa using fun heq => hother ⟨hseat, heq⟩
    · exact hid

/-- Effects are taken off the board, one after the other. -/
theorem bears_foldl_removeEffect : ∀ {expired : List (String × Effect)} {b : Board},
    (expired.foldl (fun b e => b.removeEffect e.1 e.2.id) b).Bears playerId effectId ↔
      b.Bears playerId effectId ∧ ∀ e ∈ expired, ¬(playerId = e.1 ∧ effectId = e.2.id)
  | [], b => by simp
  | e :: expired, b => by
    rw [List.foldl_cons, bears_foldl_removeEffect, bears_removeEffect, and_assoc,
      List.forall_mem_cons]

/-- An effect there after one was added was there before, or is that one. -/
theorem bears_addEffect {effect : Effect} (h : (b.addEffect effect).Bears playerId effectId) :
    b.Bears playerId effectId ∨ playerId = effect.ownerId ∧ effectId = effect.id := by
  rw [addEffect, bears_modify] at h
  obtain ⟨player, hmem, hid⟩ := h
  split at hid
  · next hseat =>
    rw [Player.addEffect, List.map_append, List.mem_append] at hid
    obtain hold | hnew := hid
    · exact .inl ⟨player, hmem, hold⟩
    · exact .inr ⟨hseat, by simpa using hnew⟩
  · exact .inl ⟨player, hmem, hid⟩

/-- No door puts an effect on a seat. -/
theorem bears_door (h : Door b b') (hbears : b'.Bears playerId effectId) :
    b.Bears playerId effectId := by
  cases h with
  | hand seat hf | points seat hf =>
    rw [bears_modify] at hbears
    obtain ⟨player, hmem, hid⟩ := hbears
    refine ⟨player, hmem, ?_⟩
    split at hid
    · obtain ⟨_, heq⟩ := hf player
      rwa [heq] at hid
    · exact hid
  | retire => exact (bears_removeEffect.1 hbears).1
  | party | slay | piles | turn | phase => exact hbears

/-- No door installs an effect. -/
theorem bears_doors (h : Doors b b') (hbears : b'.Bears playerId effectId) :
    b.Bears playerId effectId := by
  induction h with
  | refl => exact hbears
  | tail _ hdoor ih => exact ih (bears_door hdoor hbears)

end Board

/-! ## Ids of effects -/

/-- The ids of effects have been drawn, and on no board does one id stand on two seats. -/
def Numbered (w : World) : Prop :=
  ∀ b ∈ w.gs.boards, ∀ playerId effectId, b.Bears playerId effectId →
    effectId < w.nextId ∧ ∀ seat, b.Bears seat effectId → seat = playerId

instance : Sustained Numbered where
  change {w w'} hchange h b' hb' playerId effectId hbears := by
    obtain ⟨b, hb, hdoors | ⟨effect, hid, hnext, rfl⟩⟩ := hchange.boards b' hb'
    · obtain ⟨hlt, hone⟩ := h b hb playerId effectId (Board.bears_doors hdoors hbears)
      exact ⟨Nat.lt_of_lt_of_le hlt hchange.nextId_le,
        fun seat hseat => hone seat (Board.bears_doors hdoors hseat)⟩
    · have hnew : ∀ seat, ¬b.Bears seat effect.id := fun seat hseat =>
        Nat.lt_irrefl _ (hid ▸ (h b hb seat effect.id hseat).1)
      obtain hold | ⟨hseat, heq⟩ := Board.bears_addEffect hbears
      · obtain ⟨hlt, hone⟩ := h b hb playerId effectId hold
        refine ⟨Nat.lt_of_lt_of_le hlt hchange.nextId_le, fun seat hseat => ?_⟩
        obtain hseat | ⟨-, heq⟩ := Board.bears_addEffect hseat
        · exact hone seat hseat
        · exact absurd (heq ▸ hold) (hnew playerId)
      · refine ⟨by omega, fun seat hother => ?_⟩
        obtain hother | ⟨hother, -⟩ := Board.bears_addEffect hother
        · exact absurd (heq ▸ hother) (hnew seat)
        · exact hother.trans hseat.symm
  insert frameId _ h b hb := h b (GameState.boards_addWindow frameId _ ▸ hb)
  announce _ h := h
  record _ h := h
  pass windowId _ h b hb := h b (GameState.boards_modifyWindow windowId _ ▸ hb)

/-- The id has been drawn, and no effect with it stands on the board or would come back. -/
structure Gone (effectId : Nat) (w : World) : Prop where
  drawn : effectId < w.nextId
  none : ∀ b ∈ w.gs.boards, ∀ playerId, ¬b.Bears playerId effectId

/-- What is gone stays gone. -/
instance (effectId : Nat) : Sustained (Gone effectId) where
  change hchange h := by
    refine ⟨Nat.lt_of_lt_of_le h.drawn hchange.nextId_le, fun b' hb' playerId hbears => ?_⟩
    obtain ⟨b, hb, hdoors | ⟨effect, hid, -, rfl⟩⟩ := hchange.boards b' hb'
    · exact h.none b hb playerId (Board.bears_doors hdoors hbears)
    · obtain hold | ⟨-, heq⟩ := Board.bears_addEffect hbears
      · exact h.none b hb playerId hold
      · exact Nat.lt_irrefl _ (hid ▸ heq ▸ h.drawn)
  insert frameId _ h := ⟨h.drawn, fun b hb => h.none b (GameState.boards_addWindow frameId _ ▸ hb)⟩
  announce _ h := ⟨h.drawn, h.none⟩
  record _ h := ⟨h.drawn, h.none⟩
  pass windowId _ h :=
  ⟨h.drawn, fun b hb => h.none b (GameState.boards_modifyWindow windowId _ ▸ hb)⟩

/-! ## What an event ends -/

/-- What the event ends over this state, and no open frame remembers, is gone. -/
def Ended (cards : Cards) (event : GameEvent) (gs : GameState) (w : World) : Prop :=
  gs.board.gamePhase ≠ .concluded → ∀ e ∈ expiredEffects cards gs.board event,
    (∀ frame ∈ gs.frames.values, ∀ playerId, ¬frame.snapshot.Bears playerId e.2.id) → Gone e.2.id w

/-- The board as `sweepExpired` leaves it. -/
def World.swept (cards : Cards) (event : GameEvent) (w : World) : World :=
  { w with gs := w.gs.modifyBoard fun b =>
      (expiredEffects cards w.gs.board event).foldl (fun b e => b.removeEffect e.1 e.2.id) b }

/-- What expires is there. -/
theorem bears_of_expired {cards : Cards} {b : Board} {event : GameEvent} {e : String × Effect}
    (h : e ∈ expiredEffects cards b event) : b.Bears e.1 e.2.id := by
  obtain ⟨⟨playerId, player⟩, hplayer, h⟩ := List.mem_flatMap.1 h
  obtain ⟨effect, heffect, rfl⟩ := List.mem_map.1 h
  exact ⟨player, hplayer, List.mem_map_of_mem (List.mem_filter.1 heffect).1⟩

/-- A sweep leaves the numbers as they were. -/
theorem Numbered.swept {w : World} (h : Numbered w) (cards : Cards) (event : GameEvent) :
    Numbered (w.swept cards event) := by
  intro b hb playerId effectId hbears
  obtain rfl | ⟨f, hf, rfl⟩ := GameState.mem_boards.1 hb
  · have htable : w.gs.board ∈ w.gs.boards := GameState.mem_boards.2 (.inl rfl)
    obtain ⟨hdrawn, hone⟩ :=
      h _ htable playerId effectId (Board.bears_foldl_removeEffect.1 hbears).1
    exact ⟨hdrawn, fun seat hseat => hone seat (Board.bears_foldl_removeEffect.1 hseat).1⟩
  · exact h _ (GameState.mem_boards.2 (.inr ⟨f, hf, rfl⟩)) playerId effectId hbears

/-- The sweep takes an effect off the one seat it stands on. -/
theorem Numbered.ended {w : World} (h : Numbered w) (cards : Cards) (event : GameEvent) :
    Ended cards event w.gs (w.swept cards event) := by
  intro _ e he hframes
  have htable : w.gs.board ∈ w.gs.boards := GameState.mem_boards.2 (.inl rfl)
  obtain ⟨hdrawn, hone⟩ := h _ htable e.1 e.2.id (bears_of_expired he)
  refine ⟨hdrawn, fun b hb playerId hbears => ?_⟩
  obtain rfl | ⟨f, hf, rfl⟩ := GameState.mem_boards.1 hb
  · obtain ⟨hstood, hkept⟩ := Board.bears_foldl_removeEffect.1 hbears
    exact hkept e he ⟨hone playerId hstood, rfl⟩
  · exact hframes f.2 (List.mem_map_of_mem hf) playerId hbears

/-! ## Over an input -/

/-- From one state to the next, what an event that goes out ends is gone, and what was gone stays
gone. -/
structure Retires (cards : Cards) (w w' : World) : Prop where
  numbered : Numbered w → Numbered w'
  gone : ∀ effectId, Gone effectId w → Gone effectId w'
  told : Numbered w → ∃ marks, w'.history = marks ++ w.history ∧
    ∀ event gs, .emitted event gs ∈ marks → Ended cards event gs w'

namespace Retires

variable {cards : Cards} {w w' w'' : World}

/-- Retired over one stretch is retired over both. -/
theorem trans (h : Retires cards w w') (h' : Retires cards w' w'') : Retires cards w w'' where
  numbered hw := h'.numbered (h.numbered hw)
  gone effectId hgone := h'.gone effectId (h.gone effectId hgone)
  told hw := by
    obtain ⟨marks, hhistory, hended⟩ := h.told hw
    obtain ⟨marks', hhistory', hended'⟩ := h'.told (h.numbered hw)
    refine ⟨marks' ++ marks, by rw [hhistory', hhistory, List.append_assoc],
      fun event gs hmem => ?_⟩
    obtain hmem | hmem := List.mem_append.1 hmem
    · exact hended' event gs hmem
    · exact fun hphase e he hframes => h'.gone _ (hended event gs hmem hphase e he hframes)

/-- Where nothing happens nothing needs retiring. -/
theorem refl (w : World) : Retires cards w w :=
  ⟨id, fun _ => id, fun _ => ⟨[], rfl, fun _ _ hmem => absurd hmem List.not_mem_nil⟩⟩

/-- What each write retires a path of them retires. -/
theorem relate (h : Relation.ReflTransGen (Retires cards) w w') : Retires cards w w' := by
  induction h with
  | refl => exact refl w
  | tail _ hstep ih => exact ih.trans hstep

/-- No event goes out in one change. -/
theorem change (h : Change w w') : Retires cards w w' where
  numbered := Sustained.change h
  gone _ := Sustained.change h
  told _ := by
    obtain ⟨-, marks, hhistory, hquiet, -⟩ := h.quiet
    refine ⟨marks, hhistory, fun event gs hmem => ?_⟩
    have hevent : event ∈ announced marks := List.mem_filterMap.2 ⟨_, hmem, rfl⟩
    rw [hquiet] at hevent
    cases hevent

/-- A window goes into a frame without an event. -/
theorem insert (frameId : Nat) (v : Window) (w : World) :
    Retires cards w { w with gs := w.gs.addWindow frameId v } where
  numbered := Sustained.insert frameId v
  gone _ := Sustained.insert frameId v
  told _ := ⟨[], rfl, fun _ _ hmem => absurd hmem List.not_mem_nil⟩

instance : Allows (Retires cards) where
  change _ _ h := .single (change h)
  opens := Along.inserting (fun _ => .single (change .drawId))
    fun w frameId v _ => .single (insert frameId v w)

variable {T : Table}

/-- The turn manager is the first to hear of an event, and touches its clock only. -/
theorem ran_turnManager {event : GameEvent} {a : Unit}
    (h : TurnManager.onEvent event w = .ok a w') :
    ∃ turnManager, w' = { w with turnManager } := by
  have hclock : TurnManager.onEvent event = modifyTurnManager TurnManagerState.pauseClock ∨
      TurnManager.onEvent event = syncClock ∨ TurnManager.onEvent event = pure () := by
    unfold TurnManager.onEvent
    split
    · exact .inl rfl
    · exact .inr (.inl rfl)
    · exact .inr (.inr rfl)
  rcases hclock with hclock | hclock | hclock <;> rw [hclock] at h
  · cases h
    exact ⟨_, rfl⟩
  · obtain ⟨gs, _, hgs, h⟩ := ran_of_bind h
    cases hgs
    by_cases hopen : w.gs.hasOpenFrames = true
    · rw [if_pos hopen] at h
      cases h
      exact ⟨_, rfl⟩
    · rw [if_neg hopen] at h
      cases h
      exact ⟨_, rfl⟩
  · cases h
    exact ⟨_, rfl⟩

/-- The task manager sweeps before it does anything else, unless the game is over. -/
theorem ran_taskManager {em : Emit}
    (hem : ∀ event, Along False (Retires cards) (em event)) {fuel : Nat}
    {event : GameEvent} {a : Unit} (hcards : cards = T.cards)
    (h : TaskManager.onEvent T em fuel event w = .ok a w') :
    (w.gs.board.gamePhase = .concluded ∧ w' = w) ∨ Retires cards (w.swept cards event) w' := by
  subst hcards
  obtain ⟨gs, _, hgs, h⟩ := ran_of_bind h
  cases hgs
  by_cases hphase : w.gs.board.gamePhase = .concluded
  · rw [if_pos hphase] at h
    cases h
    exact .inl ⟨hphase, rfl⟩
  · rw [if_neg hphase] at h
    refine .inr (relate ?_)
    obtain ⟨_, w₁, hsweep, h⟩ := ran_of_bind h
    obtain ⟨gs, _, hgs, hsweep⟩ := ran_of_bind hsweep
    cases hgs
    obtain ⟨_, _, hboard, hsweep⟩ := ran_of_bind hsweep
    cases hboard
    refine ((Writes.forEach (fun _ => hem _) _).returns hsweep).trans ?_
    obtain ⟨_, w₂, hwake, h⟩ := ran_of_bind h
    have hwakes : Along False (Retires T.cards) (wakeOn event) := Writes.wakeOn event
    refine (hwakes.returns hwake).trans ?_
    obtain ⟨gs, _, hgs, h⟩ := ran_of_bind h
    cases hgs
    obtain ⟨_, w₃, hpush, h⟩ := ran_of_bind h
    have hpushes : ∀ sources, Along False (Retires T.cards) (addPipelines event sources) :=
      Writes.addPipelines event
    exact ((hpushes _).returns hpush).trans ((Writes.drain hem fuel).returns h)

/-- What an event that goes out ends is gone when it has been heard, by induction on the nesting of
events. -/
theorem emit : ∀ n event, Along False (Retires T.cards) (HereToSlaughter.emit T n event)
  | 0, _ => .throw _
  | n + 1, event => by
    refine .of_returns fun w a w' hrun => ?_
    obtain ⟨w₁, w₂, w₃, hturn, htask, hengine, hlast⟩ := Writes.ran_emit hrun
    obtain ⟨turnManager, rfl⟩ := ran_turnManager hturn
    have hthird : Retires T.cards w₂ w₃ := relate ((Writes.gameEngine (emit n) _ _).returns hengine)
    have hcarries : ∀ {I : World → Prop} [Sustained I], I w → I w' := fun hI =>
      Carries.of_path ((Carries.emit (n + 1) event).returns hrun) hI
    refine .single ⟨hcarries, fun _ => hcarries, fun hw => ?_⟩
    let w₀ : World := { w with history := .emitted event w.gs :: w.history, turnManager }
    -- what happens from the sweep on
    have hswept : ∃ marks, w₃.history = marks ++ w₀.history ∧
        (∀ event gs, .emitted event gs ∈ marks → Ended T.cards event gs w₃) ∧
        Ended T.cards event w.gs w₃ := by
      obtain ⟨hphase, rfl⟩ | hsecond := ran_taskManager (emit n) rfl htask
      · obtain ⟨marks, hhistory, hended⟩ := hthird.told hw
        exact ⟨marks, hhistory, hended, fun hgoes => absurd hphase hgoes⟩
      · have hafter := hsecond.trans hthird
        obtain ⟨marks, hhistory, hended⟩ := hafter.told (Numbered.swept (w := w₀) hw T.cards event)
        refine ⟨marks, hhistory, hended, fun hgoes e he hframes => ?_⟩
        exact hafter.gone _ (Numbered.ended (w := w₀) hw T.cards event hgoes e he hframes)
    obtain ⟨marks, hhistory, hended, hself⟩ := hswept
    rw [hlast]
    refine ⟨marks ++ [.emitted event w.gs], ?_, fun event' gs hmem => ?_⟩
    · rw [List.append_assoc]
      exact hhistory
    · have hlogged : Ended T.cards event' gs w₃ := by
        obtain hmem | hmem := List.mem_append.1 hmem
        · exact hended event' gs hmem
        · cases List.mem_singleton.1 hmem
          exact hself
      exact fun hgoes e he hframes =>
        Sustained.record (I := Gone e.2.id) _ (hlogged hgoes e he hframes)

end Retires

/-! ## The deal -/

namespace Doors

/-- Dealing a hand is doors. -/
theorem dealHand (playerId : String) : ∀ (n : Nat) (b : Board), Doors b (b.dealHand playerId n)
  | 0, _ => .refl
  | n + 1, b => by
    unfold Board.dealHand
    split
    · exact .refl
    · next cardId rest _ =>
      have hdrawn : Doors b ({ b with mainDeck := rest } : Board) :=
        .single (.piles rest b.discardPile)
      exact (hdrawn.trans (addToHand _ playerId cardId)).trans (dealHand playerId n _)

/-- So is dealing every hand. -/
theorem dealHands (size : Nat) (seats : List String) (b : Board) :
    Doors b (b.dealHands size seats) :=
  foldl (fun b playerId => dealHand playerId size b) seats b

end Doors

/-- Dealing monsters touches no player. -/
theorem Board.players_dealMonsters : ∀ (n : Nat) (b : Board), (b.dealMonsters n).players = b.players
  | 0, _ => rfl
  | n + 1, _ => players_dealMonsters n _

/-- Nobody begins with an effect. -/
theorem GameSetup.Valid.numbered {setup : GameSetup} (h : setup.Valid) : Numbered setup.dealt := by
  intro b hb playerId effectId hbears
  obtain rfl | ⟨f, hf, -⟩ := GameState.mem_boards.1 hb
  · obtain ⟨player, hplayer, hid⟩ := Board.bears_doors (Doors.dealHands _ _ _) hbears
    rw [Board.players_dealMonsters] at hplayer
    replace hplayer : (playerId, player) ∈ setup.players.entries := hplayer
    rw [h.entries_players] at hplayer
    obtain ⟨seat, -, heq⟩ := List.mem_map.1 hplayer
    cases heq
    cases hid
  · cases hf

/-! ## Over a run -/

namespace Retires

variable {T : Table} {w w' : World}

/-- A pass installs no effect. -/
theorem pass (cards : Cards) (windowId : Nat) (playerId : String) (w : World) :
    Retires cards w { w with gs := w.gs.modifyWindow windowId (Window.pass playerId) } where
  numbered := Sustained.pass windowId playerId
  gone _ := Sustained.pass windowId playerId
  told _ := ⟨[], rfl, fun _ _ hmem => absurd hmem List.not_mem_nil⟩

/-- An input that returns retires what its events end. -/
theorem handle (fuel : Nat) (input : Input) :
    Along False (Retires T.cards) (HereToSlaughter.handle T fuel input) :=
  Writes.handles emit fuel input fun _ _ _ => .modifies fun _ => .single (pass ..)

/-- So does the start of a game. -/
theorem start {setup : GameSetup} (fuel : Nat) :
    Along False (Retires setup.table.cards) (startGame setup fuel) :=
  .bind .get fun _ => Writes.starts emit fuel _

end Retires

section
variable {setup : GameSetup} {w : World}

/-- At rest what the events of the past have ended is gone. -/
theorem Reach.retired (h : Reach setup w) : Numbered w ∧
    ∀ event gs, .emitted event gs ∈ w.history → Ended setup.table.cards event gs w := by
  induction h with
  | @start fuel w w' deal h =>
    obtain ⟨rfl, hvalid⟩ := GameSetup.createGame_ok deal
    have hstart := Retires.relate ((Retires.start fuel).returns h)
    obtain ⟨marks, hhistory, hended⟩ := hstart.told hvalid.numbered
    have hmarks : w'.history = marks := hhistory.trans (List.append_nil _)
    exact ⟨hstart.numbered hvalid.numbered, fun event gs hmem => hended event gs (hmarks ▸ hmem)⟩
  | @step w w' input _ hstep ih =>
    obtain ⟨hnumbered, hended⟩ := ih
    cases hstep with
    | ok hrun =>
      have hretires := Retires.relate ((Retires.handle _ _).returns hrun)
      obtain ⟨marks, hhistory, hended'⟩ := hretires.told hnumbered
      refine ⟨hretires.numbered hnumbered, fun event gs hmem => ?_⟩
      rw [hhistory, List.mem_append] at hmem
      obtain hnew | hold := hmem
      · exact hended' event gs hnew
      · exact fun hphase e he hframes => hretires.gone _ (hended event gs hold hphase e he hframes)
    | threw => exact ⟨hnumbered, hended⟩

/-- An effect that an event has ended stands on no board ever after, unless a frame that was open
then remembers it. So an effect that lasts until a turn ends is gone once a turn has ended, and one
that lasts until its owner's next turn once a turn of its owner has begun, on the board and on every
board that a frame may bring back. So it is in a run in which no input throws half-way. -/
theorem Reach.effects_end (h : Reach setup w) {event : GameEvent} {gs : GameState}
    (hmem : .emitted event gs ∈ w.history) (hphase : gs.board.gamePhase ≠ .concluded) :
    (∀ e ∈ expiredEffects setup.table.cards gs.board event, ∀ b ∈ w.gs.boards, ∀ playerId,
      b.Bears playerId e.2.id →
        ∃ frame ∈ gs.frames.values, ∃ seat, frame.snapshot.Bears seat e.2.id) ∧
    ∀ playerId player effect, gs.board.players.get? playerId = some player →
      effect ∈ player.effects →
      (event.type = .turnEnded ∧ .untilEndOfTurn ∈ effect.expiry ∨
        event.type = .turnStarted ∧ event.payload.playerId = some effect.ownerId ∧
          .untilOwnersNextTurn ∈ effect.expiry) →
      ∀ b ∈ w.gs.boards, ∀ seat, ¬b.Bears seat effect.id := by
  have hended := h.retired.2 event gs hmem hphase
  refine ⟨fun e he b hb playerId hbears => ?_, fun playerId player effect hplayer heffect hlife b hb
    seat => ?_⟩
  · by_contra hnone
    exact (hended e he fun frame hframe seat hseat => hnone ⟨frame, hframe, seat, hseat⟩).none b hb
      playerId hbears
  · have hbare : gs.frames.keys = [] :=
      h.turns_bare hmem (hlife.elim (fun hlife => .inr hlife.1) fun hlife => .inl hlife.1) hphase
    have hexpired : isEffectExpired setup.table.cards gs.board effect event = true := by
      rw [isEffectExpired, List.any_eq_true]
      obtain ⟨htype, hlife⟩ | ⟨htype, howner, hlife⟩ := hlife
      · exact ⟨_, hlife, by simp [EffectExpiry.on, EffectExpiry.shouldExpire, htype]⟩
      · exact ⟨_, hlife, by simp [EffectExpiry.on, EffectExpiry.shouldExpire, htype, howner]⟩
    have hlisted : (playerId, effect) ∈ expiredEffects setup.table.cards gs.board event :=
      List.mem_flatMap.2 ⟨_, OrderedMap.get?_eq_some.1 hplayer,
        List.mem_map_of_mem (List.mem_filter.2 ⟨heffect, hexpired⟩)⟩
    refine (hended _ hlisted fun frame hframe => ?_).none b hb seat
    obtain ⟨e, he, rfl⟩ := List.mem_map.1 hframe
    exact absurd (hbare ▸ OrderedMap.mem_keys_of_mem he) List.not_mem_nil

end

/-- The first seat plays a magic that helps its throws for the rest of the turn. -/
def spellAtTable : GameSetup :=
  tableForTwo 1 [⟨"magic-055", "magic-055", "base", .magic⟩, heroCard "hero-001" .thief 8] []

/-- A turn ends on a table where an effect until the end of the turn was installed. -/
theorem spellAtTable_played :
    ((spellAtTable.play 60 [.command "A" (.action (.playMagic "magic-055")), .tick 10000,
        .windowLapse 1, .command "A" (.action .endTurn)]).any fun w => w.history.any fun
      | .emitted event gs => decide (event.type = .turnEnded ∧ gs.board.gamePhase ≠ .concluded) &&
          gs.board.players.entries.any fun e => e.2.effects.any fun effect =>
            effect.expiry.contains .untilEndOfTurn
      | _ => false) = true := by
  decide +kernel

/-- The effect is on no board any more. -/
theorem Reach.effects_end_spellAtTable : ∃ w event gs player effect playerId, Reach spellAtTable w ∧
    .emitted event gs ∈ w.history ∧ event.type = .turnEnded ∧
    gs.board.players.get? playerId = some player ∧
      effect ∈ player.effects ∧ ∀ b ∈ w.gs.boards, ∀ seat, ¬b.Bears seat effect.id := by
  obtain ⟨w, h, hplayed⟩ := Reach.of_play _ _ _ _ spellAtTable_played
  obtain ⟨m, hmem, hm⟩ := List.any_eq_true.1 hplayed
  cases m with
  | emitted event gs =>
    rw [Bool.and_eq_true, decide_eq_true_eq] at hm
    obtain ⟨⟨htype, hphase⟩, heffects⟩ := hm
    obtain ⟨⟨playerId, player⟩, hplayer, heffect⟩ := List.any_eq_true.1 heffects
    obtain ⟨effect, heffect, hlife⟩ := List.any_eq_true.1 heffect
    have hfound := OrderedMap.get?_eq_some.2 hplayer
    exact ⟨w, event, gs, player, effect, playerId, h, hmem, htype, hfound, heffect,
      (h.effects_end hmem hphase).2 playerId player effect hfound heffect
        (.inl ⟨htype, by simpa using hlife⟩)⟩
  | _ => cases hm

end HereToSlaughter
