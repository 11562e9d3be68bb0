import HereToSlaughter.Machine.Deal
import HereToSlaughter.Writes.Engine

/-!
# Invariants of every change

A property of the world that every change keeps, that an event going out and being recorded does not
touch, and that a pass keeps, holds in every state a table can rest in: the induction over runs,
made once (`Course.sustains`). It asks nothing of the inputs; some of them may have thrown half-way.

A game state holds several boards, the one on the table and one for each open frame to go back to.
No change brings a board from elsewhere: each is one that was there before, written to through doors
or given one effect (`Change.boards`).

Reference: `pipelines/game-state.ts`, `events/game-event-emitter.ts`.
-/

namespace HereToSlaughter

open Lib EngineM

/-! ## The induction over runs -/

/-- A property that nothing the engine does breaks. -/
class Sustained (I : World → Prop) : Prop where
  change : ∀ {w w'}, Change w w' → I w → I w'
  insert : ∀ {w} (frameId : Nat) (v : Window), I w →
    I { w with gs := w.gs.addWindow frameId v }
  announce : ∀ {w} (event : GameEvent), I w →
    I { w with history := .emitted event w.gs :: w.history }
  record : ∀ {w} (record : LogRecord), I w → I { w with log := w.log ++ [record] }
  pass : ∀ {w} (windowId : Nat) (playerId : String), I w →
    I { w with gs := w.gs.modifyWindow windowId (Window.pass playerId) }

/-- A property is carried from one state to a later one. -/
def Carries (I : World → Prop) (w w' : World) : Prop := I w → I w'

namespace Carries

variable {I : World → Prop} {w w' : World} {T : Table}

/-- What each write sustains a path of writes sustains. -/
theorem of_path (h : Relation.ReflTransGen (Carries I) w w') : Carries I w w' := by
  induction h with
  | refl => exact id
  | tail _ hstep ih => exact fun hI => hstep (ih hI)

variable [Sustained I]

instance : Allows (Carries I) where
  change _ _ h := .single fun hI => Sustained.change h hI
  opens := Along.inserting (fun _ => .single fun hI => Sustained.change .drawId hI)
    fun _ frameId v _ => .single fun hI => Sustained.insert frameId v hI

/-- An event that goes out carries the property. -/
theorem emit : ∀ n event, Along True (Carries I) (HereToSlaughter.emit T n event) :=
  Writes.emits (fun _ event => .single fun hI => Sustained.announce event hI)
    fun _ record => .single fun hI => Sustained.record record hI

/-- An input sustains it, thrown half-way or not. -/
theorem handle (fuel : Nat) (input : Input) :
    Along True (Carries I) (HereToSlaughter.handle T fuel input) :=
  Writes.handles emit fuel input fun _ _ _ =>
    .modifies fun _ => .single fun hI => Sustained.pass _ _ hI

/-- So does the start of a game. -/
theorem start {setup : GameSetup} (fuel : Nat) : Along True (Carries I) (startGame setup fuel) :=
  .bind .get fun _ => Writes.starts emit fuel _

end Carries

/-- A step carries the property, whether it returns or throws. -/
theorem PlaysOn.carries {I : World → Prop} [Sustained I] {T : Table} {fuel : Nat} {w w' : World}
    {input : Input} (h : PlaysOn T fuel w input w') : Carries I w w' := by
  cases h with
  | ok h => exact Carries.of_path ((Carries.handle _ _).returns h)
  | threw h => exact Carries.of_path ((Carries.handle _ _).throws trivial h)

/-- What holds of the deal and is sustained holds after any inputs, also where some have thrown. -/
theorem Course.sustains {I : World → Prop} [Sustained I] {setup : GameSetup} {w : World}
    {meets : Nat → World → Input → Prop} (h : Course setup meets w)
    (hdealt : setup.Valid → I setup.dealt) : I w := by
  induction h with
  | @start fuel w w' deal h =>
    obtain ⟨rfl, hvalid⟩ := GameSetup.createGame_ok deal
    exact Carries.of_path ((Carries.start fuel).returns h) (hdealt hvalid)
  | step _ _ h ih => exact h.carries ih

/-- What the dealt state has and every write sustains, every reachable state has. -/
theorem Reach.sustains {I : World → Prop} [Sustained I] {setup : GameSetup} {w : World}
    (h : Reach setup w) (hdealt : setup.Valid → I setup.dealt) : I w :=
  (course_whole_iff.2 h).sustains hdealt

/-! ## The boards of a game state -/

/-- The board on the table, and those the open frames would go back to. -/
def GameState.boards (gs : GameState) : List Board :=
  gs.board :: gs.frames.values.map GameFrame.snapshot

namespace GameState

variable {gs gs' : GameState} {b : Board}

/-- The boards of a state are the one that is played and those the frames keep. -/
theorem mem_boards : b ∈ gs.boards ↔ b = gs.board ∨ ∃ e ∈ gs.frames.entries, e.2.snapshot = b := by
  simp [boards, OrderedMap.values]

/-- The frames are written to, and go back to what they went back to. -/
theorem boards_eq {f : Nat → GameFrame → GameFrame} (hboard : gs'.board = gs.board)
    (hframes : gs'.frames = gs.frames.mapValues f)
    (hf : ∀ frameId frame, (f frameId frame).snapshot = frame.snapshot) :
    gs'.boards = gs.boards := by
  simp [boards, OrderedMap.values, hboard, hframes, Function.comp_def, hf]

/-- A window changed changes no board. -/
theorem boards_modifyWindow (windowId : Nat) (f : Window → Window) :
    (gs.modifyWindow windowId f).boards = gs.boards :=
  boards_eq (f := fun _ frame => frame.modifyWindow windowId f) rfl rfl fun _ _ => rfl

/-- Nor does a window opened. -/
theorem boards_addWindow (frameId : Nat) (v : Window) :
    (gs.addWindow frameId v).boards = gs.boards := by
  refine boards_eq (f := fun k frame => if k = frameId then
    { frame with windows := frame.windows ++ [v] } else frame) rfl rfl fun k frame => ?_
  split <;> rfl

/-- Nor do clocks started again. -/
theorem boards_restartClocks (now : Nat) (select : Nat → Bool) :
    (gs.restartClocks now select).boards = gs.boards := by
  refine boards_eq (f := fun frameId frame => if select frameId then
    { frame with windows := frame.windows.map (·.restartClock now) } else frame) rfl rfl
    fun k frame => ?_
  split <;> rfl

end GameState

namespace Doors

variable (b : Board)

/-- Spent cards put away are doors of the board. -/
theorem putAway (spent : List (String × String)) : Doors b (GameState.putAway spent b) :=
  foldl (fun b (s : String × String) =>
    (removeInstanceCard b s.2 s.1).trans
      (addToDiscardPile (b.removeInstanceCard s.2 s.1) s.1)) spent b

/-- So are spent cards taken back. -/
theorem takeBack (spent : List (String × String)) : Doors b (GameState.takeBack spent b) :=
  foldl (fun b (s : String × String) =>
    (removeFromHand b s.2 s.1).trans (addToDiscardPile (b.removeFromHand s.2 s.1) s.1)) spent b

/-- So is a card spent. -/
theorem spendCard (gs : GameState) (now : Nat) (playerId cardId : String) :
    Doors gs.board (gs.spendCard now playerId cardId).board := by
  have hspent : Doors gs.board
    ((gs.board.removeFromHand playerId cardId).addInstanceCard playerId cardId) :=
    (removeFromHand _ playerId cardId).trans (addInstanceCard _ playerId cardId)
  unfold GameState.spendCard
  dsimp only
  split
  · exact hspent
  · exact hspent

variable {b} in
/-- What every door keeps, doors one after the other keep. -/
theorem keeps {P : Board → Prop} (hdoor : ∀ {b b'}, Door b b' → P b → P b') {b' : Board}
    (h : Doors b b') (hP : P b) : P b' := by
  induction h with
  | refl => exact hP
  | tail _ hstep ih => exact hdoor hstep ih

end Doors

/-- What one change makes of the boards: each was one of those before, written to through doors, or
given an effect under the id drawn for it. -/
theorem Change.boards {w w' : World} (h : Change w w') : ∀ b' ∈ w'.gs.boards, ∃ b ∈ w.gs.boards,
    Doors b b' ∨ ∃ effect : Effect, effect.id = w.nextId ∧ w'.nextId = w.nextId + 1 ∧
      b' = b.addEffect effect := by
  intro b' hb'
  have hkept : ∀ b ∈ w.gs.boards, ∃ b₀ ∈ w.gs.boards, Doors b₀ b ∨ ∃ effect : Effect,
      effect.id = w.nextId ∧ w'.nextId = w.nextId + 1 ∧ b = b₀.addEffect effect :=
    fun b hb => ⟨b, hb, .inl .refl⟩
  have hframe : ∀ e ∈ w.gs.frames.entries, e.2.snapshot ∈ w.gs.boards := fun e he =>
    GameState.mem_boards.2 (.inr ⟨e, he, rfl⟩)
  have htable : w.gs.board ∈ w.gs.boards := GameState.mem_boards.2 (.inl rfl)
  cases h with
  | managers | drawId | seat | tick | note => exact hkept b' hb'
  | door hdoor =>
    obtain rfl | ⟨e, he, rfl⟩ := GameState.mem_boards.1 hb'
    · exact ⟨_, htable, .inl (.single hdoor)⟩
    · exact hkept _ (hframe e he)
  | install effect hid =>
    obtain rfl | ⟨e, he, rfl⟩ := GameState.mem_boards.1 hb'
    · exact ⟨_, htable, .inr ⟨effect, hid, rfl, rfl⟩⟩
    · exact hkept _ (hframe e he)
  | state hboard hframes =>
    refine hkept b' ?_
    rwa [GameState.boards, hboard, hframes] at hb'
  | openFrame frameId =>
    obtain rfl | ⟨e, he, rfl⟩ := GameState.mem_boards.1 hb'
    · exact hkept _ htable
    · obtain he | rfl := OrderedMap.mem_entries_set he
      · exact hkept _ (hframe e he)
      · exact hkept _ htable
  | releaseFrame frameId =>
    unfold World.releaseFrame at hb'
    split at hb'
    · unfold GameState.releaseFrame at hb'
      dsimp only at hb'
      split at hb'
      · exact hkept b' hb'
      · next frame hfound =>
        obtain rfl | ⟨e, he, rfl⟩ := GameState.mem_boards.1 hb'
        · exact ⟨_, htable, .inl (.putAway _ _)⟩
        · exact hkept _ (hframe e (List.mem_filter.1 he).1)
    · exact hkept b' hb'
  | restoreFrame frameId =>
    unfold World.restoreFrame at hb'
    split at hb'
    · unfold GameState.restoreFrame at hb'
      dsimp only at hb'
      split at hb'
      · exact hkept b' hb'
      · next frame hfound =>
        obtain rfl | ⟨e, he, rfl⟩ := GameState.mem_boards.1 hb'
        · exact ⟨_, hframe _ (OrderedMap.get?_eq_some.1 hfound), .inl (.takeBack _ _)⟩
        · exact hkept _ (hframe e (List.mem_filter.1 he).1)
    · exact hkept b' hb'
  | clear =>
    obtain rfl | ⟨e, he, rfl⟩ := GameState.mem_boards.1 hb'
    · exact hkept _ htable
    · cases he
  | window windowId => exact hkept b' (GameState.boards_modifyWindow windowId _ ▸ hb')
  | restart now select => exact hkept b' (GameState.boards_restartClocks now select ▸ hb')
  | spend now playerId cardId =>
    have hframes : (w.gs.spendCard now playerId cardId).boards =
        (w.gs.spendCard now playerId cardId).board :: w.gs.frames.values.map
          GameFrame.snapshot := by
      unfold GameState.spendCard
      dsimp only
      split
      · rfl
      · exact GameState.boards_modifyWindow _ _
    dsimp only at hb'
    rw [hframes, List.mem_cons] at hb'
    obtain rfl | hmem := hb'
    · exact ⟨_, htable, .inl (.spendCard _ _ _ _)⟩
    · exact hkept b' (List.mem_cons_of_mem _ hmem)

/-- What a property of boards needs for every board of every state to have it. -/
theorem Sustained.of_boards {P : Board → Prop} (hdoor : ∀ {b b'}, Door b b' → P b → P b')
    (heffect : ∀ {b} (effect : Effect), P b → P (b.addEffect effect)) :
    Sustained fun w => ∀ b ∈ w.gs.boards, P b where
  change h hP b' hb' := by
    obtain ⟨b, hb, hdoors | ⟨effect, -, -, rfl⟩⟩ := h.boards b' hb'
    · exact Doors.keeps hdoor hdoors (hP b hb)
    · exact heffect effect (hP b hb)
  insert frameId _ hP b hb := hP b (GameState.boards_addWindow frameId _ ▸ hb)
  announce _ hP := hP
  record _ hP := hP
  pass windowId _ hP b hb := hP b (GameState.boards_modifyWindow windowId _ ▸ hb)

end HereToSlaughter
