import HereToSlaughter.Lib.Along
import HereToSlaughter.Model.Run

/-!
# What an operation may write

Every operation of the engine changes the world in a few ways, in some order: the board is written
to through a door, an id or a random number is drawn, a frame opens or settles, a window is written
to, a mark is made. A window, once it stands, is written to in three ways. It closes, it gives its
passes back because something has landed on it, or its clock starts again; nothing but
`ReactionManager.pass` adds a pass. `Change` is one such change. The rules below follow the text of
the operations once, for any relation that allows every change (`AllowsChange`) and, where windows
open, for one that allows that too (`Allows`): an operation that emits along it goes along it.

`Write` is such a relation, a coarser one that knows of the frames, the windows and the history
alone.

Reference: `reactions/{modifiable-roll,challenge,choice}-window.ts`, `pipelines/game-state.ts`.
-/

namespace HereToSlaughter

open Lib EngineM

/-! ## Windows -/

namespace Window

/-- What a settlement of the window reads: all that is in it but its passes, its clock and whether
its standing as a pass has been announced. -/
def stakes (v : Window) : String × WindowBody :=
  (v.respondentId, match v.body with
    | .roll body => .roll { body with passes := [], asked := false }
    | .challenge body => .challenge { body with passes := [] }
    | .choice body => .choice body)

/-- The window `v` has become `v'` without being passed: it has closed, or something has landed on
it and its passes are given back, or it stands as it stood. -/
structure Follows (v v' : Window) : Prop where
  id : v'.id = v.id
  stands : v'.isOpen = true → v.isOpen = true
  kept : v'.isOpen = true → v'.passedBy = [] ∨ v'.passedBy = v.passedBy ∧ v'.stakes = v.stakes

namespace Follows

variable {v : Window}

/-- A window left alone follows itself. -/
theorem refl : v.Follows v := ⟨rfl, fun h => h, fun _ => .inr ⟨rfl, rfl⟩⟩

/-- A closed window follows an open one. -/
theorem close : v.Follows v.close := ⟨rfl, fun h => (nomatch h), fun h => (nomatch h)⟩

/-- So does one whose clock starts again. -/
theorem resetTimer (now : Nat) : v.Follows (v.resetTimer now) :=
  ⟨rfl, fun h => h, fun _ => .inr ⟨rfl, rfl⟩⟩

/-- So does one whose clock starts again if it still runs. -/
theorem restartClock (now : Nat) : v.Follows (v.restartClock now) := by
  unfold Window.restartClock
  split
  · exact refl
  · split
    · exact resetTimer now
    · split
      · exact refl
      · exact resetTimer now
    · split
      · exact refl
      · exact resetTimer now

/-- A card spent on a window leaves its passes or gives them back. -/
theorem cardSpent (now : Nat) : v.Follows (v.cardSpent now) := by
  rcases v with ⟨_, _, _, _, _, body⟩
  cases body with
  | roll | challenge => exact ⟨rfl, fun h => h, fun _ => .inl rfl⟩
  | choice => exact resetTimer now

/-- A target chosen for a roll gives its passes back. -/
theorem targetChosen (now : Nat) (key : String) (picks : List Pick) (zone : Zone) :
    v.Follows (v.targetChosen now key picks zone) := by
  rcases v with ⟨_, _, _, _, _, body⟩
  cases body with
  | roll => exact ⟨rfl, fun h => h, fun _ => .inl rfl⟩
  | challenge | choice => exact refl

end Follows

/-- A pass leaves the window under its id. -/
theorem id_pass (seat : String) (v : Window) : (v.pass seat).id = v.id := by
  rcases v with ⟨_, _, _, _, _, body⟩
  cases body <;> rfl

/-- A pass alone closes no window. -/
theorem isOpen_pass (seat : String) (v : Window) : (v.pass seat).isOpen = v.isOpen := by
  rcases v with ⟨_, _, _, _, _, body⟩
  cases body <;> rfl

end Window

/-! ## Changes -/

/-- The board is written to: a hand, a seat's points, an effect that ends, the heroes, the gear or
the instance pile of a party, a monster that is slain, the deck and the discard pile, what is
written down for the turn, the phase. -/
inductive Door (b : Board) : Board → Prop
  | hand (playerId : String) {f : Player → Player} (hf : ∀ p, ∃ hand, f p = { p with hand }) :
    Door b { b with players := b.players.modify playerId f }
  | points (playerId : String) {f : Player → Player}
    (hf : ∀ p, ∃ actionPoints, f p = { p with actionPoints }) :
    Door b { b with players := b.players.modify playerId f }
  | retire (playerId : String) (effectId : Nat) : Door b (b.removeEffect playerId effectId)
  | party (playerId : String) {f : Party → Party}
    (hf : ∀ p, (f p).leaderId = p.leaderId ∧ (f p).monsterIds = p.monsterIds) :
    Door b (b.modifyParty playerId f)
  | slay {cardId : String} (playerId : String) (hface : cardId ∈ b.monsterPile)
    (hparty : b.parties.has playerId = true) : Door b (b.slayMonster cardId playerId)
  | piles (mainDeck discardPile : List String) : Door b { b with mainDeck, discardPile }
  | turn (currentPlayerId : Option String) (used challenged : List String) :
    Door b { b with
      currentPlayerId, abilitiesUsedThisTurn := used, cardsChallengedThisTurn := challenged }
  | phase (gamePhase : GamePhase) (winnerId : Option String) : Door b { b with gamePhase, winnerId }

/-- Some doors, one after the other. -/
abbrev Doors : Board → Board → Prop := Relation.ReflTransGen Door

/-- A mark that is made by itself. -/
def Mark.isNote : Mark → Bool
  | .equipped .. | .queued .. | .executed .. | .suspended .. | .concluded .. => true
  | _ => false

/-- One change an operation makes, besides announcing something. -/
inductive Change (w : World) : World → Prop
  /-- The managers, the reveals that are running, the random numbers. -/
  | managers (turnManager : TurnManagerState) (draining dirty : Bool) (reveals : List Reveal)
    (randomAt : Nat) : Change w { w with turnManager, draining, dirty, reveals, randomAt }
  /-- An id is drawn. -/
  | drawId : Change w { w with nextId := w.nextId + 1 }
  /-- The seats are told the order they play in. -/
  | seat (playerOrder : List String) : Change w { w with playerOrder }
  /-- Time passes. -/
  | tick (ms : Nat) : Change w { w with now := w.now + ms }
  /-- The board is written to. -/
  | door {b : Board} (hdoor : Door w.gs.board b) :
    Change w { w with gs := { w.gs with board := b } }
  /-- An effect is installed, under an id that has just been drawn. -/
  | install (effect : Effect) (hid : effect.id = w.nextId) : Change w { w with
      nextId := w.nextId + 1
      gs := w.gs.modifyBoard (Board.addEffect effect) }
  /-- The stack, and what the seats are being shown. -/
  | state {gs : GameState} (hboard : gs.board = w.gs.board) (hframes : gs.frames = w.gs.frames) :
    Change w { w with gs }
  /-- A mark is made. -/
  | note {m : Mark} (hnote : m.isNote = true) : Change w { w with history := m :: w.history }
  /-- A frame opens, with no window in it yet. -/
  | openFrame (frameId : Nat) : Change w (w.openFrame frameId)
  /-- A frame settles. -/
  | releaseFrame (frameId : Nat) : Change w (w.releaseFrame frameId)
  | restoreFrame (frameId : Nat) : Change w (w.restoreFrame frameId)
  /-- Every frame goes, and the stack. -/
  | clear : Change w { w with gs := { w.gs with frames := .empty, pipelines := [] } }
  /-- A window is written to. -/
  | window (windowId : Nat) {f : Window → Window} (hf : ∀ v : Window, v.Follows (f v)) :
    Change w { w with gs := w.gs.modifyWindow windowId f }
  /-- Clocks start again. -/
  | restart (now : Nat) (select : Nat → Bool) :
    Change w { w with gs := w.gs.restartClocks now select }
  /-- A card is spent, and the window a bonus could go into is told. -/
  | spend (now : Nat) (playerId cardId : String) (frameId : Nat) : Change w { w with
      gs := w.gs.spendCard now playerId cardId
      history := .spent playerId cardId frameId w.gs :: w.history }

/-- No change takes an id back. -/
theorem Change.nextId_le {w w' : World} (h : Change w w') : w.nextId ≤ w'.nextId := by
  cases h with
  | drawId | install => exact Nat.le_succ _
  | releaseFrame frameId =>
    unfold World.releaseFrame
    split <;> exact Nat.le_refl _
  | restoreFrame frameId =>
    unfold World.restoreFrame
    split <;> exact Nat.le_refl _
  | _ => exact Nat.le_refl _

/-- A window is opened: an id is drawn for it, it is announced, and it goes into its frame. -/
def inserting (frameId : Nat) (prepare : Nat → EngineM Window) : EngineM Unit := do
  let id ← freshId
  let v ← prepare id
  modifyGs (GameState.addWindow frameId v)

/-- A window that is prepared has the id drawn for it, and nobody has passed it. -/
def Prepares (prepare : Nat → EngineM Window) : Prop :=
  ∀ id ⦃w v w'⦄, prepare id w = .ok v w' → v.id = id ∧ v.passedBy = []

/-- The relation allows every change. -/
class AllowsChange (r : World → World → Prop) : Prop where
  change : ∀ ⦃w w'⦄, Change w w' → Relation.ReflTransGen r w w'

/-- The relation allows a window to be opened as well, if what is announced meanwhile goes along
it. -/
class Allows (r : World → World → Prop) : Prop extends AllowsChange r where
  opens : ∀ {thrown : Prop} {prepare : Nat → EngineM Window} (frameId : Nat),
    (∀ id, Along thrown r (prepare id)) → Prepares prepare →
      Along thrown r (inserting frameId prepare)

/-- A relation that allows any window to go into a frame allows one to be opened. -/
theorem Along.inserting {r : World → World → Prop} {thrown : Prop}
    (hdraw : ∀ w : World, Relation.ReflTransGen r w { w with nextId := w.nextId + 1 })
    (hinsert : ∀ (w : World) (frameId : Nat) (v : Window), v.passedBy = [] →
      Relation.ReflTransGen r w { w with gs := w.gs.addWindow frameId v })
    {prepare : Nat → EngineM Window} (frameId : Nat) (hprepare : ∀ id, Along thrown r (prepare id))
    (hprepares : Prepares prepare) :
    Along thrown r (HereToSlaughter.inserting frameId prepare) := by
  refine .bind (.changes hdraw) fun id => ⟨fun w a w' h => ?_, fun hthrown w e w' h => ?_⟩
  · obtain ⟨v, t, hrun, h⟩ := ran_of_bind h
    cases h
    exact ((hprepare id).returns hrun).trans (hinsert t frameId v (hprepares id hrun).2)
  · obtain h | ⟨v, t, -, h⟩ := threw_of_bind h
    · exact (hprepare id).throws hthrown h
    · cases h

/-! ## Writes -/

/-- The mark of a card that is spent. -/
def Mark.isSpent : Mark → Bool
  | .spent .. => true
  | _ => false

/-- One write of an operation. -/
inductive Write : World → World → Prop
  /-- Something besides the game state and the history changes. -/
  | aside {w w' : World} (hgs : w'.gs = w.gs) (hhistory : w'.history = w.history) : Write w w'
  /-- Something of the game state besides the frames changes. -/
  | state {w : World} {gs : GameState} (hframes : gs.frames = w.gs.frames) : Write w { w with gs }
  /-- A mark is made. -/
  | mark {w : World} (m : Mark) (hspent : m.isSpent = false) :
    Write w { w with history := m :: w.history }
  /-- A frame opens, with no window in it yet. -/
  | addFrame {w : World} (frameId : Nat) : Write w { w with gs := w.gs.addFrame frameId }
  /-- A frame goes. -/
  | drop {w : World} {gs : GameState} (frameId : Nat)
    (hframes : gs.frames = w.gs.frames.erase frameId) : Write w { w with gs }
  /-- Every frame goes. -/
  | clear {w : World} {gs : GameState} (hframes : gs.frames = .empty) : Write w { w with gs }
  /-- A window goes into its frame. Nobody has passed it. -/
  | insert {w : World} (frameId : Nat) (v : Window) (hpassed : v.passedBy = []) :
    Write w { w with gs := w.gs.addWindow frameId v }
  /-- A window is written to. -/
  | window {w : World} (windowId : Nat) {f : Window → Window} (hf : ∀ v : Window, v.Follows (f v)) :
    Write w { w with gs := w.gs.modifyWindow windowId f }
  /-- Clocks start again. -/
  | restart {w : World} (now : Nat) (select : Nat → Bool) :
    Write w { w with gs := w.gs.restartClocks now select }
  /-- A card is spent, and the window a bonus could go into is told. -/
  | spend {w : World} (now : Nat) (playerId cardId : String) (frameId : Nat) :
    Write w { w with
      gs := w.gs.spendCard now playerId cardId
      history := .spent playerId cardId frameId w.gs :: w.history }

/-- A program that passes no window. -/
abbrev Writes {α : Type} (m : EngineM α) : Prop := Along True Write m

/-- A change of the engine is one write, or two. -/
theorem Change.writes {w w' : World} (h : Change w w') : Relation.ReflTransGen Write w w' := by
  cases h with
  | managers | drawId | seat | tick => exact .single (.aside rfl rfl)
  | door => exact .single (.state rfl)
  | install effect =>
    have hdraw : Write w { w with nextId := w.nextId + 1 } := .aside rfl rfl
    exact .tail (.single hdraw) (.state rfl)
  | state _ hframes => exact .single (.state hframes)
  | @note m hnote =>
    refine .single (.mark m ?_)
    cases m with
    | spent => cases hnote
    | _ => rfl
  | openFrame frameId =>
    exact .tail (.single (.addFrame frameId)) (.mark (.opened frameId w.gs) rfl)
  | releaseFrame frameId =>
    unfold World.releaseFrame
    split
    · refine .tail (.single (?_ : Write w { w with gs := w.gs.releaseFrame frameId })) (.mark _ rfl)
      unfold GameState.releaseFrame
      split
      · exact .state rfl
      · exact .drop frameId rfl
    · exact .refl
  | restoreFrame frameId =>
    unfold World.restoreFrame
    split
    · refine .tail (.single (?_ : Write w { w with gs := w.gs.restoreFrame frameId })) (.mark _ rfl)
      unfold GameState.restoreFrame
      split
      · exact .state rfl
      · exact .drop frameId rfl
    · exact .refl
  | clear => exact .single (.clear rfl)
  | window windowId hf => exact .single (.window windowId hf)
  | restart now select => exact .single (.restart now select)
  | spend now playerId cardId frameId => exact .single (.spend now playerId cardId frameId)

instance : Allows Write where
  change _ _ := Change.writes
  opens := Along.inserting (fun _ => .single (.aside rfl rfl))
    fun _ frameId v hpassed => .single (.insert frameId v hpassed)

/-! ## Doors -/

namespace Doors

variable (b : Board) (playerId cardId : String)

/-- A card into a hand. -/
theorem addToHand : Doors b (b.addToHand playerId cardId) :=
  .single (.hand playerId fun _ => ⟨_, rfl⟩)

/-- A card out of a hand. -/
theorem removeFromHand : Doors b (b.removeFromHand playerId cardId) :=
  .single (.hand playerId fun _ => ⟨_, rfl⟩)

/-- A card onto the discard pile. -/
theorem addToDiscardPile : Doors b (b.addToDiscardPile cardId) :=
  .single (.piles b.mainDeck (cardId :: b.discardPile))

/-- A card off the discard pile. -/
theorem pickFromDiscardPile : Doors b (b.pickFromDiscardPile cardId) :=
  .single (.piles b.mainDeck (b.discardPile.filter (· ≠ cardId)))

/-- A card of the deck to its top. -/
theorem moveToMainDeckTop : Doors b (b.moveToMainDeckTop cardId) := by
  unfold Board.moveToMainDeckTop
  split
  · exact .single (.piles _ b.discardPile)
  · exact .refl

/-- A draw, which may refill the deck. -/
theorem drawIntoHand (rng : Nat → Nat) (at_ : Nat) :
    Doors b (b.drawIntoHand rng at_ playerId).2 := by
  have hdraw : Doors b (b.drawFromMainDeck rng at_).2 := by
    refine .head (.piles b.mainDeck.tail b.discardPile) ?_
    dsimp only [Board.drawFromMainDeck]
    unfold Board.refillMainDeck
    split
    · exact .single (.piles _ [])
    · exact .refl
  unfold Board.drawIntoHand
  split
  · next heq =>
    rw [heq] at hdraw
    exact hdraw
  · next cardId b' heq =>
    rw [heq] at hdraw
    exact hdraw.trans (addToHand b' playerId cardId)

/-- A draw of a named card. -/
theorem drawNamedIntoHand : Doors b (b.drawNamedIntoHand playerId cardId) :=
  .head (.piles (b.mainDeck.filter (· ≠ cardId)) b.discardPile) (addToHand _ playerId cardId)

/-- A discard is two doors. -/
theorem discardFromHand : Doors b (b.discardFromHand playerId cardId) :=
  (removeFromHand b playerId cardId).trans (addToDiscardPile _ cardId)

/-- A pull is two doors. -/
theorem pullCard (toPlayerId : String) : Doors b (b.pullCard playerId toPlayerId cardId) :=
  (removeFromHand b playerId cardId).trans (addToHand _ toPlayerId cardId)

/-- Doors for each member of a list. -/
theorem foldl {A : Type} {f : Board → A → Board} (hf : ∀ b a, Doors b (f b a)) :
    ∀ (l : List A) (b : Board), Doors b (l.foldl f b)
  | [], _ => .refl
  | a :: l, b => (hf b a).trans (foldl hf l (f b a))

/-- A trade is the pulls of both hands. -/
theorem tradeHands (otherId : String) :
    Doors b (HereToSlaughter.tradeHands b playerId otherId) :=
  (foldl (fun b cardId => pullCard b playerId cardId otherId) _ b).trans
    (foldl (fun b cardId => pullCard b otherId cardId playerId) _ _)

/-- Points gained. -/
theorem increaseActionPoints (amount : Int) : Doors b (b.increaseActionPoints playerId amount) :=
  .single (.points playerId fun _ => ⟨_, rfl⟩)

/-- Points paid. -/
theorem decreaseActionPoints (amount : Int) : Doors b (b.decreaseActionPoints playerId amount) :=
  .single (.points playerId fun _ => ⟨_, rfl⟩)

/-- A hero into a party. -/
theorem pushHero : Doors b (b.modifyParty playerId (Party.pushHero cardId)) :=
  .single (.party playerId fun _ => ⟨rfl, rfl⟩)

/-- A hero out of a party. -/
theorem dropHero : Doors b (b.modifyParty playerId (Party.dropHero cardId)) :=
  .single (.party playerId fun _ => ⟨rfl, rfl⟩)

/-- A played card before its party. -/
theorem addInstanceCard : Doors b (b.addInstanceCard playerId cardId) :=
  .single (.party playerId fun _ => ⟨rfl, rfl⟩)

/-- A played card away from its party. -/
theorem removeInstanceCard : Doors b (b.removeInstanceCard playerId cardId) :=
  .single (.party playerId fun _ => ⟨rfl, rfl⟩)

/-- An item on a hero. -/
theorem equipInParty (itemId : String) :
    Doors b (b.modifyParty playerId (Party.equipItem cardId itemId)) :=
  .single (.party playerId fun _ => ⟨rfl, rfl⟩)

/-- An item off a hero. -/
theorem unequipInParty : Doors b (b.modifyParty playerId (Party.unequipItem cardId)) :=
  .single (.party playerId fun _ => ⟨rfl, rfl⟩)

/-- An item off the hero that wears it, in whatever party. -/
theorem unequipItem : Doors b (b.unequipItem cardId) := by
  unfold Board.unequipItem
  split
  · exact .refl
  · exact unequipInParty b _ cardId

/-- An ability marked used. -/
theorem markAbilityUsed : Doors b (b.markAbilityUsed cardId) := .single (.turn ..)

/-- A card marked challenged. -/
theorem markCardChallenged : Doors b (b.markCardChallenged cardId) := .single (.turn ..)

/-- The slate of the turn wiped. -/
theorem clearUsedAbilities : Doors b b.clearUsedAbilities := .single (.turn ..)

/-- A turn that starts is several doors. -/
theorem startTurn : Doors b (b.startTurn playerId) := by
  have hreset : Doors b (({ b with currentPlayerId := some playerId }
      |>.clearUsedAbilities.clearChallengedCards).resetActionPoints playerId) :=
    .tail (.single (.turn (some playerId) [] [])) (.points playerId fun _ => ⟨_, rfl⟩)
  exact hreset.trans (increaseActionPoints _ playerId _)

end Doors

namespace Writes

/-- The board, whatever is written to it. -/
theorem modifyBoard (f : Board → Board) : Writes (EngineM.modifyBoard f) :=
  .modifies fun _ => .single (.state rfl)

/-- Whose party it is has one. -/
theorem has_of_getParty {b : Board} {playerId : String} {party : Party}
    (h : b.getParty playerId = .ok party) : b.parties.has playerId = true := by
  unfold Board.getParty at h
  split at h
  · next hfound =>
      exact OrderedMap.has_iff.2 (OrderedMap.mem_keys_of_mem (OrderedMap.get?_eq_some.1 hfound))
  · cases h

section
variable {r : World → World → Prop} {thrown : Prop} {α : Type}

/-! ## No change -/

/-- A failure writes nothing. -/
theorem fail (message : String) : Along thrown r (EngineM.fail message : EngineM α) := .throw _

/-- Nor does a check that throws. -/
theorem orThrow (result : Except EngineError α) : Along thrown r (EngineM.orThrow result) := by
  cases result with
  | ok a => exact .pure a
  | error e => exact .throw e

/-- The state is read. -/
theorem getGs : Along thrown r EngineM.getGs := .reads fun w => ⟨w.gs, rfl⟩

/-- The clock is read. -/
theorem now : Along thrown r EngineM.now := .reads fun w => ⟨w.now, rfl⟩

/-- A player is looked up, or the operation fails. -/
theorem requirePlayer (playerId : String) : Along thrown r (EngineM.requirePlayer playerId) :=
  .bind getGs fun _ => orThrow _

/-- A party is looked up, or the operation fails. -/
theorem getParty (playerId : String) : Along thrown r (EngineM.getParty playerId) :=
  .bind getGs fun _ => orThrow _

/-- The points of a player are looked up. -/
theorem getActionPoints (playerId : String) : Along thrown r (EngineM.getActionPoints playerId) :=
  .bind (requirePlayer playerId) fun _ => .pure _

/-! ## Several programs -/

/-- A loop writes what its body writes. -/
theorem forEach {act : α → EngineM Unit} (hact : ∀ a, Along thrown r (act a)) :
    ∀ l, Along thrown r (EngineM.forEach act l)
  | [] => .pure ()
  | a :: l => .bind (hact a) fun _ => forEach hact l

/-- So does a loop that collects. -/
theorem collect {β : Type} {act : α → EngineM (Option β)} (hact : ∀ a, Along thrown r (act a)) :
    ∀ l, Along thrown r (HereToSlaughter.collect act l)
  | [] => .pure []
  | a :: l => .bind (hact a) fun _ => .bind (collect hact l) fun _ => .pure _

end

section
variable {r : World → World → Prop} [AllowsChange r] {thrown : Prop} {α : Type}

/-! ## One change -/

/-- A change of the state is allowed as it is. -/
theorem changes {f : World → α × World} (h : ∀ w, Change w (f w).2) :
    Along thrown r (modifyGet f : EngineM α) := .changes fun w => AllowsChange.change (h w)

/-- So is one that returns nothing. -/
theorem modifies {f : World → World} (h : ∀ w, Change w (f w)) :
    Along thrown r (modify f : EngineM PUnit) := .modifies fun w => AllowsChange.change (h w)

/-- The board is written to by way of its doors. -/
theorem doors {w : World} {b : Board} (h : Doors w.gs.board b) :
    Relation.ReflTransGen r w { w with gs := { w.gs with board := b } } := by
  induction h with
  | refl => exact .refl
  | @tail b b' _ hdoor ih =>
    exact ih.trans (AllowsChange.change (w := { w with gs := { w.gs with board := b } })
      (.door hdoor))

/-- Doors of the board, taken one after the other. -/
theorem door {f : Board → Board} (h : ∀ b, Doors b (f b)) :
    Along thrown r (EngineM.modifyBoard f) :=
  .modifies fun w => doors (h w.gs.board)

/-- The stack, or what the seats are being shown. -/
theorem state {f : GameState → GameState} (hboard : ∀ gs : GameState, (f gs).board = gs.board)
    (hframes : ∀ gs : GameState, (f gs).frames = gs.frames) : Along thrown r (EngineM.modifyGs f) :=
  modifies fun w => .state (hboard w.gs) (hframes w.gs)

/-- A note on the history. -/
theorem mark {m : Mark} (hnote : m.isNote = true) : Along thrown r (EngineM.mark m) :=
  modifies fun _ => .note hnote

/-- A change of one window that the window may follow. -/
theorem window (windowId : Nat) {f : Window → Window} (hf : ∀ v : Window, v.Follows (f v)) :
    Along thrown r (EngineM.modifyGs (GameState.modifyWindow windowId f)) :=
  modifies fun _ => .window windowId hf

/-- Clocks started again. -/
theorem restart (now : Nat) (select : Nat → Bool) :
    Along thrown r (EngineM.modifyGs (GameState.restartClocks now select)) :=
  modifies fun _ => .restart now select

/-- An id drawn. -/
theorem freshId : Along thrown r EngineM.freshId := changes fun _ => .drawId

/-- A number drawn. -/
theorem random (rng : Nat → Nat) (n : Nat) : Along thrown r (EngineM.random rng n) :=
  changes fun w => .managers w.turnManager w.draining w.dirty w.reveals (w.randomAt + 1)

/-- An effect is installed under the id drawn for it, where that is not refused. -/
theorem installs {c : Prop} [Decidable c] {effect : Nat → Effect} (hid : ∀ id, (effect id).id = id)
    {next other : Nat → EngineM α} (hnext : ∀ id, Along thrown r (next id))
    (hother : ∀ id, Along thrown r (other id)) :
    Along thrown r (EngineM.freshId >>= fun id =>
      if c then EngineM.modifyBoard (Board.addEffect (effect id)) >>= fun _ => next id
      else other id) := by
  split
  · exact .leap fun w =>
      ⟨next w.nextId, _, rfl, AllowsChange.change (.install (effect w.nextId) (hid _)), hnext _⟩
  · exact .bind freshId hother

/-- Two dice. -/
theorem roll2Dice (rng : Nat → Nat) : Along thrown r (EngineM.roll2Dice rng) :=
  .bind (random rng 6) fun _ => .bind (random rng 6) fun _ => .pure _

/-- The turn manager changed, whatever the change. -/
theorem modifyTurnManager (f : Nat → TurnManagerState → TurnManagerState) :
    Along thrown r (HereToSlaughter.modifyTurnManager f) :=
  modifies fun w => .managers (f w.now w.turnManager) w.draining w.dirty w.reveals w.randomAt

/-! ## Doors and frames -/

/-- A door of one player, once that player is found. -/
theorem playerDoor (playerId : String) {f : Board → Board} (h : ∀ b, Doors b (f b)) :
    Along thrown r (EngineM.playerDoor playerId f) :=
  .bind (requirePlayer playerId) fun _ => door h

/-- A door of one party, once that party is found. -/
theorem partyDoor (playerId : String) {f : Party → Party}
    (h : ∀ b : Board, Doors b (b.modifyParty playerId f)) :
    Along thrown r (EngineM.partyDoor playerId f) :=
  .bind (getParty playerId) fun _ => door h

/-- A frame opened under a fresh id. -/
theorem openFrame : Along thrown r EngineM.openFrame :=
  .bind freshId fun frameId => .bind (modifies fun _ => .openFrame frameId) fun _ => .pure _

/-- A frame let go. -/
theorem releaseFrame (frameId : Nat) : Along thrown r (EngineM.releaseFrame frameId) :=
  modifies fun _ => .releaseFrame frameId

/-- A frame rolled back. -/
theorem restoreFrame (frameId : Nat) : Along thrown r (EngineM.restoreFrame frameId) :=
  modifies fun _ => .restoreFrame frameId

section Announced
variable {em : Emit} (hem : ∀ event, Along thrown r (em event))
include hem

/-- An item equipped and announced. -/
theorem equipInParty (playerId heroId itemId announcedAs : String) :
    Along thrown r (EngineM.equipInParty em playerId heroId itemId announcedAs) :=
  .bind (getParty playerId) fun _ => .bind getGs fun _ => .bind (mark rfl) fun _ =>
    .bind (door fun b => .equipInParty b _ _ _) fun _ => hem _

/-- A hero that joins, with what it carries. -/
theorem addHero (playerId heroId reason : String) (carriedItemId : Option String) :
    Along thrown r (EngineM.addHero em playerId heroId reason carriedItemId) := by
  refine .bind (partyDoor _ fun b => .pushHero b _ _) fun _ => .bind (hem _) fun _ => ?_
  split
  · exact .pure ()
  · exact equipInParty hem _ _ _ _

/-- A hero that leaves, with what it carries. -/
theorem removeHero (playerId heroId reason : String) :
    Along thrown r (EngineM.removeHero em playerId heroId reason) := by
  refine .bind (getParty playerId) fun party => ?_
  refine .bind (door fun b => .unequipInParty b _ _) fun _ => ?_
  extract_lets rest
  have hrest : Along thrown r (rest ()) :=
    .bind (door fun b => .dropHero b _ _) fun _ => .bind (hem _) fun _ => .pure _
  split
  · exact hrest
  · exact .bind (hem _) fun _ => hrest

/-- A draw, announced if there was a card. -/
theorem drawIntoHand (rng : Nat → Nat) (playerId : String) :
    Along thrown r (EngineM.drawIntoHand em rng playerId) := by
  refine .bind getGs fun _ => .ite (.bind (.changes fun w => ?_) fun drawn => ?_) (.pure _)
  · refine (doors (.drawIntoHand w.gs.board playerId rng w.randomAt)).trans ?_
    exact AllowsChange.change (.managers w.turnManager w.draining w.dirty w.reveals _)
  · split
    · exact .pure _
    · exact .bind (hem _) fun _ => .pure _

/-- A draw of a named card, announced if it was there. -/
theorem drawNamedIntoHand (playerId cardId : String) :
    Along thrown r (EngineM.drawNamedIntoHand em playerId cardId) :=
  .bind getGs fun _ => .ite (.bind (door fun b => .drawNamedIntoHand b _ _) fun _ =>
    .bind (hem _) fun _ => .pure _) (.pure _)

/-- A discard, announced. -/
theorem discardFromHand (playerId cardId : String) :
    Along thrown r (EngineM.discardFromHand em playerId cardId) :=
  .bind getGs fun _ => .ite (.bind (door fun b => .discardFromHand b _ _) fun _ => hem _) (fail _)

/-- A monster slain, announced. -/
theorem slayMonster (cardId playerId : String) :
    Along thrown r (EngineM.slayMonster em cardId playerId) := by
  refine .leap fun w => ?_
  by_cases hface : cardId ∈ w.gs.board.monsterPile
  · have hask : EngineM.slayMonster em cardId playerId w =
        (EngineM.orThrow (w.gs.board.getParty playerId) >>= fun _ =>
          EngineM.modifyBoard (Board.slayMonster cardId playerId) >>= fun _ =>
            em (.monsterSlain playerId cardId)) w := congrFun (if_pos hface) w
    cases hfound : w.gs.board.getParty playerId with
    | error e => exact ⟨.throw e, w, by rw [hask, hfound]; rfl, .refl, .throw e⟩
    | ok party =>
      have hdoor : Door w.gs.board (w.gs.board.slayMonster cardId playerId) :=
        .slay playerId hface (has_of_getParty hfound)
      exact ⟨em (.monsterSlain playerId cardId), _, by rw [hask, hfound]; rfl,
        doors (.single hdoor), hem _⟩
  · obtain ⟨message, hfail⟩ : ∃ message, EngineM.slayMonster em cardId playerId w =
        EngineM.fail message w := ⟨_, congrFun (if_neg hface) w⟩
    exact ⟨_, w, hfail, .refl, fail message⟩

end Announced

end

end Writes

end HereToSlaughter
