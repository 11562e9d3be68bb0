import HereToSlaughter.Model.World

/-!
# Announced doors

The mutators of `GameState`, `Party` and `ReactionManager` that announce what they do, and the ones
that draw a random number or a fresh id. Every card that changes zones does it through one of
these or through a silent door of `Model/Board.lean`.
-/

namespace HereToSlaughter

open EngineM

/-! ## Frames -/

namespace World

/-- Insert a frame over the current board. -/
def openFrame (frameId : Nat) (w : World) : World :=
  { w with gs := w.gs.addFrame frameId, history := .opened frameId w.gs :: w.history }

/-- `GameState.releaseFrame`. -/
def releaseFrame (frameId : Nat) (w : World) : World :=
  if w.gs.frames.has frameId then
    { w with gs := w.gs.releaseFrame frameId
             history := .released frameId w.gs (w.gs.releaseFrame frameId) :: w.history }
  else w

/-- `GameState.restoreFrame`. -/
def restoreFrame (frameId : Nat) (w : World) : World :=
  if w.gs.frames.has frameId then
    { w with gs := w.gs.restoreFrame frameId
             history := .restored frameId w.gs (w.gs.restoreFrame frameId) :: w.history }
  else w

/-- How many random numbers the shuffle of a refill takes. -/
def refillDraws (b : Board) : Nat := if b.mainDeck.tail = [] then b.discardPile.length - 1 else 0

/-- The board half of `drawIntoHand`, with the random numbers it takes. -/
def drawIntoHand (rng : Nat → Nat) (playerId : String) (w : World) : Option String × World :=
  ((w.gs.board.drawIntoHand rng w.randomAt playerId).1,
    { w with gs := w.gs.modifyBoard fun b => (b.drawIntoHand rng w.randomAt playerId).2
             randomAt := w.randomAt + refillDraws w.gs.board })

end World

namespace EngineM

/-- `ReactionManager.openFrame`. -/
def openFrame : EngineM Nat := do
  let frameId ← freshId
  modify (World.openFrame frameId)
  return frameId

def releaseFrame (frameId : Nat) : EngineM Unit := modify (World.releaseFrame frameId)

def restoreFrame (frameId : Nat) : EngineM Unit := modify (World.restoreFrame frameId)

/-- A door that goes through `requirePlayer`. -/
def playerDoor (playerId : String) (f : Board → Board) : EngineM Unit := do
  let _ ← requirePlayer playerId
  modifyBoard f

/-- A door that goes through `getParty`. -/
def partyDoor (playerId : String) (f : Party → Party) : EngineM Unit := do
  let _ ← getParty playerId
  modifyBoard (Board.modifyParty playerId f)

/-- `GameState.addToHand`. -/
def addToHand (playerId cardId : String) : EngineM Unit :=
  playerDoor playerId (Board.addToHand playerId cardId)

/-- `GameState.removeFromHand`. -/
def removeFromHand (playerId cardId : String) : EngineM Unit :=
  playerDoor playerId (Board.removeFromHand playerId cardId)

/-- `GameState.decreaseActionPoints`. -/
def decreaseActionPoints (playerId : String) (amount : Int) : EngineM Unit :=
  playerDoor playerId (Board.decreaseActionPoints playerId amount)

/-- `GameState.increaseActionPoints`. -/
def increaseActionPoints (playerId : String) (amount : Int) : EngineM Unit :=
  playerDoor playerId (Board.increaseActionPoints playerId amount)

/-- `GameState.getActionPoints`. -/
def getActionPoints (playerId : String) : EngineM Int :=
  return (← requirePlayer playerId).actionPoints

section Announced
variable (em : Emit)

/-- Put an item in a hero's slot of a party and announce it. -/
def equipInParty (playerId heroId itemId announcedAs : String) : EngineM Unit := do
  let _ ← getParty playerId
  mark (.equipped playerId heroId itemId (← getGs))
  modifyBoard (Board.modifyParty playerId (Party.equipItem heroId itemId))
  em (.itemEquippedToHero announcedAs itemId heroId)

/-- `Party.addHero`: in and announced, then the gear it brought. -/
def addHero (playerId heroId reason : String) (carriedItemId : Option String := none) :
    EngineM Unit := do
  partyDoor playerId (Party.pushHero heroId)
  em (.heroAddedToParty playerId heroId reason)
  match carriedItemId with
  | none => pure ()
  | some itemId => equipInParty em playerId heroId itemId playerId

/-- `Party.removeHero`: the gear comes off first and says so, then the hero leaves. Returns the
item it was carrying. -/
def removeHero (playerId heroId reason : String) : EngineM (Option String) := do
  let party ← getParty playerId
  modifyBoard (Board.modifyParty playerId (Party.unequipItem heroId))
  match party.getEquippedItem heroId with
  | none => pure ()
  | some itemId => em (.itemUnequipped playerId itemId heroId)
  modifyBoard (Board.modifyParty playerId (Party.dropHero heroId))
  em (.heroRemovedFromParty playerId heroId reason)
  return party.getEquippedItem heroId

/-- `GameState.drawIntoHand`. -/
def drawIntoHand (rng : Nat → Nat) (playerId : String) : EngineM (Option String) := do
  if (← getGs).board.isSeated playerId then
    match ← modifyGet (World.drawIntoHand rng playerId) with
    | none => return none
    | some cardId =>
      em (.cardDrawn playerId cardId)
      return some cardId
  else return none

/-- `GameState.drawNamedIntoHand`. Whether the card was in the deck. -/
def drawNamedIntoHand (playerId cardId : String) : EngineM Bool := do
  let b := (← getGs).board
  if b.isSeated playerId && b.mainDeck.contains cardId then
    modifyBoard (Board.drawNamedIntoHand playerId cardId)
    em (.cardDrawn playerId cardId)
    return true
  else return false

/-- `GameState.discardFromHand`: throws on a card the player is not holding. -/
def discardFromHand (playerId cardId : String) : EngineM Unit := do
  if cardId ∈ (← getGs).board.hand playerId then
    modifyBoard (Board.discardFromHand playerId cardId)
    em (.cardDiscarded playerId cardId)
  else fail s!"discardFromHand: {cardId} is not in {playerId}'s hand."

/-- `GameState.slayMonster`: throws on a monster that is not in the face-up row. -/
def slayMonster (cardId playerId : String) : EngineM Unit := do
  if cardId ∈ (← getGs).board.monsterPile then
    let _ ← getParty playerId
    modifyBoard (Board.slayMonster cardId playerId)
    em (.monsterSlain playerId cardId)
  else
    fail (s!"slayMonster: {cardId} is not in the monster pile — a monster can only be slain " ++
      "from the face-up row.")

end Announced

end EngineM

end HereToSlaughter
