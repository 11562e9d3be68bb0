import HereToSlaughter.Model.Abilities

/-!
# Events

`GameEvent` and the constructors of `GameEventFactory`, one definition per factory method the
engine calls. A payload is a record of optional fields: the ones a trigger, an expiry, the task
manager or the game log reads. Fields of the source's payloads that nothing reads (the options and
the detail of a window, an effect's id) are left out.

Reference: `events/game-event.ts`, `events/game-event-factory.ts`.
-/

namespace HereToSlaughter

/-- `ContextWrite`: the slot a window's outcome is filed under, and the outcome. -/
structure ContextWrite where
  key : String
  value : CtxValue
  deriving DecidableEq

/-- The payload fields that are read somewhere. -/
structure Payload where
  cardId : Option String := none
  playerId : Option String := none
  label : Option String := none
  ctxSeed : CtxSeed := []
  targetedCardId : Option String := none
  frameId : Option Nat := none
  result : List ContextWrite := []
  reason : Option String := none
  heroId : Option String := none
  sourceCardId : Option String := none
  winnerId : Option String := none
  fromPlayerId : Option String := none
  toPlayerId : Option String := none
  withPlayerId : Option String := none
  targetPlayerId : Option String := none
  value : Option Int := none
  baseRoll : Option Int := none
  finalRoll : Option JsNumber := none
  windowId : Option Nat := none
  windowType : Option ReactionWindowType := none
  cancelled : Bool := false
  challengerId : Option String := none
  defenderId : Option String := none
  challengerRoll : Option Int := none
  defenderRoll : Option Int := none
  challengerTotal : Option JsNumber := none
  defenderTotal : Option JsNumber := none
  defenderWins : Bool := false
  «from» : Option String := none
  cardIds : List String := []
  toAll : Bool := false
  deriving DecidableEq

/-- `GameEvent`. -/
structure GameEvent where
  type : GameEventType
  playerId : String
  payload : Payload := {}
  audience : Audience := .all
  deriving DecidableEq

namespace GameEvent

def gameStarted : GameEvent := { type := .gameStarted, playerId := "" }

def gameEnded (winnerId : String) : GameEvent :=
  { type := .gameEnded, playerId := winnerId, payload := { winnerId } }

def turnStarted (playerId : String) : GameEvent :=
  { type := .turnStarted, playerId, payload := { playerId } }

def turnEnded (playerId : String) : GameEvent :=
  { type := .turnEnded, playerId, payload := { playerId } }

def diceRolled (playerId cardId : String) (baseRoll : Int) : GameEvent :=
  { type := .diceRolled, playerId, payload := { baseRoll, cardId } }

/-- Emitted by `ModifiableRollWindow.submitReaction`. -/
def modifierApplied (playerId : String) (value : Option Int) (cardId : Option String)
    (finalRoll : JsNumber) : GameEvent :=
  { type := .modifierApplied, playerId, payload := { value, cardId, finalRoll } }

def modifierAppliedToChallenge (playerId : String) (value : Int) (targetPlayerId : String)
    (challengerTotal defenderTotal : JsNumber) : GameEvent :=
  { type := .modifierApplied, playerId
    payload := { value, targetPlayerId, challengerTotal, defenderTotal } }

def taskConfirmed (playerId sourceCardId label : String) (ctxSeed : CtxSeed) : GameEvent :=
  { type := .taskConfirmed, playerId, payload := { cardId := sourceCardId, label, ctxSeed } }

def conditionMet (playerId sourceCardId label : String) (ctxSeed : CtxSeed) : GameEvent :=
  { type := .conditionMet, playerId, payload := { cardId := sourceCardId, label, ctxSeed } }

def challengeStarted (challengerId defenderId cardId : String)
    (challengerRoll defenderRoll : Int) : GameEvent :=
  { type := .challengeStarted, playerId := challengerId
    payload := { challengerId, defenderId, cardId, challengerRoll, defenderRoll } }

def challengeResolved (defenderId challengerId cardId : String) (defenderWins : Bool) :
    GameEvent :=
  { type := .challengeResolved, playerId := defenderId
    payload := { cardId, challengerId, defenderId, defenderWins } }

def heroAddedToParty (playerId cardId reason : String) : GameEvent :=
  { type := .heroAddedToParty, playerId, payload := { cardId, playerId, reason } }

def heroRemovedFromParty (playerId cardId reason : String) : GameEvent :=
  { type := .heroRemovedFromParty, playerId, payload := { cardId, playerId, reason } }

def itemEquippedToHero (playerId cardId heroId : String) : GameEvent :=
  { type := .itemEquippedToHero, playerId, payload := { cardId, heroId } }

def itemUnequipped (playerId cardId heroId : String) : GameEvent :=
  { type := .itemUnequipped, playerId, payload := { cardId, heroId } }

def magicPlayed (playerId cardId : String) : GameEvent :=
  { type := .magicPlayed, playerId, payload := { cardId } }

def modifierPlayed (playerId cardId targetPlayerId : String) (value : Int)
    (windowId : Option Nat) : GameEvent :=
  { type := .modifierPlayed, playerId
    payload :=
      { cardId, targetPlayerId, value, windowId
        ctxSeed := [(CTX_MODIFIER_TARGET, .ids [targetPlayerId]),
          (CTX_CHOSEN_VALUE, .list [.num value])] } }

def challengePlayed (playerId cardId targetedCardId : String) : GameEvent :=
  { type := .challengePlayed, playerId, payload := { cardId, targetedCardId } }

def cardRemovedFromHand (playerId cardId : String) : GameEvent :=
  { type := .cardRemovedFromHand, playerId, payload := { cardId } }

def cardDiscarded (playerId cardId : String) : GameEvent :=
  { type := .cardDiscarded, playerId, payload := { cardId } }

def handsTraded (playerId withPlayerId : String) : GameEvent :=
  { type := .handsTraded, playerId, payload := { withPlayerId } }

def cardRetrieved (playerId cardId from_ : String) : GameEvent :=
  { type := .cardRetrieved, playerId, payload := { cardId, «from» := from_ } }

def cardsRevealed (playerId : String) (cardIds : List String) (toAll : Bool) : GameEvent :=
  { type := .cardsRevealed, playerId, payload := { cardIds, toAll } }

def revealEnded (playerId : String) (cardIds : List String) : GameEvent :=
  { type := .revealEnded, playerId, payload := { cardIds } }

def cardPulled (toPlayerId fromPlayerId cardId : String) : GameEvent :=
  { type := .cardPulled, playerId := toPlayerId, payload := { cardId, fromPlayerId, toPlayerId } }

def cardDrawn (playerId cardId : String) : GameEvent :=
  { type := .cardDrawn, playerId
    payload := { cardId, ctxSeed := [(CTX_DRAWN_CARD_IDS, .ids [cardId])] }
    audience := .playerOnly }

def leaderActivated (playerId leaderId : String) : GameEvent :=
  { type := .leaderActivated, playerId, payload := { cardId := leaderId } }

def rollPassing (playerId heroId : String) : GameEvent :=
  { type := .rollPassing, playerId, payload := { cardId := heroId } }

def rollSuccess (playerId heroId : String) (ctxSeed : CtxSeed) : GameEvent :=
  { type := .rollSuccess, playerId, payload := { cardId := heroId, ctxSeed } }

def rollFailed (playerId heroId : String) : GameEvent :=
  { type := .rollFailed, playerId, payload := { cardId := heroId } }

def heroStolen (toPlayerId fromPlayerId heroId : String) : GameEvent :=
  { type := .heroStolen, playerId := toPlayerId
    payload := { cardId := heroId, fromPlayerId, toPlayerId } }

def heroSacrificed (playerId cardId : String) : GameEvent :=
  { type := .heroSacrificed, playerId, payload := { cardId } }

def heroDestroyed (playerId cardId : String) : GameEvent :=
  { type := .heroDestroyed, playerId, payload := { cardId } }

def monsterSlain (playerId cardId : String) : GameEvent :=
  { type := .monsterSlain, playerId, payload := { cardId } }

def monsterFoughtBack (playerId cardId : String) : GameEvent :=
  { type := .monsterFoughtBack, playerId, payload := { cardId } }

def effectApplied (ownerId sourceCardId : String) : GameEvent :=
  { type := .effectApplied, playerId := ownerId, payload := { sourceCardId } }

def effectExpired (ownerId sourceCardId : String) : GameEvent :=
  { type := .effectExpired, playerId := ownerId, payload := { sourceCardId } }

def abilityDone (ownerId cardId : String) : GameEvent :=
  { type := .abilityDone, playerId := ownerId, payload := { cardId }, audience := .playerOnly }

def frameResolved (frameId : Nat) (result : List ContextWrite := [])
    (cardId : Option String := none) : GameEvent :=
  { type := .frameResolved, playerId := "", payload := { frameId, result, cardId } }

/-- The detail of an opening is a window's own; the two fields a rule can match on are the subject
of a challenge and the card a question is about. -/
def reactionWindowOpened (windowType : ReactionWindowType) (respondentId : String)
    (frameId : Nat) (cardId : Option String := none) (ctxSeed : CtxSeed := []) : GameEvent :=
  { type := .reactionWindowOpened, playerId := respondentId
    payload := { windowType, frameId, cardId, ctxSeed } }

def reactionWindowClosed (windowType : ReactionWindowType) (respondentId : String)
    (frameId : Nat) (finalRoll : Option JsNumber := none) (cardId : Option String := none)
    (cancelled : Bool := false) : GameEvent :=
  { type := .reactionWindowClosed, playerId := respondentId
    payload := { windowType, frameId, finalRoll, cardId, cancelled } }

end GameEvent

end HereToSlaughter
