import HereToSlaughter.Lib.OrderedMap
import HereToSlaughter.Model.Cards

/-!
# The board

`Player`, `Party`, the two kinds of pile and the part of `GameState` that a frame's snapshot holds:
everything `GameState.copyFrom` writes back. The frames, the pipelines and what a seat is being
shown are not part of it (`Model/GameState.lean`).

A player's id is its key in `players`, a party's is its key in `parties`. The piles are lists of
card ids, the top of a stack and the newest card of a pile first. The card table is shared by
every board of a game, so the questions that read it take it as `cards`.

Reference: `state-structures/{player,party,card-stack,card-pile}.ts`, `pipelines/game-state.ts`.
-/

namespace HereToSlaughter

open Lib

/-- The registered cards by id: `GameState.cards`. -/
abbrev Cards := OrderedMap String Card

/-- What stops an engine call: an `Error` the source throws, with its text, or the fuel that
bounds re-entrant emission in this model. -/
inductive EngineError
  | outOfFuel
  | thrown (message : String)
  deriving DecidableEq

/-! ## Ongoing effects -/

/-- The lifetimes a card wording can be written in: the exports of `abilities/expiries.ts`. -/
inductive EffectExpiry
  | untilEndOfTurn
  | untilOwnersNextTurn
  | untilSourceLeavesParty
  | untilUnequipped
  | whileClassInParty (heroClass : HeroClass)
  deriving DecidableEq

/-- `IEffect`: a standing rule with a lifetime. No `expiry` is a permanent one. -/
structure Effect where
  id : Nat
  sourceCardId : String
  ownerId : String
  type : PassiveType
  value : Option Int := none
  cardId : Option String := none
  rollContext : Option RollContext := none
  cardTypes : Option (List CardType) := none
  expiry : List EffectExpiry := []
  deriving DecidableEq

/-- `RollBonus`: one contribution to a roll. Both fields are `undefined` in an entry that an answer
meant for a choice leaves on a roll. -/
structure RollBonus where
  cardSource : Option String
  amount : JsNumber
  deriving DecidableEq

/-- The bonus a standing effect contributes. -/
def Effect.toBonus (effect : Effect) : RollBonus :=
  ⟨some effect.sourceCardId, .int (effect.value.getD 0)⟩

/-! ## Players -/

/-- `Player`. -/
structure Player where
  name : String
  hand : List String
  /-- The printed budget of a turn, `initialActionPoints`. -/
  actionPointsPerTurn : Int
  actionPoints : Int
  effects : List Effect := []
  deriving DecidableEq

namespace Player

def addToHand (cardId : String) (player : Player) : Player :=
  { player with hand := player.hand ++ [cardId] }

def removeFromHand (cardId : String) (player : Player) : Player :=
  { player with hand := player.hand.filter (· ≠ cardId) }

def decreaseActionPoints (amount : Int) (player : Player) : Player :=
  { player with actionPoints := player.actionPoints - amount }

def increaseActionPoints (amount : Int) (player : Player) : Player :=
  { player with actionPoints := player.actionPoints + amount }

def resetActionPoints (player : Player) : Player :=
  { player with actionPoints := player.actionPointsPerTurn }

def addEffect (effect : Effect) (player : Player) : Player :=
  { player with effects := player.effects ++ [effect] }

def removeEffect (effectId : Nat) (player : Player) : Player :=
  { player with effects := player.effects.filter (·.id ≠ effectId) }

/-- The effects of one type, `Player.getEffects`. -/
def getEffects (type : PassiveType) (player : Player) : List Effect :=
  player.effects.filter (·.type = type)

def hasEffect (type : PassiveType) (player : Player) : Bool :=
  player.effects.any (·.type = type)

end Player

/-! ## Parties -/

/-- `Party`: the cards one seat has in play. `equipment` is keyed by the hero that carries. -/
structure Party where
  leaderId : String
  heroIds : List String := []
  monsterIds : List String := []
  instanceCardIds : List String := []
  equipment : OrderedMap String String := .empty

namespace Party

def getEquippedItem (heroId : String) (party : Party) : Option String :=
  party.equipment.get? heroId

def equipItem (heroId itemId : String) (party : Party) : Party :=
  { party with equipment := party.equipment.set heroId itemId }

def unequipItem (heroId : String) (party : Party) : Party :=
  { party with equipment := party.equipment.erase heroId }

/-- The half of `Party.addHero` before its announcement. -/
def pushHero (heroId : String) (party : Party) : Party :=
  { party with heroIds := party.heroIds ++ [heroId] }

/-- The half of `Party.removeHero` after the gear came off. -/
def dropHero (heroId : String) (party : Party) : Party :=
  { party with heroIds := party.heroIds.filter (· ≠ heroId) }

def addMonster (monsterId : String) (party : Party) : Party :=
  { party with monsterIds := party.monsterIds ++ [monsterId] }

def addInstanceCard (cardId : String) (party : Party) : Party :=
  { party with instanceCardIds := party.instanceCardIds ++ [cardId] }

def removeInstanceCard (cardId : String) (party : Party) : Party :=
  { party with instanceCardIds := party.instanceCardIds.filter (· ≠ cardId) }

/-- Every card id the party holds. -/
def cardIds (party : Party) : List String :=
  party.leaderId :: party.heroIds ++ party.monsterIds ++ party.instanceCardIds ++
    party.equipment.values

end Party

/-! ## The board itself -/

/-- The part of `GameState` a snapshot holds and `copyFrom` restores. -/
structure Board where
  players : OrderedMap String Player
  parties : OrderedMap String Party
  currentPlayerId : Option String := none
  gamePhase : GamePhase := .setup
  winnerId : Option String := none
  abilitiesUsedThisTurn : List String := []
  cardsChallengedThisTurn : List String := []
  mainDeck : List String
  discardPile : List String := []
  monsterDeck : List String
  monsterPile : List String := []

namespace Board

/-! ### Zones -/

/-- Every occurrence of a card id on the board, zone by zone. A card's zones are the main deck,
the discard pile, the monster deck, the face-up row, the hands, and each party's leader, heroes,
slain monsters, instance pile and equipment slots. -/
def cardIds (b : Board) : List String :=
  b.mainDeck ++ b.discardPile ++ b.monsterDeck ++ b.monsterPile ++
    b.players.values.flatMap Player.hand ++ b.parties.values.flatMap Party.cardIds

/-! ### The silent doors -/

def addToHand (playerId cardId : String) (b : Board) : Board :=
  { b with players := b.players.modify playerId (Player.addToHand cardId) }

def removeFromHand (playerId cardId : String) (b : Board) : Board :=
  { b with players := b.players.modify playerId (Player.removeFromHand cardId) }

def addToDiscardPile (cardId : String) (b : Board) : Board :=
  { b with discardPile := cardId :: b.discardPile }

def pickFromDiscardPile (cardId : String) (b : Board) : Board :=
  { b with discardPile := b.discardPile.filter (· ≠ cardId) }

def pickFromMainDeck (cardId : String) (b : Board) : Board :=
  { b with mainDeck := b.mainDeck.filter (· ≠ cardId) }

/-- `moveToMainDeckTop`: out of anywhere in the main deck onto its top. -/
def moveToMainDeckTop (cardId : String) (b : Board) : Board :=
  if cardId ∈ b.mainDeck then
    { b with mainDeck := cardId :: b.mainDeck.filter (· ≠ cardId) } else b

def addInstanceCard (playerId cardId : String) (b : Board) : Board :=
  { b with parties := b.parties.modify playerId (Party.addInstanceCard cardId) }

def removeInstanceCard (playerId cardId : String) (b : Board) : Board :=
  { b with parties := b.parties.modify playerId (Party.removeInstanceCard cardId) }

def increaseActionPoints (playerId : String) (amount : Int) (b : Board) : Board :=
  { b with players := b.players.modify playerId (Player.increaseActionPoints amount) }

def decreaseActionPoints (playerId : String) (amount : Int) (b : Board) : Board :=
  { b with players := b.players.modify playerId (Player.decreaseActionPoints amount) }

def resetActionPoints (playerId : String) (b : Board) : Board :=
  { b with players := b.players.modify playerId Player.resetActionPoints }

def addEffect (effect : Effect) (b : Board) : Board :=
  { b with players := b.players.modify effect.ownerId (Player.addEffect effect) }

def removeEffect (playerId : String) (effectId : Nat) (b : Board) : Board :=
  { b with players := b.players.modify playerId (Player.removeEffect effectId) }

def modifyParty (playerId : String) (f : Party → Party) (b : Board) : Board :=
  { b with parties := b.parties.modify playerId f }

def markAbilityUsed (cardId : String) (b : Board) : Board :=
  { b with abilitiesUsedThisTurn := b.abilitiesUsedThisTurn ++ [cardId] }

def clearUsedAbilities (b : Board) : Board := { b with abilitiesUsedThisTurn := [] }

def markCardChallenged (cardId : String) (b : Board) : Board :=
  { b with cardsChallengedThisTurn := b.cardsChallengedThisTurn ++ [cardId] }

def clearChallengedCards (b : Board) : Board := { b with cardsChallengedThisTurn := [] }

/-! ### Shuffling and drawing -/

/-- The swap of two places of an array, `[a[i], a[j]] = [a[j], a[i]]`. -/
def swap (l : List String) (i j : Nat) : List String :=
  match l[i]?, l[j]? with
  | some a, some b => (l.set i b).set j a
  | _, _ => l

/-- Fisher-Yates from place `i` down, each place swapped with one at or before it:
`CardStack.shuffle`. `rng` is the stream of random numbers, read from `at_` on. -/
def shuffleFrom (rng : Nat → Nat) (at_ : Nat) : Nat → List String → List String
  | 0, l => l
  | i + 1, l => shuffleFrom rng (at_ + 1) i (swap l (i + 1) (rng at_ % (i + 2)))

/-- `CardStack.shuffle`. -/
def shuffle (rng : Nat → Nat) (at_ : Nat) (l : List String) : List String :=
  shuffleFrom rng at_ (l.length - 1) l

/-- The half of `drawFromMainDeck` that refills an empty deck from the discard pile. Every
discarded card is picked and put at the bottom, then the deck is shuffled. -/
def refillMainDeck (rng : Nat → Nat) (at_ : Nat) (b : Board) : Board :=
  if b.mainDeck = [] then
    { b with mainDeck := shuffle rng at_ b.discardPile, discardPile := [] } else b

/-- `drawFromMainDeck`: the only way off the top of the main deck. The deck is refilled as soon as
its last card is taken; nothing comes out of a deck that was already empty. -/
def drawFromMainDeck (rng : Nat → Nat) (at_ : Nat) (b : Board) : Option String × Board :=
  (b.mainDeck.head?, ({ b with mainDeck := b.mainDeck.tail } : Board).refillMainDeck rng at_)

/-- The board half of `drawIntoHand`: deck to hand, `none` when there was nothing to draw. -/
def drawIntoHand (rng : Nat → Nat) (at_ : Nat) (playerId : String) (b : Board) :
    Option String × Board :=
  match b.drawFromMainDeck rng at_ with
  | (none, b') => (none, b')
  | (some cardId, b') => (some cardId, b'.addToHand playerId cardId)

/-- The board half of `drawNamedIntoHand`: a named card out of the deck into a hand. -/
def drawNamedIntoHand (playerId cardId : String) (b : Board) : Board :=
  (b.pickFromMainDeck cardId).addToHand playerId cardId

/-- The board half of `discardFromHand`: hand to discard pile. -/
def discardFromHand (playerId cardId : String) (b : Board) : Board :=
  (b.removeFromHand playerId cardId).addToDiscardPile cardId

/-- A card out of one hand into another, the two doors a pull goes through. -/
def pullCard (fromPlayerId toPlayerId cardId : String) (b : Board) : Board :=
  (b.removeFromHand fromPlayerId cardId).addToHand toPlayerId cardId

/-- The board half of `slayMonster`: out of the row, the next one up, into the party. -/
def slayMonster (cardId playerId : String) (b : Board) : Board :=
  ({ b with
      monsterPile := b.monsterDeck.head?.toList ++ b.monsterPile.filter (· ≠ cardId)
      monsterDeck := b.monsterDeck.tail } : Board).modifyParty playerId (Party.addMonster cardId)

/-! ### Questions about positions -/

/-- The seats in the order they were registered. -/
def seats (b : Board) : List String := b.players.keys

def isSeated (b : Board) (playerId : String) : Bool := b.players.has playerId

/-- `gs.getPlayer(id)?.getHand() ?? []`. -/
def hand (b : Board) (playerId : String) : List String :=
  ((b.players.get? playerId).map Player.hand).getD []

/-- The heroes of a seat's party. -/
def heroIds (b : Board) (playerId : String) : List String :=
  ((b.parties.get? playerId).map Party.heroIds).getD []

/-- The instance pile of a seat's party. -/
def instanceCardIds (b : Board) (playerId : String) : List String :=
  ((b.parties.get? playerId).map Party.instanceCardIds).getD []

/-- `getEquippedItem`: what a hero carries, from the first party it stands in. -/
def getEquippedItem (b : Board) (heroId : String) : Option String :=
  match b.parties.values.find? fun party => party.heroIds.contains heroId with
  | some party => party.getEquippedItem heroId
  | none => none

/-- `getItemCarrier`: the first hero in a party that carries the item. -/
def getItemCarrier (b : Board) (itemId : String) : Option String :=
  b.parties.values.findSome? fun party =>
    party.heroIds.find? fun heroId => party.getEquippedItem heroId = some itemId

/-- Whether a seat holds the card anywhere, in the order `getCardOwner` looks. -/
def holds (b : Board) (playerId : String) (player : Player) (cardId : String) : Bool :=
  player.hand.contains cardId ||
    match b.parties.get? playerId with
    | none => false
    | some party =>
      party.leaderId == cardId || party.heroIds.contains cardId ||
        party.heroIds.any (fun heroId => party.getEquippedItem heroId = some cardId) ||
        party.monsterIds.contains cardId || party.instanceCardIds.contains cardId

/-- `getCardOwner`: the first seat that holds the card, in a hand or in its party. -/
def getCardOwner (b : Board) (cardId : String) : Option String :=
  (b.players.entries.find? fun e => b.holds e.1 e.2 cardId).map Prod.fst

/-- `GameState.unequipItem`: the slot of the seat that owns the hero is emptied. -/
def unequipItem (heroId : String) (b : Board) : Board :=
  match b.getCardOwner heroId with
  | none => b
  | some ownerId => b.modifyParty ownerId (Party.unequipItem heroId)

/-! ### Questions about effects -/

/-- `GameState.getEffects`: the effects of a type on a player that apply to the roll asked about.
An effect that names a card or a kind of roll applies only when the caller asks about it. -/
def getEffects (b : Board) (type : PassiveType) (playerId : String)
    (cardId : Option String := none) (rollContext : Option RollContext := none) : List Effect :=
  (((b.players.get? playerId).map (Player.getEffects type)).getD []).filter fun effect =>
    (effect.cardId.isNone || effect.cardId == cardId) &&
      (effect.rollContext.isNone || effect.rollContext == rollContext)

def hasEffect (b : Board) (type : PassiveType) (playerId : String) : Bool :=
  ((b.players.get? playerId).map (Player.hasEffect type)).getD false

/-- `counterBonusesFor`: what the target gets back when somebody else modifies its roll. -/
def counterBonusesFor (b : Board) (targetPlayerId byPlayerId : String) : List RollBonus :=
  if byPlayerId = targetPlayerId then []
  else (b.getEffects .modifierCounterBonus targetPlayerId).map Effect.toBonus

/-- `canUseHeroEffect`: no effect seals the hero. -/
def canUseHeroEffect (b : Board) (playerId heroId : String) : Bool :=
  (b.getEffects .cantUseHeroEffect playerId (some heroId)).isEmpty

/-- `canBeDestroyed`: nothing shields the hero in the party of its owner. -/
def canBeDestroyed (b : Board) (heroId : String) : Bool :=
  match b.getCardOwner heroId with
  | none => true
  | some ownerId => (b.getEffects .cantBeDestroyed ownerId (some heroId)).isEmpty

section Cards
variable (cards : Cards)

/-- `canBeChallenged`: no effect of the player protects cards of this type. -/
def canBeChallenged (b : Board) (playerId cardId : String) : Bool :=
  match cards.get? cardId with
  | none => true
  | some card =>
    !((((b.players.get? playerId).map (Player.getEffects .cantBeChallenged)).getD []).any
      fun effect => match effect.cardTypes with
        | none => true
        | some types => types.contains card.getType)

/-- `getHeroClass`: the class a mask grants, else the printed one. -/
def getHeroClass (b : Board) (heroId : String) : Option HeroClass :=
  match (cards.get? heroId).map Card.data with
  | some (.hero heroClass _) =>
    match ((b.getEquippedItem heroId).bind cards.get?).map Card.data with
    | some (.item _ (some masked)) => some masked
    | _ => some heroClass
  | _ => none

/-- `getLeaderClass`. -/
def getLeaderClass (b : Board) (playerId : String) : Option HeroClass :=
  match ((b.parties.get? playerId).bind fun party => cards.get? party.leaderId).map Card.data with
  | some (.leader heroClass) => some heroClass
  | _ => none

/-- `getHeroClasses`: one class per hero of the party. -/
def getHeroClasses (b : Board) (playerId : String) : List HeroClass :=
  (b.heroIds playerId).filterMap fun heroId => b.getHeroClass cards heroId

/-- `getPartyClasses`: the leader's class, then the heroes'. -/
def getPartyClasses (b : Board) (playerId : String) : List HeroClass :=
  (b.getLeaderClass cards playerId).toList ++ b.getHeroClasses cards playerId

/-- `canAttackMonster`: face up, and the party fields what the monster asks for. -/
def canAttackMonster (b : Board) (playerId monsterId : String) : RequestResult :=
  if monsterId ∈ b.monsterPile then
    match (cards.get? monsterId).map Card.data with
    | some (.monster data) =>
      if data.canBeAttackedBy (b.getHeroClasses cards playerId) (b.getLeaderClass cards playerId)
      then .accepted else .refused .partyRequirementUnmet
    | _ => .refused .monsterNotInRow
  else .refused .monsterNotInRow

end Cards

/-- `requirePlayer`: throws on an id the table never seated. -/
def requirePlayer (b : Board) (playerId : String) : Except EngineError Player :=
  match b.players.get? playerId with
  | some player => .ok player
  | none => .error (.thrown s!"{playerId} is not seated at this game")

/-- `getParty`: throws when the player has none. -/
def getParty (b : Board) (playerId : String) : Except EngineError Party :=
  match b.parties.get? playerId with
  | some party => .ok party
  | none => .error (.thrown s!"Party not found for player {playerId}")

end Board

end HereToSlaughter
