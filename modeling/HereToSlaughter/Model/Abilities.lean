import HereToSlaughter.Model.Board

/-!
# Ability declarations

What an ability is made of, as data: the context its steps share, the filters a choice is built
from, the steps (`Task`, one constructor per class of `server/src/game/tasks`), and the rules that
start them. A step's behaviour is `Task.execute` (`Model/Tasks.lean`).

Reference: `abilities/ability-context.ts`, `reactions/choice-filters.ts`, `tasks/*.ts`,
`interfaces.ts` (`AbilityTrigger`, `IGameRule`).
-/

namespace HereToSlaughter

open Lib

/-! ## The ability context -/

/-- One element of a choice: a card or player id, an action label, or a number. -/
inductive Pick
  | id (value : String)
  | num (value : Int)
  deriving DecidableEq

/-- `String(choice)`. -/
def Pick.toText : Pick → String
  | .id value => value
  | .num value => toString value

/-- A value on the context: a list of picks, or the scalar a roll leaves there. -/
inductive CtxValue
  | list (picks : List Pick)
  | number (value : JsNumber)
  deriving DecidableEq

/-- The ids among a list of picks. -/
def Pick.ids (picks : List Pick) : List String :=
  picks.filterMap fun pick => match pick with
    | .id value => some value
    | .num _ => none

/-- The numbers among a list of picks. -/
def Pick.nums (picks : List Pick) : List Int :=
  picks.filterMap fun pick => match pick with
    | .id _ => none
    | .num value => some value

/-- A list of ids as a context value. -/
def CtxValue.ids (ids : List String) : CtxValue := .list (ids.map .id)

def CTX_DRAWN_CARD_IDS := "drawnCardIds"
def CTX_STOLEN_HERO_ID := "stolenHeroId"
def CTX_STOLEN_FROM_PLAYER := "stolenFromPlayer"
def CTX_PULLED_CARD_IDS := "pulledCardIds"
def CTX_CHOSEN_CARD := "chosenCard"
def CTX_CHOSEN_PLAYER := "chosenPlayer"
def CTX_DECK_TOP_CARD := "deckTopCard"
def CTX_SOURCE_CARD := "sourceCard"
def CTX_CHOSEN_ITEM := "chosenItem"
def CTX_DISCARDED_CARDS := "discardedCards"
def CTX_ASKED_SEATS := "askedSeats"
def CTX_WOULD_DESTROY := "wouldDestroy"
def CTX_DESTROYED_HERO_ITEM := "destroyedHeroItem"
def CTX_FINAL_ROLL := "finalRoll"
def CTX_CHOSEN_VALUE := "chosenValue"
def CTX_MODIFIER_TARGET := "modifierTarget"

/-- The two answers to the Sabretooth's question. -/
def STEAL_INSTEAD := "Steal it instead"
def DESTROY_ANYWAY := "Destroy it"

/-- The slot a seat's pick lands in when every seat is asked at once. -/
def chosenCardOf (seatId : String) : String := CTX_CHOSEN_CARD ++ "@" ++ seatId

/-- `AbilityContext`: the memory the steps of one pipeline share. -/
structure AbilityContext where
  sourceCardId : String
  ownerId : String
  data : OrderedMap String CtxValue

/-- The constructor of `AbilityContext`, which files the source card in its own slot. -/
def AbilityContext.new (sourceCardId ownerId : String) : AbilityContext where
  sourceCardId := sourceCardId
  ownerId := ownerId
  data := OrderedMap.empty.set CTX_SOURCE_CARD (.ids [sourceCardId])

namespace AbilityContext

def set (key : String) (value : CtxValue) (ctx : AbilityContext) : AbilityContext :=
  { ctx with data := ctx.data.set key value }

/-- A slot read as a list of picks; `none` when nothing has written it. The scalar a roll leaves is
no list, and no step reads it as one. -/
def getPicks (ctx : AbilityContext) (key : String) : Option (List Pick) :=
  (ctx.data.get? key).map fun value => match value with
    | .list picks => picks
    | .number _ => []

/-- A slot read as `string[]`. -/
def getIds (ctx : AbilityContext) (key : String) : Option (List String) :=
  (ctx.getPicks key).map Pick.ids

/-- A slot read as `number[]`. -/
def getNums (ctx : AbilityContext) (key : String) : Option (List Int) :=
  (ctx.getPicks key).map Pick.nums

/-- `chosenPlayers`. -/
def chosenPlayers (ctx : AbilityContext) : List String :=
  (ctx.getIds CTX_CHOSEN_PLAYER).getD []

@[simp] theorem set_sourceCardId (key : String) (value : CtxValue) (ctx : AbilityContext) :
    (ctx.set key value).sourceCardId = ctx.sourceCardId := rfl

@[simp] theorem set_ownerId (key : String) (value : CtxValue) (ctx : AbilityContext) :
    (ctx.set key value).ownerId = ctx.ownerId := rfl

end AbilityContext

/-- What a continuation needs in its fresh context, in order: `ctxSeed`. -/
abbrev CtxSeed := List (String × CtxValue)

/-- `carriedSeat`: the chosen seat as a context seed, nothing when no seat was chosen. -/
def carriedSeat (ctx : AbilityContext) : CtxSeed :=
  match ctx.chosenPlayers with
  | [] => []
  | chosen => [(CTX_CHOSEN_PLAYER, .ids chosen)]

/-! ## Filters -/

/-- Who a step runs as: the ability owner or the chosen seat. -/
inductive Executor
  | owner | chosen
  deriving DecidableEq

/-- `executorOf`: the player a step runs as; nobody when the slot is empty. An id that is the
empty string is nobody too, as a pile monster's owner is. -/
def executorOf (ctx : AbilityContext) (executor : Executor) : Option String :=
  match executor with
  | .owner => if ctx.ownerId = "" then none else some ctx.ownerId
  | .chosen => ctx.chosenPlayers.head?

/-- `PlayerFilter`. -/
structure PlayerFilter where
  owner : Owner := .others
  hasHeroes : Bool := false
  hasClass : Option HeroClass := none
  excludeIds : List String := []
  deriving DecidableEq

/-- `CardFilter`. -/
structure CardFilter where
  zone : Zone
  top : Option Nat := none
  among : Option String := none
  excludeKey : Option String := none
  executor : Executor := .owner
  owner : Owner := .all
  cardType : Option CardType := none
  heroClass : Option HeroClass := none
  partyReqMet : Bool := false
  unequipped : Bool := false
  cursed : Option Bool := none
  destroyable : Bool := false
  excludeIds : List String := []
  deriving DecidableEq

/-! ## Steps -/

/-- `ChooseCardOptions`. -/
structure ChooseCardOptions where
  requiresKey : Option String := none
  resultKey : String := CTX_CHOSEN_CARD
  question : Option String := none
  deriving DecidableEq

/-- `ConfirmSpec`. -/
structure ConfirmSpec where
  confirms : String
  question : Option String := none
  subjectKey : Option String := none
  executor : Executor := .owner
  deriving DecidableEq

/-- `ActionChoiceSpec`. The labels are at least two, which the constructor of `ChooseActionTask`
checks; the last one is what silence does. -/
structure ActionChoiceSpec where
  actions : List String
  two_le : 2 ≤ actions.length := by decide
  question : Option String := none
  subjectKey : Option String := none
  executor : Executor := .owner
  asCard : Option String := none
  deriving DecidableEq

/-- The label a silent player picks. -/
def ActionChoiceSpec.silent (spec : ActionChoiceSpec) : String :=
  spec.actions.getLast (List.ne_nil_of_length_pos (Nat.lt_of_lt_of_le (by decide) spec.two_le))

/-- `PullSpec`: whose hands, by a slot or by a filter, and how many from each. -/
structure PullSpec where
  fromKey : String := CTX_CHOSEN_PLAYER
  «from» : Option PlayerFilter := none
  count : Nat := 1
  deriving DecidableEq

/-- `EffectSpec`. -/
structure EffectSpec where
  type : PassiveType
  value : Option Int := none
  rollContext : Option RollContext := none
  cardTypes : Option (List CardType) := none
  expiry : List EffectExpiry := []
  scopedToCarrier : Bool := false
  deriving DecidableEq

/-- What `RevealTask` shows: the cards of a slot, or the cards a filter finds. -/
inductive RevealSubject
  | fromKey (key : String)
  | filter (filter : CardFilter)
  deriving DecidableEq

/-- `RetrieveTo`: whose hand receives the card. -/
inductive RetrieveTo
  | owner | cardOwner
  deriving DecidableEq

/-- One step of an ability: a class of `tasks/` with its constructor arguments. -/
inductive Task
  | draw (count : Int) (executor : Executor := .owner)
  | drawNamed (key : String) (executor : Executor := .owner)
  | returnToDeckTop (key : String)
  | discard (fromKey : String := CTX_CHOSEN_CARD) (executor : Executor := .owner)
  | discardEach
  | tradeHands (fromKey : String := CTX_CHOSEN_PLAYER)
  | pullCard (spec : PullSpec := {})
  | applyEffect (spec : EffectSpec)
  | reveal (subject : RevealSubject) (toAll : Bool)
  | destroy (fromKey : String := CTX_CHOSEN_CARD) (replaceable : Bool := true)
  | sacrificeEach
  | giveHero (heroKey : String := CTX_CHOSEN_CARD) (toKey : String := CTX_CHOSEN_PLAYER)
  | sacrifice (fromKey : String := CTX_CHOSEN_CARD) (executor : Executor := .owner)
  | stealFromParty (fromKey : String := CTX_CHOSEN_CARD)
  | playItem (itemKey : String) (heroKey : String := CTX_CHOSEN_CARD)
  | retrieveCard (fromKey : String := CTX_CHOSEN_CARD) (recipient : RetrieveTo := .owner)
  | retrieveEach
  | returnAllItems
  | playMagic (fromKey : String := CTX_CHOSEN_CARD)
  | disposeInstanceCard
  | applyModifier
  | playHero (fromKey : String := CTX_CHOSEN_CARD)
  | redrawHand
  | rollOnHero (fromKey : Option String := none)
  | targetRoll (key : String) (zone : Zone)
  | gainActionPoints (amount : Int)
  | attackMonster (fromKey : String := CTX_CHOSEN_CARD)
  | startChallenge
  | cardTypeCondition (cardType : CardType) (sourceKey : String) (label : String)
  | choosePlayer (filter : PlayerFilter := {}) (question : Option String := none)
  | chooseCard (filter : CardFilter) (options : ChooseCardOptions := {})
  | chooseCardEach (seats : PlayerFilter) (filter : CardFilter) (question : Option String := none)
  | chooseMonster (question : Option String := none)
  | chooseValue (values : List Int) (question : Option String := none)
  | confirm (spec : ConfirmSpec)
  | chooseAction (spec : ActionChoiceSpec)
  deriving DecidableEq

/-! ## Rules -/

/-- `GameEventType`, the events the engine emits. -/
inductive GameEventType
  | cardDrawn | cardDiscarded | cardRemovedFromHand | cardPulled | magicPlayed | modifierPlayed
  | challengePlayed | heroAddedToParty | heroSacrificed | heroDestroyed | heroStolen
  | heroRemovedFromParty | monsterSlain | monsterFoughtBack | turnStarted | turnEnded
  | itemEquippedToHero | itemUnequipped | cardRetrieved | handsTraded | cardsRevealed
  | revealEnded | gameStarted | gameEnded | diceRolled | rollPassing | rollSuccess
  | leaderActivated | rollFailed | effectApplied | effectExpired | abilityDone | frameResolved
  | taskConfirmed | conditionMet | reactionWindowOpened | reactionWindowClosed | modifierApplied
  | challengeStarted | challengeResolved
  deriving DecidableEq

/-- `AbilityTrigger`: when an ability runs. -/
structure AbilityTrigger where
  on : GameEventType
  scope : TriggerScope
  when_ : Option String := none
  deriving DecidableEq

/-- `IGameRule`: when something runs and what it runs. -/
structure GameRule where
  trigger : AbilityTrigger
  steps : List Task
  deriving DecidableEq

/-- The tables the task manager matches events against: the ability registry by card id, the
rules every hero in a party holds and the rules every card of an instance pile holds. -/
structure Rules where
  abilities : String → List GameRule
  heroRules : List GameRule
  instanceRules : List GameRule

end HereToSlaughter
