import HereToSlaughter.Model.Run

/-!
# What a seat is shown

`playerView`, the projection of a game to one seat's screen. A face-up card is shown with its data,
a face-down zone is counted; of an open window a seat sees the detail when the window is the table's
business or its own question.

Reference: `shared/src/views.ts`, `views/player-view.ts`, `getDetail` of the windows.
-/

namespace HereToSlaughter

open Lib

/-! ## The contract -/

/-- `EffectView`: everything but the lifetime. -/
structure EffectView where
  id : Nat
  sourceCardId : String
  type : PassiveType
  value : Option Int
  cardId : Option String
  rollContext : Option RollContext
  cardTypes : Option (List CardType)

/-- `SeatView`. -/
structure SeatView where
  playerId : String
  name : String
  seat : Nat
  isCurrentTurn : Bool
  actionPoints : Int
  handCount : Nat
  effects : List EffectView

/-- `HeroInPlayView`. -/
structure HeroInPlayView where
  card : Card
  equippedItem : Option Card
  canRollOn : Bool

/-- `PartyView`. -/
structure PartyView where
  playerId : String
  leader : Card
  heroes : List HeroInPlayView
  monsters : List Card
  instanceCards : List Card
  canRollOnLeader : Bool

/-- `getDetail` of a roll window: the roll as it stands, and what it is about. -/
structure RollDetail where
  rollerId : String
  baseRoll : Int
  bonuses : List RollBonus
  finalRoll : JsNumber
  passedBy : List String
  targets : List (String × Zone)
  subject : RollSubject

/-- `getDetail` of a challenge window. -/
structure ChallengeDetail where
  defenderId : String
  cardId : String
  challengeable : Bool
  challenged : Bool
  challengerId : Option String
  challengerRoll : Int
  challengedRoll : Int
  challengerBonuses : List RollBonus
  challengedBonuses : List RollBonus
  passedBy : List String

/-- `getDetail` of a choice: what it announced as it opened. -/
structure ChoiceDetail where
  sourceCardId : Option String
  question : Option String
  bias : Option ValueBias := none
  confirms : Option String := none

/-- The `detail` of a window, by class. -/
inductive WindowDetail
  | roll (detail : RollDetail)
  | challenge (detail : ChallengeDetail)
  | choice (detail : ChoiceDetail)

/-- `PendingWindowView`. -/
structure PendingWindowView where
  windowId : Nat
  optional : Bool
  canPass : Bool
  type : ReactionWindowType
  respondentId : String
  cardId : Option String
  options : Option (List Pick)
  optionCards : Option (List Card)
  detail : Option WindowDetail
  deadline : Nat
  isYours : Bool

/-- `TurnClockView`: a deadline while the clock runs, what is left of the turn while it is held. -/
structure TurnClockView where
  turnTimeMs : Nat
  deadline : Option Int := none
  heldMs : Option Int := none

/-- `PlayerView`. -/
structure PlayerView where
  playerId : String
  seats : List SeatView
  currentPlayerId : Option String
  phase : GamePhase
  winnerId : Option String
  hand : List Card
  parties : List PartyView
  mainDeckCount : Nat
  monsterDeckCount : Nat
  discardPile : List Card
  revealedCards : List Card
  revealedBy : Option String
  revealedOf : Option String
  monsterRow : List Card
  attackableMonsterIds : List String
  passiveCardIds : List String
  pendingWindows : List PendingWindowView
  turnClock : Option TurnClockView
  busy : Bool

/-! ## The details of a window -/

/-- `GameState.getRevealed`. -/
def GameState.getRevealed (gs : GameState) (playerId : String) : List String :=
  (gs.revealed.get? playerId).getD []

/-- `GameState.getRevealSource`. -/
def GameState.getRevealSource (gs : GameState) (playerId : String) : Option RevealSource :=
  gs.revealSources.get? playerId

/-- The seat a pick belongs to: itself, or the owner of the card. -/
def Board.seatOfPick (b : Board) : Pick → Option String
  | .num _ => none
  | .id pick => if b.isSeated pick then some pick else b.getCardOwner pick

/-- `targetSeats`: whom a roll is aimed at, each seat and zone once. -/
def RollBody.targetSeats (b : Board) (body : RollBody) : List (String × Zone) :=
  (body.targets.values.flatMap fun (picks, zone) =>
    (picks.filterMap b.seatOfPick).map fun playerId => (playerId, zone)).foldl
      (fun seats seat => if seat ∈ seats then seats else seats ++ [seat]) []

/-- `getDetail` of a roll. -/
def RollBody.detail (b : Board) (rollerId : String) (body : RollBody) : RollDetail where
  rollerId := rollerId
  baseRoll := body.baseRoll
  bonuses := body.bonuses
  finalRoll := body.getFinalRoll
  passedBy := body.passes
  targets := body.targetSeats b
  subject := body.subject

/-- `getDetail` of a challenge. -/
def ChallengeBody.detail (defenderId : String) (body : ChallengeBody) : ChallengeDetail where
  defenderId := defenderId
  cardId := body.cardId
  challengeable := 0 < body.clockMs
  challenged := body.challenged
  challengerId := body.challengerId
  challengerRoll := body.challengerRoll
  challengedRoll := body.challengedRoll
  challengerBonuses := body.challengerBonuses
  challengedBonuses := body.challengedBonuses
  passedBy := body.passes

/-- `getDetail` of a choice. -/
def ChoiceBody.detail (body : ChoiceBody) : ChoiceDetail :=
  match body.kind with
  | .value bias =>
    { sourceCardId := body.sourceCardId, question := body.question, bias := some bias }
  | .task question =>
    { sourceCardId := some question.sourceCardId, question := question.question
      confirms := question.confirms }
  | _ => { sourceCardId := body.sourceCardId, question := body.question }

/-- `getDetail`. -/
def Window.detail (b : Board) (w : Window) : WindowDetail :=
  match w.body with
  | .roll body => .roll (body.detail b w.respondentId)
  | .challenge body => .challenge (body.detail w.respondentId)
  | .choice body => .choice body.detail

/-- `TABLE_WINDOWS`: a roll or a challenge is watched by the whole table. -/
def TABLE_WINDOWS : List ReactionWindowType := [.challenge, .modifier, .attack]

/-- `optionCards`: the card options of a window as printed data; none when it offers no cards. -/
def optionCards (cards : Cards) (w : Window) : Option (List Card) :=
  match w.options.filterMap fun
    | .id cardId => cards.get? cardId
    | .num _ => none with
  | [] => none
  | offered => some offered

/-- `pendingWindowView`. -/
def pendingWindowView (cards : Cards) (b : Board) (playerId : String) (w : Window) :
    PendingWindowView :=
  let isYours := w.respondentId = playerId
  { windowId := w.id
    optional := w.isOptional
    canPass := w.isPassable && w.canPass playerId
    type := w.getType
    respondentId := w.respondentId
    cardId := w.subjectCardId
    options := if isYours then some w.options else none
    optionCards := if isYours then optionCards cards w else none
    detail := if isYours ∨ w.getType ∈ TABLE_WINDOWS then some (w.detail b) else none
    deadline := w.deadline
    isYours }

/-! ## The view -/

section
variable (T : Table)

/-- `cardOf`: throws on an id the game was never dealt. -/
def cardOf (cardId : String) : Except EngineError Card :=
  match T.cards.get? cardId with
  | some card => .ok card
  | none => .error (.thrown (s!"playerView: no card registered as {cardId} — a zone is holding " ++
    "an id the game was never dealt."))

/-- `effectView`. -/
def effectView (effect : Effect) : EffectView where
  id := effect.id
  sourceCardId := effect.sourceCardId
  type := effect.type
  value := effect.value
  cardId := effect.cardId
  rollContext := effect.rollContext
  cardTypes := effect.cardTypes

/-- `seatView`. -/
def seatView (b : Board) (playerId : String) (seat : Nat) : Except EngineError SeatView := do
  let player ← b.requirePlayer playerId
  return { playerId, name := player.name, seat
           isCurrentTurn := b.currentPlayerId = some playerId
           actionPoints := player.actionPoints, handCount := player.hand.length
           effects := player.effects.map effectView }

/-- A hero of a party, as `partyView` shows it. -/
def heroInPlayView (b : Board) (playerId : String) (party : Party) (heroId : String) :
    Except EngineError HeroInPlayView := do
  return { card := ← cardOf T heroId
           equippedItem := ← (party.getEquippedItem heroId).mapM (cardOf T)
           canRollOn := heroId ∉ b.abilitiesUsedThisTurn && b.canUseHeroEffect playerId heroId }

/-- `partyView`. -/
def partyView (b : Board) (playerId : String) : Except EngineError PartyView := do
  let party ← b.getParty playerId
  return { playerId
           leader := ← cardOf T party.leaderId
           heroes := ← party.heroIds.mapM (heroInPlayView T b playerId party)
           monsters := ← party.monsterIds.mapM (cardOf T)
           instanceCards := ← party.instanceCardIds.mapM (cardOf T)
           canRollOnLeader :=
             isActivatable party.leaderId && party.leaderId ∉ b.abilitiesUsedThisTurn }

/-- What a party has of standing rules: its leader's, when it is not activated, and those its slain
monsters were won for. -/
def Party.standing (party : Party) : List String :=
  (if !isActivatable party.leaderId && hasStandingRule party.leaderId then [party.leaderId]
    else []) ++ party.monsterIds.filter hasStandingRule

/-- `passiveCardIds`: every card whose rule works with nobody playing anything, each once. -/
def passiveCardIds (b : Board) (playerOrder : List String) : Except EngineError (List String) := do
  let parties ← playerOrder.mapM b.getParty
  let effects := b.players.values.flatMap fun player => player.effects.map Effect.sourceCardId
  return (effects ++ parties.flatMap Party.standing).foldl
    (fun ids cardId => if cardId ∈ ids then ids else ids ++ [cardId]) []

/-- `turnClockView`: absent on a table without a clock. -/
def turnClockView (w : World) : Option TurnClockView :=
  match T.config.turnTimeMs, w.turnManager.getRemainingMs w.now with
  | some turnTimeMs, some remainingMs =>
    match w.turnManager.getTurnDeadline with
    | none => some { turnTimeMs, heldMs := some remainingMs }
    | some deadline => some { turnTimeMs, deadline := some deadline }
  | _, _ => none

/-- `revealCaption`: whose look a seat is being shown; nothing when it is shown nothing. -/
def revealCaption (gs : GameState) (playerId : String) : Option String × Option String :=
  match gs.getRevealSource playerId with
  | none => (none, none)
  | some source =>
    if gs.getRevealed playerId = [] then (none, none)
    else (some source.byPlayerId, source.ofPlayerId.filter (· ≠ ""))

/-- `playerView`: throws on an id the table never seated. -/
def playerView (w : World) (playerId : String) : Except EngineError PlayerView := do
  let b := w.gs.board
  match b.players.get? playerId with
  | none =>
    .error (.thrown (s!"playerView: {playerId} is not seated at this game — there is no screen " ++
      "to draw for a player who is not playing."))
  | some you =>
    return { playerId
             seats := ← w.playerOrder.zipIdx.mapM fun (seatId, seat) => seatView b seatId seat
             currentPlayerId := b.currentPlayerId
             phase := b.gamePhase
             winnerId := b.winnerId
             hand := ← you.hand.mapM (cardOf T)
             parties := ← w.playerOrder.mapM (partyView T b)
             mainDeckCount := b.mainDeck.length
             monsterDeckCount := b.monsterDeck.length
             discardPile := ← b.discardPile.mapM (cardOf T)
             revealedCards := ← (w.gs.getRevealed playerId).mapM (cardOf T)
             revealedBy := (revealCaption w.gs playerId).1
             revealedOf := (revealCaption w.gs playerId).2
             monsterRow := ← b.monsterPile.mapM (cardOf T)
             attackableMonsterIds := b.monsterPile.filter fun monsterId =>
               (b.canAttackMonster T.cards playerId monsterId).isAccepted
             passiveCardIds := ← passiveCardIds b w.playerOrder
             pendingWindows := w.gs.openWindows.map (pendingWindowView T.cards b playerId)
             turnClock := turnClockView T w
             busy := w.gs.isBusy }

end

end HereToSlaughter
