import HereToSlaughter.Model.Registry
import HereToSlaughter.Model.Tasks

/-!
# Actions and reactions

What a player may ask for. An action is checked and paid for by whoever's turn it is and runs the
mechanic it shares with a task; a reaction spends a card into a window that is open and announces
it, and what the card is worth is its own entry in the registry.

Reference: `actions/*.ts`, `reactions/play-{modifier,challenge}-reaction.ts`.
-/

namespace HereToSlaughter

open EngineM

/-! ## Actions -/

/-- `getCost`. -/
def ActionKind.cost : ActionKind → Int
  | .drawCard | .playHero _ | .playItem .. | .playMagic _ | .rollOnHero _ | .rollOnLeader _ => 1
  | .attackMonster _ => 2
  | .reDraw => 3
  | .endTurn => 0

/-- `isReactable`: refused on a busy board rather than queued. -/
def ActionKind.isReactable : ActionKind → Bool
  | .drawCard | .reDraw | .endTurn => false
  | _ => true

/-- `MAX_HAND_SIZE` of `DrawCardAction`. -/
def MAX_HAND_SIZE : Nat := 10

/-- `hasInHand`: throws on an id the table never seated. -/
def Board.hasInHand (b : Board) (playerId cardId : String) : Except EngineError Bool :=
  return (← b.requirePlayer playerId).hand.contains cardId

/-- `canExecute`, past the price: what each action asks besides. -/
def ActionKind.canExecute (T : Table) (b : Board) (playerId : String) :
    ActionKind → Except EngineError RequestResult
  | .drawCard => do
    if (← b.requirePlayer playerId).hand.length ≥ MAX_HAND_SIZE then return .refused .handFull
    else if b.mainDeck = [] then return .refused .deckEmpty
    else return .accepted
  | .playHero cardId | .playMagic cardId => do
    if ← b.hasInHand playerId cardId then return .accepted else return .refused .cardNotInHand
  | .playItem cardId targetHeroId => do
    if ← b.hasInHand playerId cardId then return canEquip T b playerId cardId targetHeroId
    else return .refused .cardNotInHand
  | .rollOnHero cardId => do
    let party ← b.getParty playerId
    if cardId ∉ party.heroIds then return .refused .heroNotInParty
    else if cardId ∈ b.abilitiesUsedThisTurn then return .refused .abilityAlreadyUsed
    else if b.canUseHeroEffect playerId cardId then return .accepted
    else return .refused .heroEffectSealed
  | .rollOnLeader cardId => do
    let party ← b.getParty playerId
    if party.leaderId ≠ cardId then return .refused .notYourLeader
    else if !isActivatable cardId then return .refused .leaderNotActivatable
    else if cardId ∈ b.abilitiesUsedThisTurn then return .refused .abilityAlreadyUsed
    else return .accepted
  | .attackMonster cardId => return b.canAttackMonster T.cards playerId cardId
  | .reDraw | .endTurn => return .accepted

/-- `IAction.canExecute`: the price first. A pass has none to pay. -/
def Action.canExecute (T : Table) (b : Board) (action : Action) :
    Except EngineError RequestResult := do
  let player ← b.requirePlayer action.playerId
  if action.kind ≠ .endTurn ∧ player.actionPoints < action.kind.cost then
    return .refused .noActionPoints
  else action.kind.canExecute T b action.playerId

section
variable (T : Table) (em : Emit)

/-- The mechanic of an action, past the price. -/
def ActionKind.perform (fuel : Nat) (playerId : String) : ActionKind → EngineM Unit
  | .drawCard => do let _ ← drawCards T em fuel playerId 1
  | .playHero cardId => do let _ ← HereToSlaughter.playHero T em playerId cardId
  | .playItem cardId targetHeroId => do
    let _ ← HereToSlaughter.playItem T em playerId cardId targetHeroId
  | .playMagic cardId => do let _ ← HereToSlaughter.playMagic T em playerId cardId
  | .rollOnHero cardId => do let _ ← HereToSlaughter.rollOnHero T em playerId cardId
  | .rollOnLeader cardId => do
    modifyBoard (Board.markAbilityUsed cardId)
    em (.leaderActivated playerId cardId)
  | .attackMonster cardId => do let _ ← HereToSlaughter.attackMonster T em playerId cardId
  | .reDraw => redrawHand T em fuel playerId
  | .endTurn => pure ()

/-- `IAction.execute`: the price is paid before anything else, and a pass pays all that is left. -/
def Action.execute (fuel : Nat) (action : Action) : EngineM Unit := do
  let price ← if action.kind = .endTurn then getActionPoints action.playerId
    else pure action.kind.cost
  decreaseActionPoints action.playerId price
  action.kind.perform T em fuel action.playerId

end

/-! ## Reactions -/

/-- `PlayModifierReaction.canExecute`. -/
def canPlayModifier (T : Table) (gs : GameState) (playerId cardId : String) (value : Int)
    (targetPlayerId : Option String) : Except EngineError RequestResult := do
  if ← gs.board.hasInHand playerId cardId then
    match (T.cards.get? cardId).map Card.data with
    | some (.modifier values) =>
      if value ∈ values then
        match gs.aimModifier targetPlayerId with
        | .ok _ => return .accepted
        | .error reason => return .refused reason
      else return .refused .valueNotOnCard
    | _ => return .refused .notAModifier
  else return .refused .cardNotInHand

/-- `spendCard`, with a mark of the window's frame the card was spent into. -/
def spendCard (playerId cardId : String) (frameId : Nat) : EngineM Unit := do
  let _ ← requirePlayer playerId
  let _ ← getParty playerId
  let now ← EngineM.now
  mark (.spent playerId cardId frameId (← getGs))
  modifyGs (GameState.spendCard now playerId cardId)

/-- `PlayModifierReaction.execute`: hand to instance pile, then the announcement the card's own
entry triggers on. -/
def playModifier (em : Emit) (playerId cardId : String) (value : Int)
    (targetPlayerId : Option String) : EngineM Unit := do
  let gs ← getGs
  match gs.aimModifier targetPlayerId, gs.findOpenModifiableWindow with
  | .ok target, some (frameId, _) =>
    let windowId := gs.modifierWindowIdFor target
    spendCard playerId cardId frameId
    em (.modifierPlayed playerId cardId target value windowId)
  | _, _ => pure ()

/-- `PlayChallengeReaction.canExecute`. -/
def canPlayChallenge (now : Nat) (gs : GameState) (playerId cardId : String) :
    Except EngineError RequestResult := do
  if ← gs.board.hasInHand playerId cardId then
    match gs.openContest with
    | none => return .refused .noChallengeWindow
    | some (_, w) =>
      match w.body with
      | .challenge body =>
        if w.deadline ≤ now ∨ body.clockMs = 0 then return .refused .noChallengeWindow
        else if body.cardId ∈ gs.board.cardsChallengedThisTurn then
          return .refused .alreadyChallengedThisTurn
        else if body.challenged then return .refused .challengeAlreadyStarted
        else if w.respondentId = playerId then return .refused .cannotChallengeOwnCard
        else return .accepted
      | _ => return .refused .noChallengeWindow
  else return .refused .cardNotInHand

/-- `PlayChallengeReaction.execute`. -/
def playChallenge (em : Emit) (playerId cardId : String) : EngineM Unit := do
  match (← getGs).openContest with
  | none => pure ()
  | some (frameId, w) =>
    match w.subjectCardId with
    | none => pure ()
    | some contested =>
      spendCard playerId cardId frameId
      em (.challengePlayed playerId cardId contested)

end HereToSlaughter
