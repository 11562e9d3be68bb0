import HereToSlaughter.Model.WindowBehaviour
import HereToSlaughter.Model.Filters

/-!
# Steps

The mechanics the two pipelines share (`Draw`, `PlayHero`, `PlayItem`, `PlayMagic`, `RollOnHero`,
`AttackMonster`, `RedrawHand`) and the `execute` of every class of `tasks/`, gathered in
`Task.execute`. A step runs with the context of its pipeline, returns it as the step leaves it, and
names the frame it suspended on, if any.

A slot that no step ahead has written is an error of the declaration, and the step throws
(`requireSlot`); a slot that is there and empty means a step ahead ran and produced nothing, and
the step skips.

Reference: `tasks/*.ts`.
-/

namespace HereToSlaughter

open EngineM

/-- What a step returns: its context, and the frame it suspended on. -/
abbrev StepResult := AbilityContext × Option Nat

/-- A slot that some step ahead must have written, or the step throws its `message`. -/
def requireSlot (ctx : AbilityContext) (key message : String) : EngineM (List String) :=
  match ctx.getIds key with
  | some ids => pure ids
  | none => fail message

/-- Run a program on every element of a list and keep what it returns. -/
def collect {α β : Type} (act : α → EngineM (Option β)) : List α → EngineM (List β)
  | [] => pure []
  | a :: rest => do
    let found ← act a
    let others ← collect act rest
    return found.toList ++ others

section
variable (T : Table) (em : Emit)

/-! ## The shared mechanics -/

/-- The loop of `drawCards` for a positive count: that many, or until the deck gives nothing. -/
def drawUpTo (playerId : String) : Nat → EngineM (List String)
  | 0 => pure []
  | n + 1 => do
    match ← drawIntoHand em T.rng playerId with
    | none => return []
    | some cardId => return cardId :: (← drawUpTo playerId n)

/-- The loop of `drawCards` for a negative count: until the hand holds `size` cards. -/
def drawUntil (playerId : String) (size : Int) : Nat → EngineM (List String)
  | 0 => throw .outOfFuel
  | fuel + 1 => do
    if ((← getGs).board.hand playerId).length < size then
      match ← drawIntoHand em T.rng playerId with
      | none => return []
      | some cardId => return cardId :: (← drawUntil playerId size fuel)
    else return []

/-- `Draw.drawCards`: a negative count draws until the hand holds that many. -/
def drawCards (fuel : Nat) (playerId : String) (count : Int) : EngineM (List String) :=
  if 0 ≤ count then drawUpTo T em playerId count.toNat
  else drawUntil T em playerId (-count) fuel

/-- The last statement of a play: the challenge window over the frame, which the play returns. -/
def openContestOver (frameId : Nat) (playerId cardId : String) : EngineM (Option Nat) := do
  openChallenge T em frameId playerId cardId
  return some frameId

/-- `PlayHero.playHero`: hand, party, challenge window. The card leaves the hand before the frame
opens and joins the party inside it. -/
def playHero (playerId cardId : String) : EngineM (Option Nat) := do
  if (← getGs).board.isSeated playerId then
    removeFromHand playerId cardId
    em (.cardRemovedFromHand playerId cardId)
    let frameId ← openFrame
    addHero em playerId cardId "Played"
    openContestOver T em frameId playerId cardId
  else return none

/-- `PlayMagic.playMagic`: hand, instance pile, challenge window. -/
def playMagic (playerId cardId : String) : EngineM (Option Nat) := do
  if (← getGs).board.isSeated playerId then
    removeFromHand playerId cardId
    em (.cardRemovedFromHand playerId cardId)
    let frameId ← openFrame
    partyDoor playerId (Party.addInstanceCard cardId)
    em (.magicPlayed playerId cardId)
    openContestOver T em frameId playerId cardId
  else return none

/-- `GameState.equipItem`: into the slot of whoever owns the hero, nothing when nobody does. -/
def equipItem (heroId itemId : String) : EngineM Unit := do
  match (← getGs).board.getCardOwner heroId with
  | none => pure ()
  | some ownerId =>
    let _ ← getParty ownerId
    mark (.equipped ownerId heroId itemId (← getGs))
    modifyBoard (Board.modifyParty ownerId (Party.equipItem heroId itemId))

/-- `PlayItem.playItem`: hand, hero's slot, challenge window. Throws on an occupied hero. -/
def playItem (playerId itemId heroId : String) : EngineM (Option Nat) := do
  let b := (← getGs).board
  if b.isSeated playerId && (b.getCardOwner heroId).isSome then
    match b.getEquippedItem heroId with
    | some worn =>
      fail (s!"playItem: {heroId} already carries {worn} — a hero holds one item and " ++
        "equipping does not replace it. canEquip refuses this.")
    | none =>
      removeFromHand playerId itemId
      em (.cardRemovedFromHand playerId itemId)
      let frameId ← openFrame
      equipItem heroId itemId
      em (.itemEquippedToHero playerId itemId heroId)
      openContestOver T em frameId playerId itemId
  else return none

/-- `PlayItem.canEquip`: a plain item goes on a hero of one's own, a cursed one on an enemy's, and
either only on a hero that carries nothing. -/
def canEquip (b : Board) (playerId itemId heroId : String) : RequestResult :=
  match (T.cards.get? itemId).map Card.data with
  | some (.item cursed _) =>
    if !isHero T.cards heroId then .refused .notAHero
    else match b.getCardOwner heroId with
      | none => .refused .heroNotInParty
      | some heroOwnerId =>
        if cursed && heroOwnerId = playerId then .refused .notAnEnemyHero
        else if !cursed && heroOwnerId ≠ playerId then .refused .notYourHero
        else if (b.getEquippedItem heroId).isSome then .refused .heroAlreadyEquipped
        else .accepted
  | _ => .refused .notAnItem

/-- `RollOnHero.rollOnHero`: dice, then the modifier window. The slot is marked used before the
frame opens, so a failed roll keeps it spent. -/
def rollOnHero (playerId heroId : String) : EngineM (Option Nat) := do
  match (T.cards.get? heroId).map Card.data with
  | some (.hero _ rollReq) =>
    let baseRoll ← roll2Dice T.rng
    em (.diceRolled playerId heroId baseRoll)
    modifyBoard (Board.markAbilityUsed heroId)
    let frameId ← openFrame
    openRoll T em frameId playerId (.hero rollReq heroId) baseRoll
    return some frameId
  | _ => return none

/-- `AttackMonster.attackMonster`: dice, then the attack window. -/
def attackMonster (playerId monsterId : String) : EngineM (Option Nat) := do
  match (T.cards.get? monsterId).map Card.data with
  | some (.monster _) =>
    let baseRoll ← roll2Dice T.rng
    em (.diceRolled playerId monsterId baseRoll)
    let frameId ← openFrame
    openRoll T em frameId playerId (.monster monsterId) baseRoll
    return some frameId
  | _ => return none

/-- `RedrawHand.redrawHand`: every card discarded, then draw until five are held. -/
def redrawHand (fuel : Nat) (playerId : String) : EngineM Unit := do
  let b := (← getGs).board
  if b.isSeated playerId then
    forEach (discardFromHand em playerId) (b.hand playerId)
    let _ ← drawCards T em fuel playerId (-5)
  else pure ()

/-! ## Cards in hands and decks -/

/-- `DrawTask` with a number. -/
def drawTask (fuel : Nat) (ctx : AbilityContext) (count : Int) (executor : Executor) :
    EngineM StepResult := do
  match (executorOf ctx executor).filter (← getGs).board.isSeated with
  | none => return (ctx, none)
  | some playerId =>
    let drawn ← drawCards T em fuel playerId count
    return (ctx.set CTX_DRAWN_CARD_IDS (.ids drawn), none)

/-- `DrawTask` with the name of a slot: the cards it names, wherever they lie in the deck. -/
def drawNamedTask (ctx : AbilityContext) (key : String) (executor : Executor) :
    EngineM StepResult := do
  match (executorOf ctx executor).filter (← getGs).board.isSeated with
  | none => return (ctx, none)
  | some playerId =>
    let drawn ← collect (fun cardId => do
      if ← drawNamedIntoHand em playerId cardId then return some cardId else return none)
      ((ctx.getIds key).getD [])
    return (ctx.set CTX_DRAWN_CARD_IDS (.ids drawn), none)

/-- `ReturnToDeckTopTask`. -/
def returnToDeckTopTask (ctx : AbilityContext) (key : String) : EngineM StepResult := do
  match (ctx.getIds key).bind List.head? with
  | none => return (ctx, none)
  | some cardId =>
    modifyBoard (Board.moveToMainDeckTop cardId)
    return (ctx, none)

/-- `DiscardTask`. -/
def discardTask (ctx : AbilityContext) (fromKey : String) (executor : Executor) :
    EngineM StepResult := do
  let cards ← requireSlot ctx fromKey
    s!"DiscardTask: nothing has written {fromKey} — expected a preceding step to supply a card."
  let ctx := ctx.set CTX_DISCARDED_CARDS (.ids [])
  match cards.head?, executorOf ctx executor with
  | some cardId, some executorId =>
    if cardId ∈ (← getGs).board.hand executorId then
      discardFromHand em executorId cardId
      return (ctx.set CTX_DISCARDED_CARDS (.ids [cardId]), none)
    else return (ctx, none)
  | _, _ => return (ctx, none)

/-- `forEachAskedSeat`: the seats a `ChooseCardEachTask` asked, each with the card it picked, the
ones that picked nothing left out. -/
def askedPicks (ctx : AbilityContext) : EngineM (List (String × String)) := do
  let seats ← requireSlot ctx CTX_ASKED_SEATS
    ("forEachAskedSeat: nothing has written the asked seats — a ChooseCardEachTask belongs " ++
      "before this step.")
  return seats.filterMap fun seatId =>
    ((ctx.getIds (chosenCardOf seatId)).bind List.head?).map fun cardId => (seatId, cardId)

/-- `DiscardEachTask`. -/
def discardEachTask (ctx : AbilityContext) : EngineM StepResult := do
  let asked ← askedPicks ctx
  let discarded ← collect (fun (seatId, cardId) => do
    if cardId ∈ (← getGs).board.hand seatId then
      discardFromHand em seatId cardId
      return some cardId
    else return none) asked
  return (ctx.set CTX_DISCARDED_CARDS (.ids discarded), none)

/-- The two doors of a trade, card by card. -/
def tradeHands (b : Board) (ownerId otherId : String) : Board :=
  let mine := b.hand ownerId
  let theirs := b.hand otherId
  theirs.foldl (fun b cardId => b.pullCard otherId ownerId cardId)
    (mine.foldl (fun b cardId => b.pullCard ownerId otherId cardId) b)

/-- `TradeHandsTask`. -/
def tradeHandsTask (ctx : AbilityContext) (fromKey : String) : EngineM StepResult := do
  let chosen ← requireSlot ctx fromKey
    (s!"TradeHandsTask: nothing has written {fromKey} — the ability is missing a " ++
      "ChoosePlayerTask before this step.")
  match chosen.head? with
  | none => return (ctx, none)
  | some otherId =>
    let b := (← getGs).board
    if otherId ≠ ctx.ownerId ∧ b.isSeated ctx.ownerId ∧ b.isSeated otherId then
      modifyBoard fun b => tradeHands b ctx.ownerId otherId
      em (.handsTraded ctx.ownerId otherId)
      return (ctx, none)
    else return (ctx, none)

/-- `PullCardTask.hands`: the filter's seats, or the one the slot names. -/
def pullHands (ctx : AbilityContext) (spec : PullSpec) : EngineM (List String) := do
  let b := (← getGs).board
  if b.isSeated ctx.ownerId then
    match spec.from with
    | some filter => return filterPlayers T.cards b ctx filter
    | none =>
      let chosen ← requireSlot ctx spec.fromKey
        (s!"PullCardTask: nothing has written {spec.fromKey} — the ability is missing a " ++
          "ChoosePlayerTask before this step.")
      return chosen.head?.toList.filter fun id => id ≠ ctx.ownerId && b.isSeated id
  else return []

/-- The pulls out of one hand, one random card at a time until it is empty. -/
def pullFrom (toPlayerId fromPlayerId : String) : Nat → EngineM (List String)
  | 0 => pure []
  | n + 1 => do
    let hand := (← getGs).board.hand fromPlayerId
    if hand = [] then return []
    else
      let index ← random T.rng hand.length
      match hand[index]? with
      | none => return []
      | some cardId =>
        let _ ← requirePlayer fromPlayerId
        let _ ← requirePlayer toPlayerId
        modifyBoard (Board.pullCard fromPlayerId toPlayerId cardId)
        em (.cardPulled toPlayerId fromPlayerId cardId)
        return cardId :: (← pullFrom toPlayerId fromPlayerId n)

/-- The pulls out of every hand of a list. -/
def pullFromAll (ctx : AbilityContext) (count : Nat) : List String → EngineM (List String)
  | [] => pure []
  | fromPlayerId :: rest => do
    let pulled ← pullFrom T em ctx.ownerId fromPlayerId count
    return pulled ++ (← pullFromAll ctx count rest)

/-- `PullCardTask`. -/
def pullCardTask (ctx : AbilityContext) (spec : PullSpec) : EngineM StepResult := do
  let hands ← pullHands T ctx spec
  let pulled ← pullFromAll T em ctx spec.count hands
  return (ctx.set CTX_PULLED_CARD_IDS (.ids pulled), none)

/-- `RedrawHandTask`. -/
def redrawHandTask (fuel : Nat) (ctx : AbilityContext) : EngineM StepResult := do
  redrawHand T em fuel ctx.ownerId
  return (ctx, none)

/-! ## Effects, points and looks -/

/-- `ApplyEffectTask`. -/
def applyEffectTask (ctx : AbilityContext) (spec : EffectSpec) : EngineM StepResult := do
  let b := (← getGs).board
  let id ← freshId
  let effect : Effect :=
    { id, sourceCardId := ctx.sourceCardId, ownerId := ctx.ownerId, type := spec.type
      value := spec.value, rollContext := spec.rollContext, cardTypes := spec.cardTypes
      cardId := if spec.scopedToCarrier then b.getItemCarrier ctx.sourceCardId else none
      expiry := spec.expiry }
  if b.isSeated ctx.ownerId then
    modifyBoard (Board.addEffect effect)
    em (.effectApplied ctx.ownerId ctx.sourceCardId)
    return (ctx, none)
  else fail (s!"addEffect: no player {ctx.ownerId} — an effect must be installed on a seated " ++
    "player, or nothing will ever sweep or fire it.")

/-- `GainActionPointsTask`. -/
def gainActionPointsTask (ctx : AbilityContext) (amount : Int) : EngineM StepResult := do
  increaseActionPoints ctx.ownerId amount
  return (ctx, none)

/-- `REVEAL_MS`: how long a reveal stays on the view. -/
def REVEAL_MS : Nat := 5000

/-- `RevealTask`. -/
def revealTask (ctx : AbilityContext) (subject : RevealSubject) (toAll : Bool) :
    EngineM StepResult := do
  let b := (← getGs).board
  let cardIds := match subject with
    | .fromKey key => (ctx.getIds key).getD []
    | .filter filter => filterCards T.cards b ctx filter
  if cardIds = [] then return (ctx, none)
  else
    let seats := if toAll then b.seats else [ctx.ownerId]
    let ofPlayerId := match subject with
      | .filter { owner := .chosen, .. } => ctx.chosenPlayers.head?
      | _ => none
    let source : RevealSource := { byPlayerId := ctx.ownerId, ofPlayerId }
    modifyGs fun gs => seats.foldl (fun gs seat => gs.revealTo seat cardIds source) gs
    em (.cardsRevealed ctx.ownerId cardIds toAll)
    modify fun w => { w with
      reveals := w.reveals ++
        [{ ownerId := ctx.ownerId, seats, cardIds, due := w.now + REVEAL_MS }] }
    return (ctx, none)

/-! ## Heroes on the table -/

/-- `decoyTakesTheHit`: the doll comes off and lands on the discard pile, and the hero stays. -/
def decoyTakesTheHit (ownerId heroId : String) : EngineM Bool := do
  let b := (← getGs).board
  match (b.getEffects .takesTheHit ownerId (some heroId)).find? fun effect =>
      b.getEquippedItem heroId = some effect.sourceCardId with
  | none => return false
  | some decoy =>
    modifyBoard (Board.unequipItem heroId)
    em (.itemUnequipped ownerId decoy.sourceCardId heroId)
    modifyBoard (Board.addToDiscardPile decoy.sourceCardId)
    return true

/-- A hero out of its party onto the discard pile, its gear after it. Returns the gear. -/
def heroToDiscard (ownerId heroId reason : String) : EngineM (Option String) := do
  let carried ← removeHero em ownerId heroId reason
  modifyBoard (Board.addToDiscardPile heroId)
  match carried with
  | none => pure ()
  | some itemId => modifyBoard (Board.addToDiscardPile itemId)
  return carried

/-- The seed a question hands to its continuation: its subject and the chosen seat. -/
def questionSeed (ctx : AbilityContext) (subjectKey : Option String) : CtxSeed :=
  (subjectKey.map fun key => (key, CtxValue.list ((ctx.getPicks key).getD []))).toList ++
    carriedSeat ctx

/-- What a question is about: the first card of its subject slot. -/
def questionCard (ctx : AbilityContext) (subjectKey : Option String) : Option String :=
  subjectKey.bind fun key => ((ctx.getIds key).getD []).head?

/-- A question's subject slot is named and holds nothing, so there is nothing to ask about. -/
def nothingToAsk (ctx : AbilityContext) (subjectKey : Option String) : Bool :=
  match subjectKey with
  | none => false
  | some key => (ctx.getPicks key).getD [] = []

/-- Open a frame with one choice over it, and suspend on it. -/
def ask (ctx : AbilityContext) (respondentId : String) (body : ChoiceBody) :
    EngineM StepResult := do
  let frameId ← openFrame
  openChoice T em frameId respondentId body
  return (ctx, some frameId)

/-- The last step of `ConfirmTask` and `ChooseActionTask`: the question asked of its respondent,
nothing when there is nothing to ask about or nobody to ask. -/
def askTask (ctx : AbilityContext) (subjectKey : Option String) (executor : Executor)
    (question : Question) : EngineM StepResult := do
  if nothingToAsk ctx subjectKey then return (ctx, none)
  else match executorOf ctx executor with
    | none => return (ctx, none)
    | some respondentId =>
      ask T em ctx respondentId
        { kind := .task { question with cardId := questionCard ctx subjectKey
                                        ctxSeed := questionSeed ctx subjectKey }
          options := question.options }

/-- `ChooseActionTask`. -/
def chooseActionTask (ctx : AbilityContext) (spec : ActionChoiceSpec) : EngineM StepResult :=
  askTask T em ctx spec.subjectKey spec.executor
    { actions := some spec.actions, silent := some spec.silent, question := spec.question
      sourceCardId := spec.asCard.getD ctx.sourceCardId }

/-- `ConfirmTask`. -/
def confirmTask (ctx : AbilityContext) (spec : ConfirmSpec) : EngineM StepResult :=
  askTask T em ctx spec.subjectKey spec.executor
    { confirms := some spec.confirms, question := spec.question
      sourceCardId := ctx.sourceCardId }

/-- The Sabretooth's question, asked as its own: steal, or destroy as printed. -/
def sabretoothQuestion (sabretooth : String) : ActionChoiceSpec where
  actions := [STEAL_INSTEAD, DESTROY_ANYWAY]
  question := some "Steal it instead of destroying it?"
  subjectKey := some CTX_WOULD_DESTROY
  asCard := some sabretooth

/-- The last statements of `DestroyTask`. -/
def destroyHero (ctx : AbilityContext) (ownerId heroId : String) : EngineM StepResult := do
  let carried ← heroToDiscard em ownerId heroId "Destroyed"
  em (.heroDestroyed ownerId heroId)
  match carried with
  | none => return (ctx, none)
  | some itemId => return (ctx.set CTX_DESTROYED_HERO_ITEM (.ids [itemId]), none)

/-- `DestroyTask`: a hero out of any party. A shielded hero stays, a decoy takes the hit, and the
Sabretooth's owner is asked first. -/
def destroyTask (ctx : AbilityContext) (fromKey : String) (replaceable : Bool) :
    EngineM StepResult := do
  let heroes ← requireSlot ctx fromKey
    s!"DestroyTask: nothing has written {fromKey} — expected a preceding step to supply a hero."
  let ctx := ctx.set CTX_DESTROYED_HERO_ITEM (.ids [])
  let b := (← getGs).board
  match heroes.head?.bind fun heroId =>
      (b.getCardOwner heroId).map fun owner => (heroId, owner) with
  | none => return (ctx, none)
  | some (heroId, ownerId) =>
    if heroId ∉ b.heroIds ownerId ∨ !b.canBeDestroyed heroId then return (ctx, none)
    else if ← decoyTakesTheHit em ownerId heroId then return (ctx, none)
    else
      match ((← getGs).board.getEffects .stealsInsteadOfDestroy ctx.ownerId).head? with
      | none => destroyHero em ctx ownerId heroId
      | some sabretooth =>
        if replaceable && ownerId ≠ ctx.ownerId then
          chooseActionTask T em (ctx.set CTX_WOULD_DESTROY (.ids [heroId]))
            (sabretoothQuestion sabretooth.sourceCardId)
        else destroyHero em ctx ownerId heroId

/-- What a seat's sacrifice of one of its heroes does, for the two tasks that make one. -/
def sacrificeHero (seatId heroId : String) : EngineM Unit := do
  let _ ← getParty seatId
  if heroId ∈ (← getGs).board.heroIds seatId then
    if ← decoyTakesTheHit em seatId heroId then pure ()
    else
      let _ ← heroToDiscard em seatId heroId "Sacrificed"
      em (.heroSacrificed seatId heroId)
  else pure ()

/-- `SacrificeEachTask`. -/
def sacrificeEachTask (ctx : AbilityContext) : EngineM StepResult := do
  let asked ← askedPicks ctx
  forEach (fun (seatId, heroId) => sacrificeHero em seatId heroId) asked
  return (ctx, none)

/-- `SacrificeTask`. -/
def sacrificeTask (ctx : AbilityContext) (fromKey : String) (executor : Executor) :
    EngineM StepResult := do
  let heroes ← requireSlot ctx fromKey
    s!"SacrificeTask: nothing has written {fromKey} — expected a preceding step to supply a hero."
  match heroes.head?, executorOf ctx executor with
  | some heroId, some executorId =>
    sacrificeHero em executorId heroId
    return (ctx, none)
  | _, _ => return (ctx, none)

/-- `GiveHeroTask`. -/
def giveHeroTask (ctx : AbilityContext) (heroKey toKey : String) : EngineM StepResult := do
  let heroes ← requireSlot ctx heroKey
    s!"GiveHeroTask: nothing has written {heroKey} — expected a preceding step to supply it."
  let recipients ← requireSlot ctx toKey
    s!"GiveHeroTask: nothing has written {toKey} — expected a preceding step to supply it."
  match heroes.head?, recipients.head? with
  | some heroId, some toPlayerId =>
    let b := (← getGs).board
    if toPlayerId ≠ ctx.ownerId ∧ b.isSeated toPlayerId ∧ heroId ∈ b.heroIds ctx.ownerId then
      let carried ← removeHero em ctx.ownerId heroId "Given"
      addHero em toPlayerId heroId "Given" carried
      return (ctx, none)
    else return (ctx, none)
  | _, _ => return (ctx, none)

/-- The context of a steal before it happened: nothing stolen, from nobody. -/
def nothingStolen (ctx : AbilityContext) : AbilityContext :=
  (ctx.set CTX_STOLEN_HERO_ID (.ids [])).set CTX_STOLEN_FROM_PLAYER (.ids [])

/-- `StealFromPartyTask`. -/
def stealFromPartyTask (ctx : AbilityContext) (fromKey : String) : EngineM StepResult := do
  let chosen ← requireSlot ctx fromKey
    (s!"StealFromPartyTask: nothing has written {fromKey} — the ability is missing a " ++
      "ChooseCardTask before this step.")
  let ctx := nothingStolen ctx
  let b := (← getGs).board
  match chosen.head?.bind fun heroId =>
      (b.getCardOwner heroId).map fun owner => (heroId, owner) with
  | none => return (ctx, none)
  | some (heroId, fromPlayerId) =>
    if fromPlayerId = ctx.ownerId ∨ b.hasEffect .cantBeStolen fromPlayerId ∨
        heroId ∉ b.heroIds fromPlayerId then return (ctx, none)
    else
      let carried ← removeHero em fromPlayerId heroId "Stolen"
      addHero em ctx.ownerId heroId "Stolen" carried
      em (.heroStolen ctx.ownerId fromPlayerId heroId)
      return ((ctx.set CTX_STOLEN_HERO_ID (.ids [heroId])).set CTX_STOLEN_FROM_PLAYER
        (.ids [fromPlayerId]), none)

/-! ## Items and magic -/

/-- The hand that holds a card, for the last branch of `retrieve`. -/
def holderOf (b : Board) (cardId : String) : Option String :=
  (b.players.entries.find? fun e => e.2.hand.contains cardId).map Prod.fst

/-- `retrieve`: a card from the discard pile, off a hero's gear or out of another player's hand
into a hand. -/
def retrieve (cardId abilityOwnerId : String) (to_ : RetrieveTo) : EngineM Unit := do
  let b := (← getGs).board
  if cardId ∈ b.discardPile then
    if b.isSeated abilityOwnerId then
      modifyBoard fun b => (b.pickFromDiscardPile cardId).addToHand abilityOwnerId cardId
      em (.cardRetrieved abilityOwnerId cardId "Discard")
    else pure ()
  else match b.getItemCarrier cardId with
    | some carrierId =>
      match b.getCardOwner carrierId with
      | none => pure ()
      | some carrierOwnerId =>
        let recipientId := match to_ with
          | .cardOwner => carrierOwnerId
          | .owner => abilityOwnerId
        if b.isSeated recipientId then
          modifyBoard (Board.unequipItem carrierId)
          em (.itemUnequipped carrierOwnerId cardId carrierId)
          addToHand recipientId cardId
          em (.cardRetrieved recipientId cardId "Equipment")
        else pure ()
    | none =>
      match holderOf b cardId with
      | none => pure ()
      | some holderId =>
        if holderId ≠ abilityOwnerId ∧ b.isSeated abilityOwnerId then
          modifyBoard (Board.pullCard holderId abilityOwnerId cardId)
          em (.cardPulled abilityOwnerId holderId cardId)
        else pure ()

/-- `RetrieveCardTask`. -/
def retrieveCardTask (ctx : AbilityContext) (fromKey : String) (to_ : RetrieveTo) :
    EngineM StepResult := do
  let cards ← requireSlot ctx fromKey
    (s!"RetrieveCardTask: nothing has written {fromKey} — expected a preceding step to supply a " ++
      "card.")
  match cards.head? with
  | none => return (ctx, none)
  | some cardId =>
    retrieve em cardId ctx.ownerId to_
    return (ctx, none)

/-- `RetrieveEachTask`. -/
def retrieveEachTask (ctx : AbilityContext) : EngineM StepResult := do
  let asked ← askedPicks ctx
  forEach (fun (_, cardId) => retrieve em cardId ctx.ownerId .owner) asked
  return (ctx, none)

/-- `ReturnAllItemsTask`. -/
def returnAllItemsTask (ctx : AbilityContext) : EngineM StepResult := do
  let b := (← getGs).board
  let worn := (b.seats.flatMap b.heroIds).filterMap b.getEquippedItem
  forEach (fun itemId => retrieve em itemId ctx.ownerId .cardOwner) worn
  return (ctx, none)

/-- `PlayItemTask`. -/
def playItemTask (ctx : AbilityContext) (itemKey heroKey : String) : EngineM StepResult := do
  let items ← requireSlot ctx itemKey
    s!"PlayItemTask: nothing has written {itemKey} — expected a preceding step to supply it."
  let heroes ← requireSlot ctx heroKey
    s!"PlayItemTask: nothing has written {heroKey} — expected a preceding step to supply it."
  match items.head?, heroes.head? with
  | some itemId, some heroId =>
    let b := (← getGs).board
    if itemId ∈ b.hand ctx.ownerId ∧ (canEquip T b ctx.ownerId itemId heroId).isAccepted then
      return (ctx, ← playItem T em ctx.ownerId itemId heroId)
    else return (ctx, none)
  | _, _ => return (ctx, none)

/-- `PlayMagicTask`. -/
def playMagicTask (ctx : AbilityContext) (fromKey : String) : EngineM StepResult := do
  let cards ← requireSlot ctx fromKey
    s!"PlayMagicTask: nothing has written {fromKey} — expected a preceding step to supply a card."
  match cards.head? with
  | none => return (ctx, none)
  | some cardId =>
    if (T.cards.get? cardId).map Card.data = some .magic ∧
        cardId ∈ (← getGs).board.hand ctx.ownerId then
      return (ctx, ← playMagic T em ctx.ownerId cardId)
    else return (ctx, none)

/-- `PlayHeroTask`. -/
def playHeroTask (ctx : AbilityContext) (fromKey : String) : EngineM StepResult := do
  let cards ← requireSlot ctx fromKey
    s!"PlayHeroTask: nothing has written {fromKey} — expected a preceding step to supply a card."
  match cards.head? with
  | none => return (ctx, none)
  | some cardId =>
    if isHero T.cards cardId ∧ cardId ∈ (← getGs).board.hand ctx.ownerId then
      return (ctx, ← playHero T em ctx.ownerId cardId)
    else return (ctx, none)

/-- `DisposeInstanceCardTask`: instance pile to discard pile, unless the card is committed to a
frame that has not settled. -/
def disposeInstanceCardTask (ctx : AbilityContext) : EngineM StepResult := do
  let party ← getParty ctx.ownerId
  let gs ← getGs
  if ctx.sourceCardId ∈ party.instanceCardIds ∧ !gs.isSpentInOpenFrame ctx.sourceCardId then
    modifyBoard fun b =>
      (b.removeInstanceCard ctx.ownerId ctx.sourceCardId).addToDiscardPile ctx.sourceCardId
    return (ctx, none)
  else return (ctx, none)

/-! ## Rolls and contests -/

/-- `RollOnHeroTask`: the hero a slot names, or the entry's own card. -/
def rollOnHeroTask (ctx : AbilityContext) (fromKey : Option String) : EngineM StepResult := do
  let heroId ← match fromKey with
    | none => pure (some ctx.sourceCardId)
    | some key =>
      List.head? <$> requireSlot ctx key
        (s!"RollOnHeroTask: nothing has written {key} — expected a preceding step to supply " ++
          "a hero.")
  match heroId with
  | none => return (ctx, none)
  | some heroId =>
    if (← getGs).board.canUseHeroEffect ctx.ownerId heroId then
      return (ctx, ← rollOnHero T em ctx.ownerId heroId)
    else return (ctx, none)

/-- `AttackMonsterTask`. -/
def attackMonsterTask (ctx : AbilityContext) (fromKey : String) : EngineM StepResult := do
  let monsters ← requireSlot ctx fromKey
    (s!"AttackMonsterTask: nothing has written {fromKey} — expected a preceding step to supply " ++
      "a monster.")
  match monsters.head? with
  | none => return (ctx, none)
  | some monsterId =>
    if ((← getGs).board.canAttackMonster T.cards ctx.ownerId monsterId).isAccepted then
      return (ctx, ← attackMonster T em ctx.ownerId monsterId)
    else return (ctx, none)

/-- `TargetRollTask`, through `GameState.landRollTarget`. -/
def targetRollTask (ctx : AbilityContext) (key : String) (zone : Zone) : EngineM StepResult := do
  let now ← EngineM.now
  match (← getGs).findOpenModifiableWindow with
  | none => return (ctx, none)
  | some (_, w) =>
    modifyGs (GameState.modifyWindow w.id
      (Window.targetChosen now key ((ctx.getPicks key).getD []) zone))
    return (ctx, none)

/-- `GameState.applyModifier`: a bonus into the window that is open, nothing when none takes it. -/
def applyModifier (playerId : String) (value : Int) (cardId targetPlayerId : String) :
    EngineM Unit := do
  match (← getGs).findOpenModifiableWindow with
  | none => pure ()
  | some (frameId, w) =>
    if (w.acceptsModifierFor targetPlayerId).isAccepted then
      match w.body with
      | .roll body =>
        let _ ← submitToRoll em frameId w body playerId (some value) (some cardId)
          (some targetPlayerId)
      | .challenge body =>
        let _ ← submitToChallenge em w body playerId value cardId targetPlayerId
      | .choice _ => pure ()
    else pure ()

/-- `ApplyModifierTask`. -/
def applyModifierTask (ctx : AbilityContext) : EngineM StepResult := do
  match ctx.getNums CTX_CHOSEN_VALUE with
  | none => fail (s!"ApplyModifierTask: nothing has written {CTX_CHOSEN_VALUE} — no " ++
    "ChooseValueTask ahead of this step, and no value on the event seed.")
  | some values =>
    match values.head?, ((ctx.getIds CTX_MODIFIER_TARGET).getD []).head? with
    | some value, some targetPlayerId =>
      applyModifier em ctx.ownerId value ctx.sourceCardId targetPlayerId
      return (ctx, none)
    | _, _ => return (ctx, none)

/-- `StartChallengeTask`: the first challenge window of the first frame that holds one. -/
def startChallengeTask (ctx : AbilityContext) : EngineM StepResult := do
  match (← getGs).firstWindowOfType .challenge with
  | some (_, w) =>
    match w.body with
    | .challenge body =>
      if w.isOpen then
        let _ ← startChallenge T em w body ctx.ownerId
        return (ctx, none)
      else return (ctx, none)
    | _ => return (ctx, none)
  | none => return (ctx, none)

/-! ## Questions -/

/-- `CardTypeCondition`: the cards of a slot that have the type unlock a continuation. -/
def cardTypeConditionTask (ctx : AbilityContext) (cardType : CardType)
    (sourceKey label : String) : EngineM StepResult := do
  match ((ctx.getIds sourceKey).getD []).filter fun cardId =>
      (T.cards.get? cardId).map Card.getType = some cardType with
  | [] => return (ctx, none)
  | held =>
    em (.conditionMet ctx.ownerId ctx.sourceCardId label
      ((sourceKey, .ids held) :: carriedSeat ctx))
    return (ctx, none)

/-- Card ids as options. -/
def optionsOf (ids : List String) : List Pick := ids.map .id

/-- `ChoosePlayerTask`. -/
def choosePlayerTask (ctx : AbilityContext) (filter : PlayerFilter) : EngineM StepResult := do
  ask T em ctx ctx.ownerId
    { kind := .player, options := optionsOf (filterPlayers T.cards (← getGs).board ctx filter)
      sourceCardId := some ctx.sourceCardId }

/-- `ChooseCardTask`. -/
def chooseCardTask (ctx : AbilityContext) (filter : CardFilter) (options : ChooseCardOptions) :
    EngineM StepResult := do
  let required ← match options.requiresKey with
    | none => pure none
    | some key =>
      match ctx.getPicks key with
      | none => fail (s!"ChooseCardTask: nothing has written {key} — the ability named it as a " ++
        "precondition but no step ahead fills it.")
      | some picks => pure (some picks)
  if required = some [] then return (ctx.set options.resultKey (.ids []), none)
  else match executorOf ctx filter.executor with
    | none => return (ctx.set options.resultKey (.ids []), none)
    | some respondentId =>
      ask T em ctx respondentId
        { kind := .card options.resultKey
          options := optionsOf (filterCards T.cards (← getGs).board ctx filter)
          sourceCardId := some ctx.sourceCardId, question := options.question }

/-- `ChooseCardEachTask`: one frame, one card choice per seat. -/
def chooseCardEachTask (ctx : AbilityContext) (seats : PlayerFilter) (filter : CardFilter)
    (question : Option String) : EngineM StepResult := do
  let seatIds := filterPlayers T.cards (← getGs).board ctx seats
  let ctx := ctx.set CTX_ASKED_SEATS (.ids seatIds)
  if seatIds = [] then return (ctx, none)
  else
    let frameId ← openFrame
    forEach (fun seatId => do
      openChoice T em frameId seatId
        { kind := .card (chosenCardOf seatId)
          options := optionsOf (cardsOf T.cards (← getGs).board ctx filter seatId)
          sourceCardId := some ctx.sourceCardId, question }) seatIds
    return (ctx, some frameId)

/-- `ChooseMonsterTask`. -/
def chooseMonsterTask (ctx : AbilityContext) : EngineM StepResult := do
  ask T em ctx ctx.ownerId
    { kind := .monster
      options := optionsOf (filterCards T.cards (← getGs).board ctx
        { zone := .monsterPile, partyReqMet := true })
      sourceCardId := some ctx.sourceCardId }

/-- `ChooseValueTask`. Which way silence falls is the rule of the window being modified. -/
def chooseValueTask (ctx : AbilityContext) (values : List Int) : EngineM StepResult := do
  let target := (((ctx.getIds CTX_MODIFIER_TARGET).getD []).head?).getD ctx.ownerId
  let bias := ((← getGs).valueBiasFor ctx.ownerId target).getD .highest
  ask T em ctx ctx.ownerId
    { kind := .value bias, options := values.map .num, sourceCardId := some ctx.sourceCardId }

/-! ## Every step -/

/-- `ITask.execute`. `fuel` bounds the one loop of a step that is not over a list. -/
def Task.execute (fuel : Nat) (ctx : AbilityContext) : Task → EngineM StepResult
  | .draw count executor => drawTask T em fuel ctx count executor
  | .drawNamed key executor => drawNamedTask em ctx key executor
  | .returnToDeckTop key => returnToDeckTopTask ctx key
  | .discard fromKey executor => discardTask em ctx fromKey executor
  | .discardEach => discardEachTask em ctx
  | .tradeHands fromKey => tradeHandsTask em ctx fromKey
  | .pullCard spec => pullCardTask T em ctx spec
  | .applyEffect spec => applyEffectTask em ctx spec
  | .reveal subject toAll => revealTask T em ctx subject toAll
  | .destroy fromKey replaceable => destroyTask T em ctx fromKey replaceable
  | .sacrificeEach => sacrificeEachTask em ctx
  | .giveHero heroKey toKey => giveHeroTask em ctx heroKey toKey
  | .sacrifice fromKey executor => sacrificeTask em ctx fromKey executor
  | .stealFromParty fromKey => stealFromPartyTask em ctx fromKey
  | .playItem itemKey heroKey => playItemTask T em ctx itemKey heroKey
  | .retrieveCard fromKey to_ => retrieveCardTask em ctx fromKey to_
  | .retrieveEach => retrieveEachTask em ctx
  | .returnAllItems => returnAllItemsTask em ctx
  | .playMagic fromKey => playMagicTask T em ctx fromKey
  | .disposeInstanceCard => disposeInstanceCardTask ctx
  | .applyModifier => applyModifierTask em ctx
  | .playHero fromKey => playHeroTask T em ctx fromKey
  | .redrawHand => redrawHandTask T em fuel ctx
  | .rollOnHero fromKey => rollOnHeroTask T em ctx fromKey
  | .targetRoll key zone => targetRollTask ctx key zone
  | .gainActionPoints amount => gainActionPointsTask ctx amount
  | .attackMonster fromKey => attackMonsterTask T em ctx fromKey
  | .startChallenge => startChallengeTask T em ctx
  | .cardTypeCondition cardType sourceKey label =>
    cardTypeConditionTask T em ctx cardType sourceKey label
  | .choosePlayer filter _ => choosePlayerTask T em ctx filter
  | .chooseCard filter options => chooseCardTask T em ctx filter options
  | .chooseCardEach seats filter question => chooseCardEachTask T em ctx seats filter question
  | .chooseMonster _ => chooseMonsterTask T em ctx
  | .chooseValue values _ => chooseValueTask T em ctx values
  | .confirm spec => confirmTask T em ctx spec
  | .chooseAction spec => chooseActionTask T em ctx spec

end

end HereToSlaughter
