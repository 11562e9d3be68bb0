import HereToSlaughter.Refine.Tasks
import HereToSlaughter.Writes.Windows

/-!
# What steps and actions write

No step and no action passes a window. Those that ask open one that nobody has passed; the three
that land on a roll or a contest (`ApplyModifierTask`, `TargetRollTask`, `StartChallengeTask`) give
its passes back.

Reference: `tasks/*.ts`, `actions/*.ts`, `reactions/play-{modifier,challenge}-reaction.ts`.
-/

namespace HereToSlaughter

open Lib EngineM

namespace Writes

/-- `requireSlot` reads a slot of the context and writes nothing; an empty one fails the step. -/
theorem requireSlot {r : World → World → Prop} (ctx : AbilityContext) (key message : String) :
    Along thrown r (HereToSlaughter.requireSlot ctx key message) := by
  unfold HereToSlaughter.requireSlot
  split
  · exact .pure _
  · exact fail _

section
variable {r : World → World → Prop} [Allows r] {thrown : Prop} {T : Table} {em : Emit}
  (hem : ∀ event, Along thrown r (em event))
include hem

/-! ## The shared mechanics -/

/-- `drawUpTo` puts one card of the deck after the other into the hand, until none is left. -/
theorem drawUpTo (playerId : String) :
    ∀ n, Along thrown r (HereToSlaughter.drawUpTo T em playerId n)
  | 0 => .pure []
  | n + 1 => by
    refine .bind (drawIntoHand hem _ _) fun drawn => ?_
    split
    · exact .pure []
    · exact .bind (drawUpTo playerId n) fun _ => .pure _

/-- `drawUntil` draws while the hand is short of `size`; with its fuel gone it fails. -/
theorem drawUntil (playerId : String) (size : Int) :
    ∀ fuel, Along thrown r (HereToSlaughter.drawUntil T em playerId size fuel)
  | 0 => .throw _
  | fuel + 1 => by
    refine .bind getGs fun _ => .ite (.bind (drawIntoHand hem _ _) fun drawn => ?_) (.pure [])
    split
    · exact .pure []
    · exact .bind (drawUntil playerId size fuel) fun _ => .pure _

/-- `drawCards` draws a number of cards, or up to a size of the hand. -/
theorem drawCards (fuel : Nat) (playerId : String) (count : Int) :
    Along thrown r (HereToSlaughter.drawCards T em fuel playerId count) :=
  .ite (drawUpTo hem _ _) (drawUntil hem _ _ _)

/-- `openContestOver` opens one window, the contest over the card just played. -/
theorem openContestOver (frameId : Nat) (playerId cardId : String) :
    Along thrown r (HereToSlaughter.openContestOver T em frameId playerId cardId) :=
  .bind (openChallenge hem _ _ _) fun _ => .pure _

/-- `playHero` takes the card out of the hand, puts the hero into the party inside a frame of its
own, and opens the contest over it. A card that is not in the hand writes nothing. -/
theorem playHero (playerId cardId : String) :
    Along thrown r (HereToSlaughter.playHero T em playerId cardId) := by
  refine .bind getGs fun _ => .ite ?_ (.pure none)
  refine .bind (playerDoor _ fun b => .removeFromHand b _ _) fun _ => .bind (hem _) fun _ => ?_
  refine .bind openFrame fun frameId => ?_
  exact .bind (addHero hem _ _ _ _) fun _ => openContestOver hem _ _ _

/-- `playMagic` takes the card out of the hand, lays it before the party inside a frame of its own,
and opens the contest over it. -/
theorem playMagic (playerId cardId : String) :
    Along thrown r (HereToSlaughter.playMagic T em playerId cardId) := by
  refine .bind getGs fun _ => .ite ?_ (.pure none)
  refine .bind (playerDoor _ fun b => .removeFromHand b _ _) fun _ => .bind (hem _) fun _ => ?_
  refine .bind openFrame fun frameId => ?_
  exact .bind (partyDoor _ fun b => .addInstanceCard b _ _) fun _ => .bind (hem _) fun _ =>
    openContestOver hem _ _ _

omit hem in
/-- `equipItem` puts the item on the hero in the party that holds it; with no owner to be found
nothing is written. -/
theorem equipItem (heroId itemId : String) :
    Along thrown r (HereToSlaughter.equipItem heroId itemId) := by
  refine .bind getGs fun gs => ?_
  split
  · exact .pure ()
  · exact .bind (getParty _) fun _ => .bind getGs fun _ => .bind (mark rfl) fun _ =>
      door fun b => .equipInParty b _ _ _

/-- `playItem` takes the item out of the hand, equips it inside a frame of its own, and opens the
contest over it. -/
theorem playItem (playerId itemId heroId : String) :
    Along thrown r (HereToSlaughter.playItem T em playerId itemId heroId) := by
  refine .bind getGs fun gs => .ite ?_ (.pure none)
  split
  · exact fail _
  · refine .bind (playerDoor _ fun b => .removeFromHand b _ _) fun _ => .bind (hem _) fun _ => ?_
    refine .bind openFrame fun frameId => ?_
    exact .bind (equipItem _ _) fun _ => .bind (hem _) fun _ => openContestOver hem _ _ _

/-- `rollOnHero` throws the dice, marks the ability used and opens the roll; a card that is no hero
writes nothing. -/
theorem rollOnHero (playerId heroId : String) :
    Along thrown r (HereToSlaughter.rollOnHero T em playerId heroId) := by
  unfold HereToSlaughter.rollOnHero
  split
  · refine .bind (roll2Dice _) fun _ => .bind (hem _) fun _ => ?_
    refine .bind (door fun b => .markAbilityUsed b _) fun _ => ?_
    exact .bind openFrame fun _ => .bind (openRoll hem _ _ _ _) fun _ => .pure _
  · exact .pure none

/-- `attackMonster` throws the dice and opens the roll on the monster. It marks nothing used. -/
theorem attackMonster (playerId monsterId : String) :
    Along thrown r (HereToSlaughter.attackMonster T em playerId monsterId) := by
  unfold HereToSlaughter.attackMonster
  split
  · refine .bind (roll2Dice _) fun _ => .bind (hem _) fun _ => ?_
    exact .bind openFrame fun _ => .bind (openRoll hem _ _ _ _) fun _ => .pure _
  · exact .pure none

/-- `redrawHand` discards the hand card by card and draws up to five again. -/
theorem redrawHand (fuel : Nat) (playerId : String) :
    Along thrown r (HereToSlaughter.redrawHand T em fuel playerId) :=
  .bind getGs fun _ => .ite (.bind (forEach (discardFromHand hem _) _) fun _ =>
    .bind (drawCards hem _ _ _) fun _ => .pure ()) (.pure ())

/-! ## Cards in hands and decks -/

/-- `DrawTask` only draws. -/
theorem drawTask (fuel : Nat) (ctx : AbilityContext) (count : Int) (executor : Executor) :
    Along thrown r (HereToSlaughter.drawTask T em fuel ctx count executor) := by
  refine .bind getGs fun gs => ?_
  split
  · exact .pure _
  · exact .bind (drawCards hem _ _ _) fun _ => .pure _

/-- `DrawNamedTask` takes each named card out of the deck, those that are there. -/
theorem drawNamedTask (ctx : AbilityContext) (key : String) (executor : Executor) :
    Along thrown r (HereToSlaughter.drawNamedTask em ctx key executor) := by
  refine .bind getGs fun gs => ?_
  split
  · exact .pure _
  · refine .bind (collect (fun cardId => ?_) _) fun _ => .pure _
    exact .bind (drawNamedIntoHand hem _ _) fun drawn => .ite (.pure _) (.pure _)

omit hem in
/-- `ReturnToDeckTopTask` puts the card back on top of the main deck. -/
theorem returnToDeckTopTask (ctx : AbilityContext) (key : String) :
    Along thrown r (HereToSlaughter.returnToDeckTopTask ctx key) := by
  unfold HereToSlaughter.returnToDeckTopTask
  split
  · exact .pure _
  · exact .bind (door fun b => .moveToMainDeckTop b _) fun _ => .pure _

/-- `DiscardTask` discards the chosen card while its hand still holds it. -/
theorem discardTask (ctx : AbilityContext) (fromKey : String) (executor : Executor) :
    Along thrown r (HereToSlaughter.discardTask em ctx fromKey executor) := by
  refine .bind (requireSlot _ _ _) fun cards => ?_
  dsimp only
  split
  · exact .bind getGs fun _ => .ite (.bind (discardFromHand hem _ _) fun _ => .pure _) (.pure _)
  · exact .pure _

omit hem [Allows r] in
/-- The answers a step asked for are read off the context. -/
theorem askedPicks (ctx : AbilityContext) : Along thrown r (HereToSlaughter.askedPicks ctx) :=
  .bind (requireSlot _ _ _) fun _ => .pure _

/-- `DiscardEachTask` discards one card for each seat that answered, each looked for anew. -/
theorem discardEachTask (ctx : AbilityContext) :
    Along thrown r (HereToSlaughter.discardEachTask em ctx) := by
  refine .bind (askedPicks ctx) fun asked => .bind (collect (fun pick => ?_) _) fun _ => .pure _
  exact .bind getGs fun _ => .ite (.bind (discardFromHand hem _ _) fun _ => .pure _) (.pure _)

/-- `TradeHandsTask` swaps two hands. -/
theorem tradeHandsTask (ctx : AbilityContext) (fromKey : String) :
    Along thrown r (HereToSlaughter.tradeHandsTask em ctx fromKey) := by
  refine .bind (requireSlot _ _ _) fun chosen => ?_
  split
  · exact .pure _
  · refine .bind getGs fun _ => .ite ?_ (.pure _)
    exact .bind (door fun b => .tradeHands b _ _) fun _ => .bind (hem _) fun _ => .pure _

omit hem [Allows r] in
/-- The hands `PullCardTask` pulls from are read, not written. -/
theorem pullHands (ctx : AbilityContext) (spec : PullSpec) :
    Along thrown r (HereToSlaughter.pullHands T ctx spec) := by
  refine .bind getGs fun gs => .ite ?_ (.pure [])
  split
  · exact .pure _
  · exact .bind (requireSlot _ _ _) fun _ => .pure _

/-- Pulls of one hand: each draws an index and moves that card, until the hand is empty. -/
theorem pullFrom (toPlayerId fromPlayerId : String) :
    ∀ n, Along thrown r (HereToSlaughter.pullFrom T em toPlayerId fromPlayerId n)
  | 0 => .pure []
  | n + 1 => by
    refine .bind getGs fun gs => .ite (.pure []) (.bind (random _ _) fun index => ?_)
    split
    · exact .pure []
    · refine .bind (requirePlayer _) fun _ => .bind (requirePlayer _) fun _ => ?_
      refine .bind (door fun b => .pullCard b _ _ _) fun _ => .bind (hem _) fun _ => ?_
      exact .bind (pullFrom toPlayerId fromPlayerId n) fun _ => .pure _

/-- Pulls of several hands, one hand after the other. -/
theorem pullFromAll (ctx : AbilityContext) (count : Nat) :
    ∀ hands, Along thrown r (HereToSlaughter.pullFromAll T em ctx count hands)
  | [] => .pure []
  | _ :: hands => .bind (pullFrom hem _ _ _) fun _ => .bind (pullFromAll ctx count hands) fun _ =>
    .pure _

/-- `PullCardTask` only moves cards between hands. -/
theorem pullCardTask (ctx : AbilityContext) (spec : PullSpec) :
    Along thrown r (HereToSlaughter.pullCardTask T em ctx spec) :=
  .bind (pullHands ctx spec) fun _ => .bind (pullFromAll hem _ _ _) fun _ => .pure _

/-- `RedrawHandTask` does what the action of that name does. -/
theorem redrawHandTask (fuel : Nat) (ctx : AbilityContext) :
    Along thrown r (HereToSlaughter.redrawHandTask T em fuel ctx) :=
  .bind (redrawHand hem _ _) fun _ => .pure _

/-! ## Effects, points and looks -/

/-- `ApplyEffectTask` installs one effect, or fails with nothing but an id drawn. -/
theorem applyEffectTask (ctx : AbilityContext) (spec : EffectSpec) :
    Along thrown r (HereToSlaughter.applyEffectTask em ctx spec) :=
  .bind getGs fun _ =>
    installs (fun _ => rfl) (fun _ => .bind (hem _) fun _ => .pure _) fun _ => fail _

omit hem in
/-- `GainActionPointsTask` adds points to one player. -/
theorem gainActionPointsTask (ctx : AbilityContext) (amount : Int) :
    Along thrown r (HereToSlaughter.gainActionPointsTask ctx amount) :=
  .bind (playerDoor _ fun b => .increaseActionPoints b _ _) fun _ => .pure _

/-- `RevealTask` shows cards to some seats and starts the clock of the look. -/
theorem revealTask (ctx : AbilityContext) (subject : RevealSubject) (toAll : Bool) :
    Along thrown r (HereToSlaughter.revealTask T em ctx subject toAll) := by
  refine .bind getGs fun gs =>
    .ite (.pure _) (.bind (state (fun gs => ?_) fun gs => ?_) fun _ => ?_)
  · exact (GameState.revealTo_all _ _ _ gs).1
  · exact (GameState.revealTo_all _ _ _ gs).2.1
  · refine .bind (hem _) fun _ => .bind (modifies fun w => ?_) fun _ => .pure _
    exact .managers w.turnManager w.draining w.dirty _ w.randomAt

/-! ## Heroes on the table -/

/-- `decoyTakesTheHit` unequips the decoy and discards it, where there is one. -/
theorem decoyTakesTheHit (ownerId heroId : String) :
    Along thrown r (HereToSlaughter.decoyTakesTheHit em ownerId heroId) := by
  refine .bind getGs fun gs => ?_
  dsimp only
  split
  · exact .pure _
  · refine .bind (door fun b => .unequipItem b _) fun _ => .bind (hem _) fun _ => ?_
    exact .bind (door fun b => .addToDiscardPile b _) fun _ => .pure _

/-- `heroToDiscard` takes the hero off the table and puts it, and then what it carried, on the
pile. -/
theorem heroToDiscard (ownerId heroId reason : String) :
    Along thrown r (HereToSlaughter.heroToDiscard em ownerId heroId reason) := by
  refine .bind (removeHero hem _ _ _) fun carried => ?_
  refine .bind (door fun b => .addToDiscardPile b _) fun _ => ?_
  extract_lets rest
  have hrest : Along thrown r (rest ()) := .pure _
  split
  · exact hrest
  · exact .bind (door fun b => .addToDiscardPile b _) fun _ => hrest

/-- `ask` opens a frame and one question in it. -/
theorem ask (ctx : AbilityContext) (respondentId : String) (body : ChoiceBody) :
    Along thrown r (HereToSlaughter.ask T em ctx respondentId body) :=
  .bind openFrame fun _ => .bind (openChoice hem _ _ _) fun _ => .pure _

/-- A step that asks one executor opens one question, or none where nobody is to be asked. -/
theorem askTask (ctx : AbilityContext) (subjectKey : Option String) (executor : Executor)
    (question : Question) :
    Along thrown r (HereToSlaughter.askTask T em ctx subjectKey executor question) := by
  refine .ite (.pure _) ?_
  split
  · exact .pure _
  · exact ask hem _ _ _

/-- `destroyHero` discards the hero, then announces it. -/
theorem destroyHero (ctx : AbilityContext) (ownerId heroId : String) :
    Along thrown r (HereToSlaughter.destroyHero em ctx ownerId heroId) := by
  refine .bind (heroToDiscard hem _ _ _) fun carried => .bind (hem _) fun _ => ?_
  split
  · exact .pure _
  · exact .pure _

/-- `DestroyTask` ends in one of three: the decoy is discarded, its owner is asked for another
hero, or the hero is destroyed. -/
theorem destroyTask (ctx : AbilityContext) (fromKey : String) (replaceable : Bool) :
    Along thrown r (HereToSlaughter.destroyTask T em ctx fromKey replaceable) := by
  refine .bind (requireSlot _ _ _) fun heroes => .bind getGs fun gs => ?_
  dsimp only
  split
  · exact .pure _
  · refine .ite (.pure _) (.bind (decoyTakesTheHit hem _ _) fun taken => .ite (.pure _) ?_)
    refine .bind getGs fun gs => ?_
    split
    · exact destroyHero hem _ _ _
    · exact .ite (askTask hem _ _ _ _) (destroyHero hem _ _ _)

/-- `sacrificeHero` does nothing to a hero its seat no longer has; else the decoy or the hero goes.
-/
theorem sacrificeHero (seatId heroId : String) :
    Along thrown r (HereToSlaughter.sacrificeHero em seatId heroId) := by
  refine .bind (getParty _) fun _ => .bind getGs fun gs => .ite ?_ (.pure ())
  refine .bind (decoyTakesTheHit hem _ _) fun taken => .ite (.pure ()) ?_
  exact .bind (heroToDiscard hem _ _ _) fun _ => hem _

/-- `SacrificeEachTask` sacrifices one hero for each seat that answered. -/
theorem sacrificeEachTask (ctx : AbilityContext) :
    Along thrown r (HereToSlaughter.sacrificeEachTask em ctx) :=
  .bind (askedPicks ctx) fun _ =>
    .bind (forEach (fun _ => sacrificeHero hem _ _) _) fun _ => .pure _

/-- `SacrificeTask` sacrifices the chosen hero. -/
theorem sacrificeTask (ctx : AbilityContext) (fromKey : String) (executor : Executor) :
    Along thrown r (HereToSlaughter.sacrificeTask em ctx fromKey executor) := by
  refine .bind (requireSlot _ _ _) fun heroes => ?_
  split
  · exact .bind (sacrificeHero hem _ _) fun _ => .pure _
  · exact .pure _

/-- `GiveHeroTask` moves a hero, with what it carries, into another party. -/
theorem giveHeroTask (ctx : AbilityContext) (heroKey toKey : String) :
    Along thrown r (HereToSlaughter.giveHeroTask em ctx heroKey toKey) := by
  refine .bind (requireSlot _ _ _) fun heroes => .bind (requireSlot _ _ _) fun recipients => ?_
  split
  · refine .bind getGs fun gs => .ite (.bind (removeHero hem _ _ _) fun carried => ?_) (.pure _)
    exact .bind (addHero hem _ _ _ _) fun _ => .pure _
  · exact .pure _

/-- `StealFromPartyTask` moves a hero into the party of the card's owner. -/
theorem stealFromPartyTask (ctx : AbilityContext) (fromKey : String) :
    Along thrown r (HereToSlaughter.stealFromPartyTask em ctx fromKey) := by
  refine .bind (requireSlot _ _ _) fun chosen => .bind getGs fun gs => ?_
  dsimp only
  split
  · exact .pure _
  · refine .ite (.pure _) (.bind (removeHero hem _ _ _) fun carried => ?_)
    exact .bind (addHero hem _ _ _ _) fun _ => .bind (hem _) fun _ => .pure _

/-! ## Items and magic -/

/-- `retrieve` takes a card into the hand from where it lies: off the pile, off a hero, out of
another hand. -/
theorem retrieve (cardId abilityOwnerId : String) (to_ : RetrieveTo) :
    Along thrown r (HereToSlaughter.retrieve em cardId abilityOwnerId to_) := by
  refine .bind getGs fun gs => .ite (.ite (.bind (door fun b => ?_) fun _ => hem _) (.pure ())) ?_
  · exact (Doors.pickFromDiscardPile b _).trans (Doors.addToHand _ _ _)
  split
  · split
    · exact .pure ()
    · refine .ite ?_ (.pure ())
      refine .bind (door fun b => .unequipItem b _) fun _ => .bind (hem _) fun _ => ?_
      exact .bind (playerDoor _ fun b => .addToHand b _ _) fun _ => hem _
  · split
    · exact .pure ()
    · exact .ite (.bind (door fun b => .pullCard b _ _ _) fun _ => hem _) (.pure ())

/-- `RetrieveCardTask` retrieves the first card of its slot. -/
theorem retrieveCardTask (ctx : AbilityContext) (fromKey : String) (to_ : RetrieveTo) :
    Along thrown r (HereToSlaughter.retrieveCardTask em ctx fromKey to_) := by
  refine .bind (requireSlot _ _ _) fun cards => ?_
  split
  · exact .pure _
  · exact .bind (retrieve hem _ _ _) fun _ => .pure _

/-- `RetrieveEachTask` retrieves one card for each seat that answered. -/
theorem retrieveEachTask (ctx : AbilityContext) :
    Along thrown r (HereToSlaughter.retrieveEachTask em ctx) :=
  .bind (askedPicks ctx) fun _ => .bind (forEach (fun _ => retrieve hem _ _ _) _) fun _ => .pure _

/-- `ReturnAllItemsTask` retrieves every item there is on the table. -/
theorem returnAllItemsTask (ctx : AbilityContext) :
    Along thrown r (HereToSlaughter.returnAllItemsTask em ctx) :=
  .bind getGs fun _ => .bind (forEach (fun _ => retrieve hem _ _ _) _) fun _ => .pure _

/-- `PlayItemTask` plays an item of the hand without asking for points. -/
theorem playItemTask (ctx : AbilityContext) (itemKey heroKey : String) :
    Along thrown r (HereToSlaughter.playItemTask T em ctx itemKey heroKey) := by
  refine .bind (requireSlot _ _ _) fun items => .bind (requireSlot _ _ _) fun heroes => ?_
  split
  · exact .bind getGs fun _ => .ite (.bind (playItem hem _ _ _) fun _ => .pure _) (.pure _)
  · exact .pure _

/-- `PlayMagicTask` plays a magic card of the hand without asking for points. -/
theorem playMagicTask (ctx : AbilityContext) (fromKey : String) :
    Along thrown r (HereToSlaughter.playMagicTask T em ctx fromKey) := by
  refine .bind (requireSlot _ _ _) fun cards => ?_
  split
  · exact .pure _
  · exact .bind getGs fun _ => .ite (.bind (playMagic hem _ _) fun _ => .pure _) (.pure _)

/-- `PlayHeroTask` plays a hero of the hand without asking for points. -/
theorem playHeroTask (ctx : AbilityContext) (fromKey : String) :
    Along thrown r (HereToSlaughter.playHeroTask T em ctx fromKey) := by
  refine .bind (requireSlot _ _ _) fun cards => ?_
  split
  · exact .pure _
  · exact .bind getGs fun _ => .ite (.bind (playHero hem _ _) fun _ => .pure _) (.pure _)

omit hem in
/-- `DisposeInstanceCardTask` moves the played card from before its party to the pile, unless an
open frame has spent it. -/
theorem disposeInstanceCardTask (ctx : AbilityContext) :
    Along thrown r (HereToSlaughter.disposeInstanceCardTask ctx) :=
  .bind (getParty _) fun _ => .bind getGs fun _ => .ite (.bind (door fun b =>
    (Doors.removeInstanceCard b _ _).trans (Doors.addToDiscardPile _ _)) fun _ => .pure _) (.pure _)

/-! ## Rolls and contests -/

/-- `RollOnHeroTask` rolls for the hero named, or for the one its slot holds. -/
theorem rollOnHeroTask (ctx : AbilityContext) (fromKey : Option String) :
    Along thrown r (HereToSlaughter.rollOnHeroTask T em ctx fromKey) := by
  unfold HereToSlaughter.rollOnHeroTask
  extract_lets rest
  have hrest : ∀ heroId, Along thrown r (rest heroId)
    | none => .pure _
    | some heroId =>
      .bind getGs fun _ => .ite (.bind (rollOnHero hem _ _) fun _ => .pure _) (.pure _)
  split
  · exact .bind (.pure _) hrest
  · exact .bind (.map (requireSlot _ _ _)) hrest

/-- `AttackMonsterTask` attacks the monster its slot holds. -/
theorem attackMonsterTask (ctx : AbilityContext) (fromKey : String) :
    Along thrown r (HereToSlaughter.attackMonsterTask T em ctx fromKey) := by
  refine .bind (requireSlot _ _ _) fun monsters => ?_
  split
  · exact .pure _
  · exact .bind getGs fun _ => .ite (.bind (attackMonster hem _ _) fun _ => .pure _) (.pure _)

omit hem in
/-- `TargetRollTask` writes the chosen target onto the open roll, which gives its passes back. -/
theorem targetRollTask (ctx : AbilityContext) (key : String) (zone : Zone) :
    Along thrown r (HereToSlaughter.targetRollTask ctx key zone) := by
  refine .bind now fun _ => .bind getGs fun gs => ?_
  split
  · exact .pure _
  · exact .bind (window _ fun _ => .targetChosen _ _ _ _) fun _ => .pure _

/-- `applyModifier` adds the bonus to the open roll or contest, if it takes one for that player. -/
theorem applyModifier (playerId : String) (value : Int) (cardId targetPlayerId : String) :
    Along thrown r (HereToSlaughter.applyModifier em playerId value cardId targetPlayerId) := by
  refine .bind getGs fun gs => ?_
  split
  · exact .pure ()
  · refine .ite ?_ (.pure ())
    split
    · exact .bind (submitToRoll hem _ _ _ _ _ _ _) fun _ => .pure ()
    · exact .bind (submitToChallenge hem _ _ _ _ _ _) fun _ => .pure ()
    · exact .pure ()

/-- `ApplyModifierTask` applies the modifier of the event that woke it. -/
theorem applyModifierTask (ctx : AbilityContext) :
    Along thrown r (HereToSlaughter.applyModifierTask em ctx) := by
  unfold HereToSlaughter.applyModifierTask
  split
  · exact fail _
  · split
    · exact .bind (applyModifier hem _ _ _ _) fun _ => .pure _
    · exact .pure _

/-- `StartChallengeTask` starts the contest that stands open. -/
theorem startChallengeTask (ctx : AbilityContext) :
    Along thrown r (HereToSlaughter.startChallengeTask T em ctx) := by
  refine .bind getGs fun gs => ?_
  split
  · split
    · exact .ite (.bind (startChallenge hem _ _ _) fun _ => .pure _) (.pure _)
    · exact .pure _
  · exact .pure _

/-! ## Questions -/

omit [Allows r] in
/-- `CardTypeConditionTask` writes nothing but what its announcement writes. -/
theorem cardTypeConditionTask (ctx : AbilityContext) (cardType : CardType)
    (sourceKey label : String) :
    Along thrown r (HereToSlaughter.cardTypeConditionTask T em ctx cardType sourceKey label) := by
  unfold HereToSlaughter.cardTypeConditionTask
  split
  · exact .pure _
  · exact .bind (hem _) fun _ => .pure _

/-- `ChooseCardTask` asks one seat for a card, or nobody where the step it rests on came to
nothing. -/
theorem chooseCardTask (ctx : AbilityContext) (filter : CardFilter) (options : ChooseCardOptions) :
    Along thrown r (HereToSlaughter.chooseCardTask T em ctx filter options) := by
  unfold HereToSlaughter.chooseCardTask
  extract_lets rest
  have hrest : ∀ required, Along thrown r (rest required) := by
    intro required
    refine .ite (.pure _) ?_
    split
    · exact .pure _
    · exact .bind getGs fun _ => ask hem _ _ _
  split
  · exact .bind (.pure _) hrest
  · split
    · exact .bind (fail _) hrest
    · exact .bind (.pure _) hrest

/-- `ChooseCardEachTask` opens one frame and in it a question for each seat. -/
theorem chooseCardEachTask (ctx : AbilityContext) (seats : PlayerFilter) (filter : CardFilter)
    (question : Option String) :
    Along thrown r (HereToSlaughter.chooseCardEachTask T em ctx seats filter question) := by
  refine .bind getGs fun gs => .ite (.pure _) (.bind openFrame fun frameId => ?_)
  refine .bind (forEach (fun seatId => ?_) _) fun _ => .pure _
  exact .bind getGs fun _ => openChoice hem _ _ _

/-! ## Every step -/

/-- `ITask.execute` passes no window. -/
theorem execute (fuel : Nat) (ctx : AbilityContext) (task : Task) :
    Along thrown r (task.execute T em fuel ctx) := by
  cases task with
  | draw => exact drawTask hem _ _ _ _
  | drawNamed => exact drawNamedTask hem _ _ _
  | returnToDeckTop => exact returnToDeckTopTask _ _
  | discard => exact discardTask hem _ _ _
  | discardEach => exact discardEachTask hem _
  | tradeHands => exact tradeHandsTask hem _ _
  | pullCard => exact pullCardTask hem _ _
  | applyEffect => exact applyEffectTask hem _ _
  | reveal => exact revealTask hem _ _ _
  | destroy => exact destroyTask hem _ _ _
  | sacrificeEach => exact sacrificeEachTask hem _
  | giveHero => exact giveHeroTask hem _ _ _
  | sacrifice => exact sacrificeTask hem _ _ _
  | stealFromParty => exact stealFromPartyTask hem _ _
  | playItem => exact playItemTask hem _ _ _
  | retrieveCard => exact retrieveCardTask hem _ _ _
  | retrieveEach => exact retrieveEachTask hem _
  | returnAllItems => exact returnAllItemsTask hem _
  | playMagic => exact playMagicTask hem _ _
  | disposeInstanceCard => exact disposeInstanceCardTask _
  | applyModifier => exact applyModifierTask hem _
  | playHero => exact playHeroTask hem _ _
  | redrawHand => exact redrawHandTask hem _ _
  | rollOnHero => exact rollOnHeroTask hem _ _
  | targetRoll => exact targetRollTask _ _ _
  | gainActionPoints => exact gainActionPointsTask _ _
  | attackMonster => exact attackMonsterTask hem _ _
  | startChallenge => exact startChallengeTask hem _
  | cardTypeCondition => exact cardTypeConditionTask hem _ _ _ _
  | choosePlayer => exact .bind getGs fun _ => ask hem _ _ _
  | chooseCard => exact chooseCardTask hem _ _ _
  | chooseCardEach => exact chooseCardEachTask hem _ _ _ _
  | chooseMonster => exact .bind getGs fun _ => ask hem _ _ _
  | chooseValue => exact .bind getGs fun _ => ask hem _ _ _
  | confirm => exact askTask hem _ _ _ _
  | chooseAction => exact askTask hem _ _ _ _

/-! ## Actions and reactions -/

/-- What an action does once it is paid for. -/
theorem perform (fuel : Nat) (playerId : String) (kind : ActionKind) :
    Along thrown r (kind.perform T em fuel playerId) := by
  cases kind with
  | drawCard => exact .bind (drawCards hem _ _ _) fun _ => .pure ()
  | playHero => exact .bind (playHero hem _ _) fun _ => .pure ()
  | playItem => exact .bind (playItem hem _ _ _) fun _ => .pure ()
  | playMagic => exact .bind (playMagic hem _ _) fun _ => .pure ()
  | rollOnHero => exact .bind (rollOnHero hem _ _) fun _ => .pure ()
  | rollOnLeader => exact .bind (door fun b => .markAbilityUsed b _) fun _ => hem _
  | attackMonster => exact .bind (attackMonster hem _ _) fun _ => .pure ()
  | reDraw => exact redrawHand hem _ _
  | endTurn => exact .pure ()

/-- `Action.execute` pays the price and then performs. -/
theorem executeAction (fuel : Nat) (action : Action) :
    Along thrown r (action.execute T em fuel) := by
  unfold Action.execute
  extract_lets rest
  have hrest : ∀ price, Along thrown r (rest price) := fun price =>
    .bind (playerDoor _ fun b => .decreaseActionPoints b _ _) fun _ => perform hem _ _ _
  exact .ite (.bind (getActionPoints _) hrest) (.bind (.pure _) hrest)

omit hem in
/-- `spendCard` moves the card from the hand to what its frame has spent, in one write. -/
theorem spendCard (playerId cardId : String) (frameId : Nat) :
    Along thrown r (HereToSlaughter.spendCard playerId cardId frameId) := by
  refine .bind (requirePlayer _) fun _ => .bind (getParty _) fun _ => .bind now fun time => ?_
  exact .leap fun w =>
    ⟨Pure.pure (), _, rfl, AllowsChange.change (.spend time playerId cardId frameId), .pure ()⟩

/-- A modifier played is spent, then announced. -/
theorem playModifier (playerId cardId : String) (value : Int) (targetPlayerId : Option String) :
    Along thrown r (HereToSlaughter.playModifier em playerId cardId value targetPlayerId) := by
  refine .bind getGs fun gs => ?_
  split
  · exact .bind (spendCard _ _ _) fun _ => hem _
  · exact .pure ()

/-- A challenge played is spent, then announced. -/
theorem playChallenge (playerId cardId : String) :
    Along thrown r (HereToSlaughter.playChallenge em playerId cardId) := by
  refine .bind getGs fun gs => ?_
  split
  · exact .pure ()
  · split
    · exact .pure ()
    · exact .bind (spendCard _ _ _) fun _ => hem _

end

end Writes

end HereToSlaughter
