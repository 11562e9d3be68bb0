import HereToSlaughter.Model.Abilities

/-!
# The ability registry

Every file of `repositories/ability-repository` as the list of rules it declares, in the order of
the directory, and `abilityRegistry`, which files them under the ids of the printed cards. The
rules are data; the helpers of this file only name the shapes that recur: a rule on an event of the
card itself, the two continuations of a question, and the two ways a monster fights back.

Reference: `repositories/ability-repository/*.ts`.
-/

namespace HereToSlaughter

/-! ## Shapes -/

/-- A rule with no label. -/
def rule (on : GameEventType) (scope : TriggerScope) (steps : List Task) : GameRule :=
  ⟨{ on, scope }, steps⟩

/-- A rule on an event that names the card. -/
def onSelf (on : GameEventType) (steps : List Task) : GameRule := rule on .selfCard steps

/-- The continuation of a question that was answered with `label`. -/
def whenConfirmed (label : String) (steps : List Task) : GameRule :=
  ⟨{ on := .taskConfirmed, scope := .selfCard, when_ := some label }, steps⟩

/-- The continuation of a condition that held. -/
def whenMet (label : String) (steps : List Task) : GameRule :=
  ⟨{ on := .conditionMet, scope := .selfCard, when_ := some label }, steps⟩

/-- A monster fights back: the attacker sacrifices a hero. -/
def foughtBackSacrifice : GameRule :=
  rule .monsterFoughtBack .attacker
    [.chooseCard { zone := .party, owner := .self }
       { question := some "Choose a hero to sacrifice" },
     .sacrifice]

/-- A monster fights back: the attacker discards two cards. -/
def foughtBackDiscard (first second : String) : GameRule :=
  rule .monsterFoughtBack .attacker
    [.chooseCard { zone := .hand, owner := .self } { question := some first }, .discard,
     .chooseCard { zone := .hand, owner := .self } { question := some second }, .discard]

/-! ## The declarations -/

def abyssQueenAbility : List GameRule :=
  [onSelf .monsterSlain [.applyEffect { type := .modifierCounterBonus, value := some 1 }],
   foughtBackSacrifice]

def anuranCauldronAbility : List GameRule :=
  [onSelf .monsterSlain [.applyEffect { type := .rollBonus, value := some 1 }],
   foughtBackSacrifice]

def arcticAriesAbility : List GameRule :=
  [rule .rollSuccess .ownerEvent
       [.confirm { confirms := "ArcticAriesDrawsCard", question := some "Draw a card?" }],
   whenConfirmed "ArcticAriesDrawsCard" [.draw 1],
   foughtBackSacrifice]

def badAxeAbility : List GameRule :=
  [onSelf .rollPassing
       [.chooseCard { zone := .party, owner := .all, destroyable := true }
          { question := some "Choose a hero to destroy" },
        .targetRoll CTX_CHOSEN_CARD .party],
   onSelf .rollSuccess [.destroy]]

def bearClawAbility : List GameRule :=
  [onSelf .rollPassing
       [.choosePlayer { owner := .others } (some "Choose a player to pull a card from"),
        .targetRoll CTX_CHOSEN_PLAYER .hand],
   onSelf .rollSuccess
       [.pullCard, .cardTypeCondition .hero CTX_PULLED_CARD_IDS "BearClawPulledHero"],
   whenMet "BearClawPulledHero" [.pullCard]]

def bearyWiseAbility : List GameRule :=
  [onSelf .rollSuccess
       [.chooseCardEach { owner := .others } { zone := .hand } (some "Choose a card to discard"),
        .discardEach,
        .chooseCard { zone := .discard, among := some CTX_DISCARDED_CARDS }
          { question := some "Choose a discarded card to add to your hand" },
        .retrieveCard]]

def bloodwingAbility : List GameRule :=
  [rule .challengePlayed .targetsOwner
       [.chooseCard { zone := .hand, owner := .chosen, executor := .chosen }
          { question := some "Choose a card to discard" },
        .discard CTX_CHOSEN_CARD .chosen],
   foughtBackSacrifice]

def bullseyeAbility : List GameRule :=
  [onSelf .rollSuccess
       [.chooseCard { zone := .mainDeckTop, top := some 3 }
          { question := some "Choose a card to add to your hand" },
        .drawNamed CTX_CHOSEN_CARD,
        .chooseCard { zone := .mainDeckTop, top := some 2 }
          { resultKey := CTX_DECK_TOP_CARD,
            question := some "Choose a card to put on top of the deck" },
        .returnToDeckTop CTX_DECK_TOP_CARD]]

def bunBunAbility : List GameRule :=
  [onSelf .rollSuccess
       [.chooseCard { zone := .discard, cardType := some .magic }
          { question := some "Choose a magic card to add to your hand" },
        .retrieveCard]]

def buttonsAbility : List GameRule :=
  [onSelf .rollPassing
       [.choosePlayer { owner := .others } (some "Choose a player to pull a card from"),
        .targetRoll CTX_CHOSEN_PLAYER .hand],
   onSelf .rollSuccess
       [.pullCard, .cardTypeCondition .magic CTX_PULLED_CARD_IDS "ButtonsPulledMagic"],
   whenMet "ButtonsPulledMagic"
       [.confirm
          { confirms := "ButtonsPlaysMagic",
            question := some "Play the magic card you just pulled?", subjectKey := some
              CTX_PULLED_CARD_IDS }],
   whenConfirmed "ButtonsPlaysMagic" [.playMagic CTX_PULLED_CARD_IDS]]

def callToTheFallenAbility : List GameRule :=
  [onSelf .frameResolved
       [.chooseCard { zone := .discard, cardType := some .hero }
          { question := some "Choose a hero to add to your hand" },
        .retrieveCard]]

def calmingVoiceAbility : List GameRule :=
  [onSelf .rollSuccess [.applyEffect { type := .cantBeStolen, expiry := [.untilOwnersNextTurn] }]]

def challengeAbility : List GameRule := [onSelf .challengePlayed [.startChallenge]]

def charismaticSongAbility : List GameRule :=
  [rule .gameStarted .anyone
       [.applyEffect { type := .rollBonus, value := some 1, rollContext := some .heroEffect }]]

def cloakedSageAbility : List GameRule := [rule .magicPlayed .ownerEvent [.draw 1]]

def corruptedSabretoothAbility : List GameRule :=
  [onSelf .monsterSlain [.applyEffect { type := .stealsInsteadOfDestroy }],
   whenConfirmed STEAL_INSTEAD [.stealFromParty CTX_WOULD_DESTROY],
   whenConfirmed DESTROY_ANYWAY [.destroy CTX_WOULD_DESTROY false],
   foughtBackSacrifice]

def criticalBoostAbility : List GameRule :=
  [onSelf .frameResolved
       [.draw 3,
        .chooseCard { zone := .hand, owner := .self }
          { question := some "Choose a card to discard" },
        .discard]]

def crownedSerpentAbility : List GameRule :=
  [rule .modifierPlayed .anyone
       [.confirm { confirms := "CrownedSerpentDraws", question := some "Draw a card?" }],
   whenConfirmed "CrownedSerpentDraws" [.draw 1],
   foughtBackSacrifice]

def curseOfTheSnakesEyesAbility : List GameRule :=
  [onSelf .itemEquippedToHero
       [.applyEffect
          { type := .rollBonus, value := some (-2), scopedToCarrier := true,
            expiry := [.untilUnequipped] }]]

def darkDragonKingAbility : List GameRule :=
  [onSelf .monsterSlain
       [.applyEffect { type := .rollBonus, value := some 1, rollContext := some .heroEffect }],
   foughtBackDiscard "Choose the first card to discard" "Choose the second card to discard"]

def decoyDollAbility : List GameRule :=
  [onSelf .itemEquippedToHero
       [.applyEffect
          { type := .takesTheHit, scopedToCarrier := true, expiry := [.untilUnequipped] }]]

def destructiveSpellAbility : List GameRule :=
  [onSelf .frameResolved
       [.chooseCard { zone := .hand, owner := .self }
          { question := some "Choose a card to discard" },
        .discard,
        .chooseCard { zone := .party, owner := .all, destroyable := true }
          { question := some "Choose a hero to destroy" },
        .destroy]]

def divineArrowAbility : List GameRule :=
  [rule .gameStarted .anyone
       [.applyEffect { type := .rollBonus, value := some 1, rollContext := some .attack }]]

def dodgyDealerAbility : List GameRule :=
  [onSelf .rollPassing
       [.choosePlayer { owner := .others } (some "Choose a player to trade hands with"),
        .targetRoll CTX_CHOSEN_PLAYER .hand],
   onSelf .rollSuccess [.tradeHands]]

def dracosAbility : List GameRule :=
  [rule .heroDestroyed .ownerEvent
       [.confirm { confirms := "DracosDrawsCard", question := some "Draw a card?" }],
   whenConfirmed "DracosDrawsCard" [.draw 1],
   foughtBackSacrifice]

def enchantedSpellAbility : List GameRule :=
  [onSelf .frameResolved
       [.applyEffect { type := .rollBonus, value := some 2, expiry := [.untilEndOfTurn] }]]

def entanglingTrapAbility : List GameRule :=
  [onSelf .frameResolved
       [.chooseCard { zone := .hand, owner := .self }
          { question := some "Choose the first card to discard" },
        .discard,
        .chooseCard { zone := .hand, owner := .self }
          { question := some "Choose the second card to discard" },
        .discard,
        .chooseCard { zone := .party, owner := .others }
          { requiresKey := some CTX_DISCARDED_CARDS, question := some "Choose a hero to steal" },
        .stealFromParty]]

def fistOfReasonAbility : List GameRule :=
  [rule .gameStarted .anyone
       [.applyEffect { type := .rollBonus, value := some 2, rollContext := some .challenge }]]

def fluffyAbility : List GameRule :=
  [onSelf .rollPassing
       [.chooseCard { zone := .party, owner := .all, destroyable := true }
          { question := some "Choose the first hero to destroy" },
        .targetRoll CTX_CHOSEN_CARD .party,
        .chooseCard
          { zone := .party, owner := .all, destroyable := true,
            excludeKey := some CTX_CHOSEN_CARD }
          { resultKey := "fluffy.secondHero",
            question := some "Choose the second hero to destroy" },
        .targetRoll "fluffy.secondHero" .party],
   onSelf .rollSuccess [.destroy, .destroy "fluffy.secondHero"]]

def forcedExchangeAbility : List GameRule :=
  [onSelf .frameResolved
       [.chooseCard { zone := .party, owner := .others }
          { question := some "Choose a hero to steal" },
        .stealFromParty,
        .chooseCard { zone := .party, owner := .self }
          { requiresKey := some CTX_STOLEN_FROM_PLAYER,
            question := some "Choose a hero from your party to give" },
        .giveHero CTX_CHOSEN_CARD CTX_STOLEN_FROM_PLAYER]]

def forcefulWindsAbility : List GameRule := [onSelf .frameResolved [.returnAllItems]]

def furyKnuckleAbility : List GameRule :=
  [onSelf .rollPassing
       [.choosePlayer { owner := .others } (some "Choose a player to pull a card from"),
        .targetRoll CTX_CHOSEN_PLAYER .hand],
   onSelf .rollSuccess
       [.pullCard, .cardTypeCondition .challenge CTX_PULLED_CARD_IDS "FuryKnucklePulledChallenge"],
   whenMet "FuryKnucklePulledChallenge" [.pullCard]]

def fuzzyCheeksAbility : List GameRule :=
  [onSelf .rollSuccess
       [.draw 1,
        .chooseCard { zone := .hand, owner := .self, cardType := some .hero }
          { question := some "Choose a hero to play from your hand" },
        .playHero]]

def greedyCheeksAbility : List GameRule :=
  [onSelf .rollSuccess
       [.chooseCardEach { owner := .others } { zone := .hand } (some "Choose a card to give away"),
        .retrieveEach]]

def guidingLightAbility : List GameRule :=
  [onSelf .rollSuccess
       [.chooseCard { zone := .discard, cardType := some .hero }
          { question := some "Choose a hero to add to your hand" },
        .retrieveCard]]

def heavyBearAbility : List GameRule :=
  [onSelf .rollPassing
       [.choosePlayer { owner := .others } (some "Choose a player to discard 2 cards"),
        .targetRoll CTX_CHOSEN_PLAYER .hand],
   onSelf .rollSuccess
       [.chooseCard { zone := .hand, owner := .chosen, executor := .chosen }
          { question := some "Choose the first card to discard" },
        .discard CTX_CHOSEN_CARD .chosen,
        .chooseCard { zone := .hand, owner := .chosen, executor := .chosen }
          { question := some "Choose the second card to discard" },
        .discard CTX_CHOSEN_CARD .chosen]]

/-- `OFFERS_ROLL`. -/
def OFFERS_ROLL := "RollOnPlayedHero"

/-- What every hero in a party holds: the offer of a roll when its play settles. -/
def heroRules : List GameRule :=
  [onSelf .frameResolved
       [.confirm { confirms := OFFERS_ROLL, question := some "Roll to use this hero's effect?" }],
   whenConfirmed OFFERS_ROLL [.rollOnHero]]

def holyCurselifterAbility : List GameRule :=
  [onSelf .rollSuccess
       [.chooseCard { zone := .equippedItem, owner := .self, cursed := some true }
          { question := some "Choose a cursed item to return to your hand" },
        .retrieveCard]]

def hookAbility : List GameRule :=
  [onSelf .rollSuccess
       [.chooseCard { zone := .hand, owner := .self, cardType := some .item }
          { resultKey := CTX_CHOSEN_ITEM, question := some "Choose an item to play" },
        .chooseCard { zone := .party, owner := .self, unequipped := true }
          { requiresKey := some CTX_CHOSEN_ITEM, question := some "Choose a hero to equip it to" },
        .playItem CTX_CHOSEN_ITEM,
        .draw 1]]

def hopperAbility : List GameRule :=
  [onSelf .rollPassing
       [.choosePlayer { owner := .others, hasHeroes := true }
          (some "Choose a player to sacrifice a hero"),
        .targetRoll CTX_CHOSEN_PLAYER .party],
   onSelf .rollSuccess
       [.chooseCard { zone := .party, owner := .chosen, executor := .chosen }
          { question := some "Choose a hero to sacrifice" },
        .sacrifice CTX_CHOSEN_CARD .chosen]]

/-- What every card of an instance pile holds. -/
def instanceRules : List GameRule := [onSelf .abilityDone [.disposeInstanceCard]]

def ironResolveAbility : List GameRule :=
  [onSelf .rollSuccess [.applyEffect { type := .cantBeChallenged, expiry := [.untilEndOfTurn] }]]

def kitNapperAbility : List GameRule :=
  [onSelf .rollPassing
       [.chooseCard { zone := .party, owner := .others }
          { question := some "Choose a hero to steal" },
        .targetRoll CTX_CHOSEN_CARD .party],
   onSelf .rollSuccess [.stealFromParty]]

def lookieRookieAbility : List GameRule :=
  [onSelf .rollSuccess
       [.chooseCard { zone := .discard, cardType := some .item }
          { question := some "Choose an item to add to your hand" },
        .retrieveCard]]

def luckyBuckyAbility : List GameRule :=
  [onSelf .rollPassing
       [.choosePlayer { owner := .others } (some "Choose a player to pull a card from"),
        .targetRoll CTX_CHOSEN_PLAYER .hand],
   onSelf .rollSuccess
       [.pullCard, .cardTypeCondition .hero CTX_PULLED_CARD_IDS "LuckyBuckyPulledHero"],
   whenMet "LuckyBuckyPulledHero"
       [.confirm
          { confirms := "LuckyBuckyPlaysHero",
            question := some "Play the hero you just pulled?", subjectKey := some
              CTX_PULLED_CARD_IDS }],
   whenConfirmed "LuckyBuckyPlaysHero" [.playHero CTX_PULLED_CARD_IDS]]

def malamammothAbility : List GameRule :=
  [rule .cardDrawn .ownerEvent [.cardTypeCondition .item CTX_DRAWN_CARD_IDS "MalamammothDrewItem"],
   whenMet "MalamammothDrewItem"
       [.confirm
          { confirms := "MalamammothPlaysItem", question := some "Play the item you just drew?",
            subjectKey := some CTX_DRAWN_CARD_IDS }],
   whenConfirmed "MalamammothPlaysItem"
       [.chooseCard { zone := .party, owner := .self, unequipped := true }
          { question := some "Choose a hero to equip it to" },
        .playItem CTX_DRAWN_CARD_IDS],
   foughtBackDiscard "Choose the first card to discard" "Choose the second card to discard"]

def maskAbility : List GameRule := []

def megaSlimeAbility : List GameRule :=
  [onSelf .monsterSlain
       [.draw 2, .applyEffect { type := .actionPointBonus, value := some 1 }, .gainActionPoints 1],
   foughtBackSacrifice]

def mellowDeeAbility : List GameRule :=
  [onSelf .rollSuccess [.draw 1, .cardTypeCondition .hero CTX_DRAWN_CARD_IDS "MellowDeeDrewHero"],
   whenMet "MellowDeeDrewHero"
       [.confirm
          { confirms := "MellowDeePlaysHero", question := some "Play the hero you just drew?",
            subjectKey := some CTX_DRAWN_CARD_IDS }],
   whenConfirmed "MellowDeePlaysHero" [.playHero CTX_DRAWN_CARD_IDS]]

def meowzioAbility : List GameRule :=
  [onSelf .rollPassing
       [.choosePlayer { owner := .others, hasHeroes := true }
          (some "Choose a player to steal a hero from"),
        .targetRoll CTX_CHOSEN_PLAYER .party],
   onSelf .rollSuccess
       [.chooseCard { zone := .party, owner := .chosen }
          { question := some "Choose a hero to steal" },
        .stealFromParty,
        .pullCard]]

def mightyBladeAbility : List GameRule :=
  [onSelf .rollSuccess
       [.applyEffect { type := .cantBeDestroyed, expiry := [.untilOwnersNextTurn] }]]

def modifierAbility : List GameRule := [onSelf .modifierPlayed [.applyModifier]]

def nappingNibblesAbility : List GameRule := [onSelf .rollSuccess []]

def orthusAbility : List GameRule :=
  [rule .cardDrawn .ownerEvent [.cardTypeCondition .magic CTX_DRAWN_CARD_IDS "OrthusDrewMagic"],
   whenMet "OrthusDrewMagic"
       [.confirm
          { confirms := "OrthusPlaysMagic",
            question := some "Play the magic card you just drew?", subjectKey := some
              CTX_DRAWN_CARD_IDS }],
   whenConfirmed "OrthusPlaysMagic" [.playMagic CTX_DRAWN_CARD_IDS],
   foughtBackDiscard "Choose the first card to discard" "Choose the second card to discard"]

def panChucksAbility : List GameRule :=
  [onSelf .rollSuccess
       [.draw 2, .cardTypeCondition .challenge CTX_DRAWN_CARD_IDS "PanChucksDrewChallenge"],
   whenMet "PanChucksDrewChallenge"
       [.confirm
          { confirms := "PanChucksDestroysHero",
            question := some "Reveal the challenge and destroy a hero?", subjectKey := some
              CTX_DRAWN_CARD_IDS }],
   whenConfirmed "PanChucksDestroysHero"
       [.reveal (.fromKey CTX_DRAWN_CARD_IDS) true,
        .chooseCard { zone := .party, owner := .all, destroyable := true }
          { question := some "Choose a hero to destroy" },
        .destroy]]

def particularlyRustyCoinAbility : List GameRule := [rule .rollFailed .carrierCard [.draw 1]]

def peanutAbility : List GameRule := [onSelf .rollSuccess [.draw 2]]

def plunderingPumaAbility : List GameRule :=
  [onSelf .rollPassing
       [.choosePlayer { owner := .others } (some "Choose a player to pull 2 cards from"),
        .targetRoll CTX_CHOSEN_PLAYER .hand],
   onSelf .rollSuccess
       [.pullCard,
        .pullCard,
        .confirm
          { confirms := "PlunderingPumaVictimDraws", question := some "Draw a card?",
            executor := .chosen }],
   whenConfirmed "PlunderingPumaVictimDraws" [.draw 1 .chosen]]

def protectingHornAbility : List GameRule :=
  [rule .modifierPlayed .ownerEvent
       [.chooseValue [1, -1] (some "Choose +1 or -1 for the roll"), .applyModifier]]

def qiBearAbility : List GameRule :=
  [onSelf .rollSuccess
       [.chooseCard { zone := .hand, owner := .self }
          { question := some "Choose a card to discard" },
        .discard,
        .chooseCard { zone := .party, owner := .all, destroyable := true }
          { requiresKey := some CTX_DISCARDED_CARDS, question := some "Choose a hero to destroy" },
        .destroy,
        .chooseCard { zone := .hand, owner := .self }
          { requiresKey := some CTX_DISCARDED_CARDS, question := some "Choose a card to discard" },
        .discard,
        .chooseCard { zone := .party, owner := .all, destroyable := true }
          { requiresKey := some CTX_DISCARDED_CARDS, question := some "Choose a hero to destroy" },
        .destroy,
        .chooseCard { zone := .hand, owner := .self }
          { requiresKey := some CTX_DISCARDED_CARDS, question := some "Choose a card to discard" },
        .discard,
        .chooseCard { zone := .party, owner := .all, destroyable := true }
          { requiresKey := some CTX_DISCARDED_CARDS, question := some "Choose a hero to destroy" },
        .destroy]]

def quickDrawAbility : List GameRule :=
  [onSelf .rollSuccess [.draw 2, .cardTypeCondition .item CTX_DRAWN_CARD_IDS "QuickDrawDrewItem"],
   whenMet "QuickDrawDrewItem"
       [.confirm
          { confirms := "QuickDrawPlaysItem", question := some "Play the item you just drew?",
            subjectKey := some CTX_DRAWN_CARD_IDS }],
   whenConfirmed "QuickDrawPlaysItem"
       [.chooseCard
          { zone := .hand, owner := .self, cardType := some .item,
            among := some CTX_DRAWN_CARD_IDS }
          { resultKey := CTX_CHOSEN_ITEM, question := some "Choose an item to play" },
        .chooseCard { zone := .party, owner := .self, unequipped := true }
          { requiresKey := some CTX_CHOSEN_ITEM, question := some "Choose a hero to equip it to" },
        .playItem CTX_CHOSEN_ITEM]]

def radiantHornAbility : List GameRule :=
  [onSelf .rollSuccess
       [.chooseCard { zone := .discard, cardType := some .modifier }
          { question := some "Choose a modifier to add to your hand" },
        .retrieveCard]]

def reallyBigRingAbility : List GameRule :=
  [onSelf .itemEquippedToHero
       [.applyEffect
          { type := .rollBonus, value := some 2, scopedToCarrier := true,
            expiry := [.untilUnequipped] }]]

def rexMajorAbility : List GameRule :=
  [rule .cardDrawn .ownerEvent
       [.cardTypeCondition .modifier CTX_DRAWN_CARD_IDS "RexMajorDrewModifier"],
   whenMet "RexMajorDrewModifier"
       [.confirm
          { confirms := "RexMajorDrawsAgain",
            question := some "Reveal the modifier and draw again?", subjectKey := some
              CTX_DRAWN_CARD_IDS }],
   whenConfirmed "RexMajorDrawsAgain" [.reveal (.fromKey CTX_DRAWN_CARD_IDS) true, .draw 1],
   foughtBackDiscard "Choose a card to discard" "Choose a card to discard"]

def sealingKeyAbility : List GameRule :=
  [onSelf .itemEquippedToHero
       [.applyEffect
          { type := .cantUseHeroEffect, scopedToCarrier := true, expiry := [.untilUnequipped] }]]

def seriousGreyAbility : List GameRule :=
  [onSelf .rollPassing
       [.chooseCard { zone := .party, owner := .all, destroyable := true }
          { question := some "Choose a hero to destroy" },
        .targetRoll CTX_CHOSEN_CARD .party],
   onSelf .rollSuccess [.destroy, .draw 1]]

def shadowClawAbility : List GameRule :=
  [onSelf .leaderActivated
       [.choosePlayer { owner := .others } (some "Choose a player to pull a card from"),
        .pullCard]]

def sharpFoxAbility : List GameRule :=
  [onSelf .rollPassing
       [.choosePlayer { owner := .others } (some "Choose a player to look at their hand"),
        .targetRoll CTX_CHOSEN_PLAYER .hand],
   onSelf .rollSuccess [.reveal (.filter { zone := .hand, owner := .chosen }) false]]

def shurikittyAbility : List GameRule :=
  [onSelf .rollPassing
       [.chooseCard { zone := .party, owner := .all, destroyable := true }
          { question := some "Choose a hero to destroy" },
        .targetRoll CTX_CHOSEN_CARD .party],
   onSelf .rollSuccess [.destroy, .retrieveCard CTX_DESTROYED_HERO_ITEM]]

def silentShadowAbility : List GameRule :=
  [onSelf .rollPassing
       [.choosePlayer { owner := .others } (some "Choose a player to take a card from"),
        .targetRoll CTX_CHOSEN_PLAYER .hand],
   onSelf .rollSuccess
       [.chooseCard { zone := .hand, owner := .chosen }
          { question := some "Choose a card to take from their hand" },
        .retrieveCard]]

def slipperyPawsAbility : List GameRule :=
  [onSelf .rollPassing
       [.choosePlayer { owner := .others } (some "Choose a player to pull 2 cards from"),
        .targetRoll CTX_CHOSEN_PLAYER .hand],
   onSelf .rollSuccess
       [.pullCard { count := 2 },
        .chooseCard { zone := .hand, owner := .self, among := some CTX_PULLED_CARD_IDS }
          { question := some "Choose a pulled card to discard" },
        .discard]]

def slyPickingsAbility : List GameRule :=
  [onSelf .rollPassing
       [.choosePlayer { owner := .others } (some "Choose a player to pull a card from"),
        .targetRoll CTX_CHOSEN_PLAYER .hand],
   onSelf .rollSuccess
       [.pullCard, .cardTypeCondition .item CTX_PULLED_CARD_IDS "SlyPickingsPulledItem"],
   whenMet "SlyPickingsPulledItem"
       [.confirm
          { confirms := "SlyPickingsPlaysItem",
            question := some "Play the item you just pulled?", subjectKey := some
              CTX_PULLED_CARD_IDS }],
   whenConfirmed "SlyPickingsPlaysItem"
       [.chooseCard { zone := .party, owner := .self, unequipped := true }
          { question := some "Choose a hero to equip it to" },
        .playItem CTX_PULLED_CARD_IDS]]

def smoothMimimeowAbility : List GameRule :=
  [onSelf .rollSuccess
       [.pullCard { «from» := some { owner := .others, hasClass := some .thief } }]]

def snowballAbility : List GameRule :=
  [onSelf .rollSuccess [.draw 1, .cardTypeCondition .magic CTX_DRAWN_CARD_IDS "SnowballDrewMagic"],
   whenMet "SnowballDrewMagic"
       [.confirm
          { confirms := "SnowballPlayAndDraw",
            question := some "Play the magic card and draw again?", subjectKey := some
              CTX_DRAWN_CARD_IDS }],
   whenConfirmed "SnowballPlayAndDraw" [.playMagic CTX_DRAWN_CARD_IDS, .draw 1]]

def spookyAbility : List GameRule :=
  [onSelf .rollSuccess
       [.chooseCardEach { owner := .others, hasHeroes := true } { zone := .party }
          (some "Choose a hero to sacrifice"),
        .sacrificeEach]]

def suspiciouslyShinyCoinAbility : List GameRule :=
  [rule .rollSuccess .carrierCard
       [.chooseCard { zone := .hand, owner := .self }
          { question := some "Choose a card to discard" },
        .discard]]

def terratugaAbility : List GameRule :=
  [onSelf .monsterSlain [.applyEffect { type := .cantBeDestroyed }],
   foughtBackSacrifice]

def tipsyTootieAbility : List GameRule :=
  [onSelf .rollPassing
       [.choosePlayer { owner := .others, hasHeroes := true }
          (some "Choose a player to steal a hero from"),
        .targetRoll CTX_CHOSEN_PLAYER .party],
   onSelf .rollSuccess
       [.chooseCard { zone := .party, owner := .chosen }
          { question := some "Choose a hero to steal" },
        .stealFromParty,
        .giveHero CTX_SOURCE_CARD CTX_STOLEN_FROM_PLAYER]]

def titanWyvernAbility : List GameRule :=
  [onSelf .monsterSlain
       [.applyEffect { type := .rollBonus, value := some 1, rollContext := some .challenge }],
   foughtBackDiscard "Choose the first card to discard" "Choose the second card to discard"]

def toughTeddyAbility : List GameRule :=
  [onSelf .rollSuccess
       [.chooseCardEach { owner := .others, hasClass := some .fighter } { zone := .hand }
          (some "Choose a card to discard"),
        .discardEach]]

def vibrantGlowAbility : List GameRule :=
  [onSelf .rollSuccess
       [.applyEffect { type := .rollBonus, value := some 5, expiry := [.untilEndOfTurn] }]]

def warwornOwlbearAbility : List GameRule :=
  [onSelf .monsterSlain [.applyEffect { type := .cantBeChallenged, cardTypes := some [.item] }],
   foughtBackDiscard "Choose the first card to discard" "Choose the second card to discard"]

def whiskersAbility : List GameRule :=
  [onSelf .rollPassing
       [.chooseCard { zone := .party, owner := .others }
          { question := some "Choose a hero to steal" },
        .targetRoll CTX_CHOSEN_CARD .party,
        .chooseCard { zone := .party, owner := .all, destroyable := true }
          { resultKey := "whiskers.destroyedHero", question := some "Choose a hero to destroy" },
        .targetRoll "whiskers.destroyedHero" .party],
   onSelf .rollSuccess [.stealFromParty, .destroy "whiskers.destroyedHero"]]

def wigglesAbility : List GameRule :=
  [onSelf .rollPassing
       [.chooseCard { zone := .party, owner := .others }
          { question := some "Choose a hero to steal" },
        .targetRoll CTX_CHOSEN_CARD .party],
   onSelf .rollSuccess
       [.stealFromParty,
        .confirm
          { confirms := "RollOnHero", question := some "Roll to use the stolen hero's effect?",
            subjectKey := some CTX_STOLEN_HERO_ID }],
   whenConfirmed "RollOnHero" [.rollOnHero (some CTX_STOLEN_HERO_ID)]]

def wildshotAbility : List GameRule :=
  [onSelf .rollSuccess
       [.draw 3,
        .chooseCard { zone := .hand, owner := .self }
          { question := some "Choose a card to discard" },
        .discard]]

def wilyRedAbility : List GameRule := [onSelf .rollSuccess [.draw (-7)]]

def windsOfChangeAbility : List GameRule :=
  [onSelf .frameResolved
       [.chooseCard { zone := .equippedItem, owner := .all }
          { question := some "Choose an item to return to its owner" },
        .retrieveCard CTX_CHOSEN_CARD .cardOwner,
        .draw 1]]

def wiseShieldAbility : List GameRule :=
  [onSelf .rollSuccess
       [.applyEffect { type := .rollBonus, value := some 3, expiry := [.untilEndOfTurn] }]]

/-! ## The registry -/

/-- `allOf`: one declaration for every printed copy. -/
def allOf (ids : List String) (ability : List GameRule) : List (String × List GameRule) :=
  ids.map fun id => (id, ability)

/-- The ids of the modifiers of the base game. -/
def modifierIds : List String :=
  ["modifier-077", "modifier-078", "modifier-079", "modifier-080", "modifier-081", "modifier-082",
   "modifier-083", "modifier-084", "modifier-085", "modifier-086", "modifier-087", "modifier-088",
   "modifier-089", "modifier-090", "modifier-091", "modifier-092", "modifier-093", "modifier-094",
   "modifier-095", "modifier-096", "modifier-097", "modifier-098", "modifier-099", "modifier-100",
   "modifier-101"]

/-- The ids of the challenge cards of the base game. -/
def challengeIds : List String :=
  ["challenge-102", "challenge-103", "challenge-104", "challenge-105", "challenge-106",
   "challenge-107", "challenge-108", "challenge-109", "challenge-110", "challenge-111",
   "challenge-112", "challenge-113", "challenge-114", "challenge-115"]

/-- `abilityRegistry`, the entries of heroes, monsters, items and magic. -/
def printedAbilities : List (String × List GameRule) :=
  [("hero-001", badAxeAbility), ("hero-002", furyKnuckleAbility), ("hero-008", panChucksAbility),
   ("hero-009", seriousGreyAbility), ("hero-010", quickDrawAbility),
   ("hero-012", wildshotAbility), ("hero-014", bullseyeAbility), ("hero-015", wilyRedAbility),
   ("hero-016", sharpFoxAbility), ("hero-017", kitNapperAbility),
   ("hero-018", slyPickingsAbility), ("hero-019", meowzioAbility),
   ("hero-020", plunderingPumaAbility), ("hero-004", heavyBearAbility),
   ("hero-005", bearClawAbility), ("hero-006", toughTeddyAbility),
   ("hero-011", lookieRookieAbility), ("hero-021", silentShadowAbility),
   ("hero-024", smoothMimimeowAbility), ("hero-025", guidingLightAbility),
   ("hero-026", holyCurselifterAbility), ("hero-027", radiantHornAbility),
   ("hero-028", wiseShieldAbility), ("hero-031", mightyBladeAbility), ("hero-033", hopperAbility),
   ("hero-035", spookyAbility), ("hero-029", vibrantGlowAbility),
   ("hero-030", ironResolveAbility), ("hero-032", calmingVoiceAbility),
   ("hero-034", buttonsAbility), ("hero-036", wigglesAbility), ("hero-039", bunBunAbility),
   ("hero-037", whiskersAbility), ("hero-038", fluffyAbility), ("hero-040", snowballAbility),
   ("hero-047", greedyCheeksAbility), ("hero-041", mellowDeeAbility),
   ("hero-042", luckyBuckyAbility), ("hero-043", fuzzyCheeksAbility),
   ("hero-044", nappingNibblesAbility), ("hero-045", tipsyTootieAbility),
   ("hero-048", peanutAbility), ("monster-122", corruptedSabretoothAbility),
   ("monster-123", megaSlimeAbility), ("monster-124", anuranCauldronAbility),
   ("monster-126", dracosAbility), ("monster-127", bloodwingAbility),
   ("monster-128", arcticAriesAbility), ("monster-129", abyssQueenAbility),
   ("monster-130", terratugaAbility), ("monster-131", orthusAbility),
   ("monster-132", rexMajorAbility), ("hero-003", bearyWiseAbility), ("hero-007", qiBearAbility),
   ("hero-013", hookAbility), ("hero-023", shurikittyAbility), ("hero-046", dodgyDealerAbility),
   ("monster-125", crownedSerpentAbility), ("hero-022", slipperyPawsAbility),
   ("monster-133", darkDragonKingAbility), ("monster-134", malamammothAbility),
   ("monster-135", warwornOwlbearAbility), ("monster-136", titanWyvernAbility),
   ("item-062", particularlyRustyCoinAbility), ("item-063", particularlyRustyCoinAbility),
   ("item-064", reallyBigRingAbility), ("item-065", reallyBigRingAbility),
   ("item-066", decoyDollAbility), ("item-067", maskAbility), ("item-068", maskAbility),
   ("item-069", maskAbility), ("item-070", maskAbility), ("item-071", maskAbility),
   ("item-072", maskAbility), ("item-073", suspiciouslyShinyCoinAbility),
   ("item-074", curseOfTheSnakesEyesAbility), ("item-075", curseOfTheSnakesEyesAbility),
   ("item-076", sealingKeyAbility), ("magic-049", destructiveSpellAbility),
   ("magic-050", destructiveSpellAbility), ("magic-051", entanglingTrapAbility),
   ("magic-052", entanglingTrapAbility), ("magic-053", criticalBoostAbility),
   ("magic-054", criticalBoostAbility), ("magic-055", enchantedSpellAbility),
   ("magic-056", enchantedSpellAbility), ("magic-057", forcedExchangeAbility),
   ("magic-058", windsOfChangeAbility), ("magic-059", windsOfChangeAbility),
   ("magic-060", forcefulWindsAbility), ("magic-061", callToTheFallenAbility)]

/-- `abilityRegistry`, the entries of the leaders. -/
def leaderAbilities : List (String × List GameRule) :=
  [("leader-116", divineArrowAbility), ("leader-117", shadowClawAbility),
   ("leader-118", fistOfReasonAbility), ("leader-119", charismaticSongAbility),
   ("leader-120", cloakedSageAbility), ("leader-121", protectingHornAbility)]

/-- `abilityRegistry`. -/
def abilityRegistry : List (String × List GameRule) :=
  printedAbilities ++ allOf modifierIds modifierAbility ++ allOf challengeIds challengeAbility ++
    leaderAbilities

/-- `abilityRegistry.get(cardId) ?? []`. -/
def abilitiesOf (cardId : String) : List GameRule :=
  ((abilityRegistry.find? fun e => e.1 = cardId).map Prod.snd).getD []

/-- A rule of a card is a rule of some entry. -/
theorem mem_abilitiesOf {cardId : String} {rule : GameRule} (h : rule ∈ abilitiesOf cardId) :
    ∃ e ∈ abilityRegistry, rule ∈ e.2 := by
  unfold abilitiesOf at h
  cases hfind : abilityRegistry.find? fun e => e.1 = cardId with
  | none => simp [hfind] at h
  | some e => exact ⟨e, List.mem_of_find?_eq_some hfind, by simpa [hfind] using h⟩

/-- `isActivatable`. -/
def isActivatable (cardId : String) : Bool :=
  (abilitiesOf cardId).any fun rule =>
    rule.trigger.on = .leaderActivated && rule.trigger.scope = .selfCard

/-- `hasStandingRule`. -/
def hasStandingRule (cardId : String) : Bool :=
  (abilitiesOf cardId).any fun rule => rule.trigger.on ≠ .monsterFoughtBack

/-- The tables `createGame` wires the task manager with. -/
def gameRules : Rules := { abilities := abilitiesOf, heroRules, instanceRules }

end HereToSlaughter
