import Mathlib

/-!
# The shared vocabulary and the printed cards

The enumerations of `shared/src/enums.ts` that the engine reads, and the seven kinds of printed
card (`server/src/game/cards`) with the data the engine or a view reads off them. A card id is the
string the source uses; the data of a card never changes, so a game holds one table of cards
(`Card`) that every state shares. Images and descriptions are read by nothing modelled here.
-/

namespace HereToSlaughter

/-- `CardType`. -/
inductive CardType
  | hero | item | magic | modifier | challenge | monster | leader
  deriving DecidableEq

/-- `HeroClass`. -/
inductive HeroClass
  | fighter | guardian | ranger | thief | wizard | bard
  deriving DecidableEq

/-- The classes the game has: `Object.values(HeroClass)`. -/
def HeroClass.all : List HeroClass := [.fighter, .guardian, .ranger, .thief, .wizard, .bard]

/-- `GamePhase`. -/
inductive GamePhase
  | setup | turns | concluded
  deriving DecidableEq

/-- `TurnPhase`. -/
inductive TurnPhase
  | start | action | «end»
  deriving DecidableEq

/-- `ReactionWindowType`. -/
inductive ReactionWindowType
  | challenge | modifier | playerChoice | cardChoice | taskChoice | valueChoice | attack
  | monsterChoice
  deriving DecidableEq

/-- `RollContext`, the kinds of roll a standing bonus may be narrowed to. -/
inductive RollContext
  | any | challenge | attack | heroEffect
  deriving DecidableEq

/-- `RollResult`, the three outcomes a monster answers an attack with. -/
inductive RollResult
  | slay | fightBack | miss
  deriving DecidableEq

/-- `RollCompareMode`. -/
inductive RollCompareMode
  | highToWin | lowToWin
  deriving DecidableEq

/-- `Zone`, the places a choice filter may look. -/
inductive Zone
  | hand | party | discard | equippedItem | monsterPile | mainDeckTop
  deriving DecidableEq

/-- `Owner`, whose cards a filter means. -/
inductive Owner
  | self | others | all | chosen
  deriving DecidableEq

/-- `TriggerScope`. -/
inductive TriggerScope
  | selfCard | carrierCard | ownerEvent | ownerTurn | attacker | anyone | targetsOwner
  deriving DecidableEq

/-- `PassiveType`, the standing rules an effect may install. -/
inductive PassiveType
  | rollBonus | actionPointBonus | modifierCounterBonus | cantBeStolen | cantBeDestroyed
  | stealsInsteadOfDestroy | takesTheHit | cantBeChallenged | cantUseHeroEffect
  deriving DecidableEq

/-- `Audience`. -/
inductive Audience
  | all | playerOnly
  deriving DecidableEq

/-- `WinConditionType`. -/
inductive WinConditionType
  | slayMonsters | partyClasses
  deriving DecidableEq

/-- `RefusalReason`, why a request was not taken. -/
inductive RefusalReason
  | gameOver | notYourTurn | busy | noActionPoints | cardNotInHand | handFull | deckEmpty
  | heroNotInParty | notYourLeader | leaderNotActivatable | abilityAlreadyUsed
  | heroEffectSealed | notAnItem | notAHero | heroAlreadyEquipped | notYourHero | notAnEnemyHero
  | monsterNotInRow | partyRequirementUnmet | alreadyChallengedThisTurn | noChallengeWindow
  | challengeAlreadyStarted | challengeNotStarted | cannotChallengeOwnCard | noModifiableWindow
  | targetNotRolling | targetNotInChallenge | targetRequired | notAModifier | valueNotOnCard
  | noSuchWindow | windowNotPassable | wrongRespondent | notAnOption | gameNotOver
  deriving DecidableEq

/-- `RequestResult`. -/
inductive RequestResult
  | accepted
  | refused (reason : RefusalReason)
  deriving DecidableEq

/-- The `accepted` flag of a result. -/
def RequestResult.isAccepted : RequestResult → Bool
  | .accepted => true
  | .refused _ => false

/-! ## Numbers that may be missing -/

/-- A JavaScript number as a roll meets it: an integer, or the `NaN` that adding a value nobody
gave leaves behind. -/
inductive JsNumber
  | int (n : Int)
  | nan
  deriving DecidableEq

namespace JsNumber

/-- Addition; `NaN` absorbs. -/
def add : JsNumber → JsNumber → JsNumber
  | .int a, .int b => .int (a + b)
  | _, _ => .nan

/-- `a < b`; false when either is `NaN`. -/
def lt : JsNumber → JsNumber → Bool
  | .int a, .int b => a < b
  | _, _ => false

/-- `a <= b`; false when either is `NaN`. -/
def le : JsNumber → JsNumber → Bool
  | .int a, .int b => a ≤ b
  | _, _ => false

/-- `String(n)`. -/
def toText : JsNumber → String
  | .int n => toString n
  | .nan => "NaN"

end JsNumber

/-! ## Printed cards -/

/-- `HeroClassReq`: an entry of a monster's `partyReq`, a class or `'Any'`. -/
inductive HeroClassReq
  | named (heroClass : HeroClass)
  | any
  deriving DecidableEq

/-- `MonsterCardData`, what a monster asks for and how its roll is read. -/
structure MonsterCardData where
  lowerReq : Int
  higherReq : Int
  rollCompareMode : RollCompareMode
  partyReq : List HeroClassReq
  deriving DecidableEq

/-- The data that depends on the type of the card: the seven `…CardData` records. -/
inductive CardData
  | hero (heroClass : HeroClass) (rollReq : Int)
  | item (cursed : Bool) (heroClass : Option HeroClass)
  | magic
  | modifier (values : List Int)
  | challenge
  | monster (data : MonsterCardData)
  | leader (heroClass : HeroClass)
  deriving DecidableEq

/-- `CardBase` with the data of its type. -/
structure Card where
  id : String
  name : String
  set : String
  data : CardData
  deriving DecidableEq

/-- `ICard.getType`. -/
def Card.getType (card : Card) : CardType :=
  match card.data with
  | .hero .. => .hero
  | .item .. => .item
  | .magic => .magic
  | .modifier _ => .modifier
  | .challenge => .challenge
  | .monster _ => .monster
  | .leader _ => .leader

/-- The pool a monster's named classes are taken from, one hero per entry: `heroesCover`'s loop.
`none` when an entry finds no hero of its class. -/
def MonsterCardData.cover (pool : List HeroClass) : List HeroClass → Option (List HeroClass)
  | [] => some pool
  | cls :: rest => if cls ∈ pool then MonsterCardData.cover (pool.erase cls) rest else none

/-- The classes a monster names, `'Any'` entries aside. -/
def MonsterCardData.named (data : MonsterCardData) : List HeroClass :=
  data.partyReq.filterMap fun req => match req with
    | .named cls => some cls
    | .any => none

/-- `heroesCover`: the entries are covered and enough heroes are left for the `'Any'` ones. -/
def MonsterCardData.heroesCover (data : MonsterCardData) (heroClasses : List HeroClass)
    (entries : List HeroClass) : Bool :=
  match MonsterCardData.cover heroClasses entries with
  | none => false
  | some pool => pool.length ≥ data.partyReq.length - data.named.length

/-- `MonsterCard.canBeAttackedBy`: the heroes cover the requirement, or they do once the leader
stands in for one named class. -/
def MonsterCardData.canBeAttackedBy (data : MonsterCardData) (heroClasses : List HeroClass)
    (leaderClass : Option HeroClass) : Bool :=
  if data.heroesCover heroClasses data.named then true
  else match leaderClass with
    | none => false
    | some cls =>
      if cls ∈ data.named then data.heroesCover heroClasses (data.named.erase cls) else false

/-- `MonsterCard.trySlay`: which band the roll falls in, read in the printed direction. -/
def MonsterCardData.trySlay (data : MonsterCardData) (roll : JsNumber) : RollResult :=
  match data.rollCompareMode with
  | .highToWin =>
    if (JsNumber.int data.higherReq).le roll then .slay
    else if roll.le (.int data.lowerReq) then .fightBack else .miss
  | .lowToWin =>
    if roll.le (.int data.higherReq) then .slay
    else if (JsNumber.int data.lowerReq).le roll then .fightBack else .miss

end HereToSlaughter
