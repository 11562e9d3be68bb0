import HereToSlaughter.Model.GameState

/-!
# Choice filters

Which players and which cards a choice may offer: the declarative filters of an ability resolved
against the board at the moment a window opens.

Reference: `reactions/choice-filters.ts`.
-/

namespace HereToSlaughter

/-- `playersFor`: an owner scope as concrete player ids. -/
def playersFor (b : Board) (ctx : AbilityContext) : Owner → List String
  | .self => [ctx.ownerId]
  | .others => b.seats.filter (· ≠ ctx.ownerId)
  | .all => b.seats
  | .chosen => ctx.chosenPlayers

section
variable (cards : Cards)

/-- `filterPlayers`. -/
def filterPlayers (b : Board) (ctx : AbilityContext) (filter : PlayerFilter) : List String :=
  (playersFor b ctx filter.owner).filter fun id =>
    !filter.excludeIds.contains id &&
      (!filter.hasHeroes || !(b.heroIds id).isEmpty) &&
      match filter.hasClass with
      | none => true
      | some heroClass => (b.getPartyClasses cards id).contains heroClass

/-- `idsInZone`: the card ids of one zone for one player; the shared zones ignore the owner. -/
def idsInZone (b : Board) (zone : Zone) (ownerId : String) (top : Option Nat) : List String :=
  match zone with
  | .hand => b.hand ownerId
  | .party => b.heroIds ownerId
  | .equippedItem => (b.heroIds ownerId).filterMap b.getEquippedItem
  | .discard => b.discardPile
  | .monsterPile => b.monsterPile
  | .mainDeckTop => b.mainDeck.take (top.getD 1)

/-- `SHARED_ZONES`: the zones that belong to the table. -/
def Zone.isShared : Zone → Bool
  | .discard | .monsterPile | .mainDeckTop => true
  | _ => false

def isHero (cardId : String) : Bool :=
  match (cards.get? cardId).map Card.data with
  | some (.hero ..) => true
  | _ => false

/-- The filter's question about an item: cursed or plain; non-items never match. -/
def cursedIs (cardId : String) (cursed : Bool) : Bool :=
  match (cards.get? cardId).map Card.data with
  | some (.item c _) => c == cursed
  | _ => false

/-- `keep`: the filter's predicates over a candidate list. -/
def keep (b : Board) (ctx : AbilityContext) (filter : CardFilter) (ids : List String) :
    List String :=
  let exclude := filter.excludeIds ++ (filter.excludeKey.bind ctx.getIds).getD []
  ids.filter fun id =>
    !exclude.contains id &&
      (match filter.among with
        | none => true
        | some key => ((ctx.getIds key).getD []).contains id) &&
      (match filter.cardType with
        | none => true
        | some cardType => (cards.get? id).map Card.getType = some cardType) &&
      (match filter.heroClass with
        | none => true
        | some heroClass => b.getHeroClass cards id = some heroClass) &&
      (!filter.unequipped || (isHero cards id && (b.getEquippedItem id).isNone)) &&
      (match filter.cursed with
        | none => true
        | some cursed => cursedIs cards id cursed) &&
      (!filter.destroyable || (isHero cards id && b.canBeDestroyed id)) &&
      (!filter.partyReqMet || (b.canAttackMonster cards ctx.ownerId id).isAccepted)

/-- `filterCards`: a shared zone is read once, with no owner. -/
def filterCards (b : Board) (ctx : AbilityContext) (filter : CardFilter) : List String :=
  keep cards b ctx filter <|
    if filter.zone.isShared then idsInZone b filter.zone "" filter.top
    else (playersFor b ctx filter.owner).flatMap fun ownerId =>
      idsInZone b filter.zone ownerId filter.top

/-- `cardsOf`: one seat's own cards in the zone, under the same filter. -/
def cardsOf (b : Board) (ctx : AbilityContext) (filter : CardFilter) (ownerId : String) :
    List String :=
  keep cards b ctx filter (idsInZone b filter.zone ownerId filter.top)

end

end HereToSlaughter
