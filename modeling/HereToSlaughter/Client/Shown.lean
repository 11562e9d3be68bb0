import HereToSlaughter.Lib.Checked
import HereToSlaughter.Model.PlayerView

/-!
# What a view shows of the board

A view that could be drawn shows every zone card by card (`Shows`), and every card on it is the one
registered under the id it bears.

Reference: `views/player-view.ts`.
-/

namespace HereToSlaughter

open Lib

/-- Every card is registered under the id printed on it. -/
def Cards.Labelled (cards : Cards) : Prop :=
  ∀ cardId card, cards.get? cardId = some card → card.id = cardId

/-- The cards of a game are looked up under their own ids. -/
theorem GameSetup.labelled (setup : GameSetup) : setup.table.cards.Labelled := by
  intro cardId card hget
  have hmem := OrderedMap.mem_of_mem_ofList (OrderedMap.get?_eq_some.1 hget)
  obtain ⟨_, -, heq⟩ := List.mem_map.1 hmem
  cases heq
  rfl

/-! ## The parts of a view -/

/-- The cards a view shows for some ids. -/
def Cards.Face (cards : Cards) : List String → List Card → Prop :=
  List.Forall₂ fun cardId card => cards.get? cardId = some card

/-- A card that is shown is in the table. -/
theorem cardOf_ok {T : Table} {cardId : String} {card : Card} (h : cardOf T cardId = .ok card) :
    T.cards.get? cardId = some card := by
  unfold cardOf at h
  split at h
  · cases h; assumption
  · cases h

/-- Cards that are shown are in the table, one for each id. -/
theorem face_of_mapM {T : Table} {cardIds : List String} {cards : List Card}
    (h : cardIds.mapM (cardOf T) = .ok cards) : T.cards.Face cardIds cards :=
  (forall₂_of_mapM h).imp fun _ _ => cardOf_ok

section
variable {T : Table} {b : Board} {playerId : String}

/-- What a seat's view shows of it. -/
theorem seatView_ok {seat : Nat} {view : SeatView} (h : seatView b playerId seat = .ok view) :
    view.playerId = playerId ∧
      ∃ player, b.players.get? playerId = some player ∧
      view.actionPoints = player.actionPoints := by
  obtain ⟨player, hplayer, h⟩ := ok_of_bind h
  cases h
  unfold Board.requirePlayer at hplayer
  split at hplayer
  · cases hplayer
    exact ⟨rfl, _, ‹_›, rfl⟩
  · cases hplayer

/-- A hero of a party, as it is shown. -/
structure HeroInPlayView.Shows (T : Table) (b : Board) (playerId : String) (party : Party)
    (heroId : String) (view : HeroInPlayView) : Prop where
  card : T.cards.get? heroId = some view.card
  equippedItem : view.equippedItem.isNone = (party.getEquippedItem heroId).isNone
  gear : ∀ item, view.equippedItem = some item → ∃ itemId, T.cards.get? itemId = some item
  canRollOn : view.canRollOn =
    (heroId ∉ b.abilitiesUsedThisTurn && b.canUseHeroEffect playerId heroId)

/-- A hero that is shown is the one in the party. -/
theorem heroInPlayView_ok {party : Party} {heroId : String} {view : HeroInPlayView}
    (h : heroInPlayView T b playerId party heroId = .ok view) :
    view.Shows T b playerId party heroId := by
  obtain ⟨card, hcard, h⟩ := ok_of_bind h
  obtain ⟨equippedItem, hitem, h⟩ := ok_of_bind h
  cases h
  cases hworn : party.getEquippedItem heroId with
  | none =>
    rw [hworn] at hitem
    cases hitem
    exact ⟨cardOf_ok hcard, by simp [hworn], fun _ h => (nomatch h), rfl⟩
  | some itemId =>
    rw [hworn] at hitem
    cases hget : cardOf T itemId with
    | error e =>
      rw [Option.mapM_some, hget] at hitem
      cases hitem
    | ok item =>
      rw [Option.mapM_some, hget] at hitem
      cases hitem
      exact ⟨cardOf_ok hcard, by simp [hworn],
        fun _ h => by cases h; exact ⟨_, cardOf_ok hget⟩, rfl⟩

/-- A party, as it is shown. -/
structure PartyView.Shows (T : Table) (b : Board) (playerId : String) (party : Party)
    (view : PartyView) : Prop where
  owner : view.playerId = playerId
  leader : T.cards.get? party.leaderId = some view.leader
  heroes : List.Forall₂ (fun heroId hero => hero.Shows T b playerId party heroId) party.heroIds
    view.heroes
  monsters : T.cards.Face party.monsterIds view.monsters
  instanceCards : T.cards.Face party.instanceCardIds view.instanceCards
  canRollOnLeader : view.canRollOnLeader =
    (isActivatable party.leaderId && party.leaderId ∉ b.abilitiesUsedThisTurn)

/-- A party that is shown is the one on the board. -/
theorem partyView_ok {view : PartyView} (h : partyView T b playerId = .ok view) :
    ∃ party, b.parties.get? playerId = some party ∧ view.Shows T b playerId party := by
  obtain ⟨party, hparty, h⟩ := ok_of_bind h
  obtain ⟨leader, hleader, h⟩ := ok_of_bind h
  obtain ⟨heroes, hheroes, h⟩ := ok_of_bind h
  obtain ⟨monsters, hmonsters, h⟩ := ok_of_bind h
  obtain ⟨instanceCards, hinstance, h⟩ := ok_of_bind h
  cases h
  unfold Board.getParty at hparty
  split at hparty
  · cases hparty
    exact ⟨_, ‹_›, rfl, cardOf_ok hleader,
      (forall₂_of_mapM hheroes).imp fun _ _ => heroInPlayView_ok, face_of_mapM hmonsters,
      face_of_mapM hinstance, rfl⟩
  · cases hparty

end

/-! ## The view -/

/-- What a view shows. -/
structure PlayerView.Shows (T : Table) (w : World) (playerId : String) (view : PlayerView) :
    Prop where
  owner : view.playerId = playerId
  seats : List.Forall₂ (fun seat shown => seatView w.gs.board seat.1 seat.2 = .ok shown)
    w.playerOrder.zipIdx view.seats
  currentPlayerId : view.currentPlayerId = w.gs.board.currentPlayerId
  phase : view.phase = w.gs.board.gamePhase
  hand : T.cards.Face (w.gs.board.hand playerId) view.hand
  parties : List.Forall₂ (fun seatId shown => partyView T w.gs.board seatId = .ok shown)
    w.playerOrder view.parties
  mainDeckCount : view.mainDeckCount = w.gs.board.mainDeck.length
  discardPile : T.cards.Face w.gs.board.discardPile view.discardPile
  monsterRow : T.cards.Face w.gs.board.monsterPile view.monsterRow
  attackableMonsterIds : view.attackableMonsterIds = w.gs.board.monsterPile.filter fun monsterId =>
    (w.gs.board.canAttackMonster T.cards playerId monsterId).isAccepted
  pendingWindows : view.pendingWindows =
    w.gs.openWindows.map (pendingWindowView T.cards w.gs.board playerId)
  busy : view.busy = w.gs.isBusy

/-- A view that is shown is that of the state. -/
theorem playerView_ok {T : Table} {w : World} {playerId : String} {view : PlayerView}
    (h : playerView T w playerId = .ok view) : view.Shows T w playerId := by
  unfold playerView at h
  dsimp only at h
  split at h
  · cases h
  rename_i you hyou
  obtain ⟨seats, hseats, h⟩ := ok_of_bind h
  obtain ⟨hand, hhand, h⟩ := ok_of_bind h
  obtain ⟨parties, hparties, h⟩ := ok_of_bind h
  obtain ⟨discardPile, hdiscard, h⟩ := ok_of_bind h
  obtain ⟨revealedCards, hrevealed, h⟩ := ok_of_bind h
  obtain ⟨monsterRow, hrow, h⟩ := ok_of_bind h
  obtain ⟨passiveCardIds, -, h⟩ := ok_of_bind h
  cases h
  exact ⟨rfl, forall₂_of_mapM hseats, rfl,
    rfl, by simpa [Board.hand, hyou] using face_of_mapM hhand, forall₂_of_mapM hparties, rfl,
      face_of_mapM hdiscard, face_of_mapM hrow, rfl, rfl, rfl⟩

/-! ## Cards on the screen -/

namespace PlayerView

/-- `allCards`: every card the screen shows. -/
def allCards (view : PlayerView) : List Card :=
  view.hand ++ view.monsterRow ++ view.discardPile ++ view.parties.flatMap fun party =>
    party.leader ::
      party.heroes.flatMap (fun hero => hero.card :: hero.equippedItem.toList) ++
      party.monsters ++ party.instanceCards

/-- `cardById`. -/
def cardById (view : PlayerView) (cardId : Option String) : Option Card :=
  cardId.bind fun cardId => view.allCards.find? (·.id = cardId)

variable {T : Table} {w : World} {playerId : String} {view : PlayerView} {card : Card}

/-- A card of a party on the screen is a registered one. -/
theorem registered_of_party {b : Board} {party : Party} {shown : PartyView}
    (h : shown.Shows T b playerId party)
    (hcard : card ∈ shown.leader ::
      shown.heroes.flatMap (fun hero => hero.card :: hero.equippedItem.toList) ++
      shown.monsters ++ shown.instanceCards) : ∃ cardId, T.cards.get? cardId = some card := by
  simp only [List.mem_append, List.mem_cons, List.mem_flatMap, Option.mem_toList] at hcard
  obtain ((rfl | ⟨hero, hhero, rfl | hitem⟩) | hmonster) | hinstance := hcard
  · exact ⟨_, h.leader⟩
  · obtain ⟨heroId, -, hshows⟩ := exists_of_mem_forall₂ h.heroes hhero
    exact ⟨heroId, hshows.card⟩
  · obtain ⟨heroId, -, hshows⟩ := exists_of_mem_forall₂ h.heroes hhero
    exact hshows.gear _ hitem
  · obtain ⟨cardId, -, hget⟩ := exists_of_mem_forall₂ h.monsters hmonster
    exact ⟨cardId, hget⟩
  · obtain ⟨cardId, -, hget⟩ := exists_of_mem_forall₂ h.instanceCards hinstance
    exact ⟨cardId, hget⟩

/-- A card on the screen is a registered one. -/
theorem Shows.registered (h : view.Shows T w playerId) (hcard : card ∈ view.allCards) :
    ∃ cardId, T.cards.get? cardId = some card := by
  rcases List.mem_append.1 hcard with hzone | hparty
  · have hzone : card ∈ view.hand ∨ card ∈ view.monsterRow ∨ card ∈ view.discardPile := by
      simpa using hzone
    obtain hhand | hrow | hdiscard := hzone
    · obtain ⟨cardId, -, hget⟩ := exists_of_mem_forall₂ h.hand hhand
      exact ⟨cardId, hget⟩
    · obtain ⟨cardId, -, hget⟩ := exists_of_mem_forall₂ h.monsterRow hrow
      exact ⟨cardId, hget⟩
    · obtain ⟨cardId, -, hget⟩ := exists_of_mem_forall₂ h.discardPile hdiscard
      exact ⟨cardId, hget⟩
  · obtain ⟨shown, hshown, hparty⟩ := List.mem_flatMap.1 hparty
    obtain ⟨seatId, -, hview⟩ := exists_of_mem_forall₂ h.parties hshown
    obtain ⟨party, -, hshows⟩ := partyView_ok hview
    exact registered_of_party hshows hparty

/-- A card on the screen is found there by its id, as it is registered. -/
theorem Shows.cardById (h : view.Shows T w playerId) (hlabelled : T.cards.Labelled)
    {cardId : String} (hshown : cardId ∈ view.allCards.map Card.id) :
    view.cardById (some cardId) = T.cards.get? cardId := by
  obtain ⟨card, hcard, rfl⟩ := List.mem_map.1 hshown
  have hsome : (view.allCards.find? (·.id = card.id)).isSome = true :=
    List.find?_isSome.2 ⟨card, hcard, by simp⟩
  obtain ⟨found, hfound⟩ := Option.isSome_iff_exists.1 hsome
  obtain ⟨foundId, hget⟩ := h.registered (List.mem_of_find?_eq_some hfound)
  have hid : found.id = card.id := by simpa using List.find?_some hfound
  obtain rfl : card.id = foundId := hid.symm.trans (hlabelled foundId found hget)
  exact hfound.trans hget.symm

/-- The face-up monsters are on the screen. -/
theorem Shows.monster_shown (h : view.Shows T w playerId) (hlabelled : T.cards.Labelled)
    {monsterId : String} (hrow : monsterId ∈ w.gs.board.monsterPile) :
    monsterId ∈ view.allCards.map Card.id := by
  have hids : view.monsterRow.map Card.id = w.gs.board.monsterPile := by
    have hface := h.monsterRow
    revert hface
    generalize view.monsterRow = shown
    generalize w.gs.board.monsterPile = row
    intro hface
    induction hface with
    | nil => rfl
    | cons hget _ ih => rw [List.map_cons, ih, hlabelled _ _ hget]
  have : monsterId ∈ view.monsterRow.map Card.id := hids ▸ hrow
  exact List.map_subset _ (fun card hcard => by simp [allCards, hcard]) this

end PlayerView

end HereToSlaughter
