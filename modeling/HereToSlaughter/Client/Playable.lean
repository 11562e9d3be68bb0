import HereToSlaughter.Client.Shown
import HereToSlaughter.Model.Actions
import HereToSlaughter.Runs.Basic

/-!
# What the client offers

The client lights what a seat may do from its view alone (`derivePlayable`), with the prices, the
hand limit and the rule on where an item goes written a second time. On an idle board the engine
takes everything that is lit for the active seat, except items: the screen shows a card that stands
among the heroes of a party as a hero, and the engine asks whether it is one and looks up the seat
that owns it (`offered_accepted_iff`).

Reference: `client/src/board/{playable,viewTargets}.ts`, `activate` of `client/src/board/Board.tsx`.
-/

namespace HereToSlaughter

open Lib

/-! ## Windows on the screen -/

namespace PendingWindowView

variable (window : PendingWindowView)

/-- `detail?.challenged === true`. -/
def challenged : Bool :=
  match window.detail with
  | some (.challenge detail) => detail.challenged
  | _ => false

/-- `detail?.challengeable !== false`. -/
def challengeable : Bool :=
  match window.detail with
  | some (.challenge detail) => detail.challengeable
  | _ => true

/-- `detail?.passedBy`, when it is an array. -/
def passedBy : List String :=
  match window.detail with
  | some (.roll detail) => detail.passedBy
  | some (.challenge detail) => detail.passedBy
  | _ => []

end PendingWindowView

/-- `item.type === 'Item' && item.cursed === true`. -/
def Card.cursed (card : Card) : Bool :=
  match card.data with
  | .item cursed _ => cursed
  | _ => false

/-! ## The flags -/

namespace AP_COST

def attack : Int := 2

def draw : Int := 1

def playCard : Int := 1

def rollOnHero : Int := 1

def rollOnLeader : Int := 1

def redraw : Int := 3

end AP_COST

/-- `PlayableFlags`. -/
structure PlayableFlags where
  monsters : List Bool
  mainDeck : Bool
  leader : Bool
  heroes : List Bool
  hand : List Bool
  endTurn : Bool
  redraw : Bool
  passable : Option Nat
  passableWindows : List Nat

namespace PlayerView

variable (view : PlayerView)

/-- `MAX_HAND_SIZE`, as the client has it. -/
def MAX_HAND_SIZE : Nat := 10

/-- `onlyOptionalWindows`. -/
def onlyOptionalWindows : Bool :=
  0 < view.pendingWindows.length &&
    view.pendingWindows.all fun window => window.isYours && window.optional

/-- `takesModifier`. -/
def takesModifier : Bool :=
  view.pendingWindows.any fun window =>
    window.type = .modifier || window.type = .attack ||
      (window.type = .challenge && window.challenged)

/-- `takesChallenge`. -/
def takesChallenge : Bool :=
  view.pendingWindows.any fun window =>
    window.type = .challenge && window.cardId.any (· ≠ "") && window.respondentId ≠ view.playerId &&
      !window.challenged && window.challengeable

/-- `reactionCardType`: a started challenge takes modifiers, and that reading wins. -/
def reactionCardType : Option CardType :=
  if view.phase ≠ .turns then none
  else if view.takesModifier then some .modifier
  else if view.takesChallenge then some .challenge
  else none

/-- The sides an item is offered to. -/
def takesGear (item : Card) (party : PartyView) : Bool :=
  if item.cursed then party.playerId ≠ view.playerId else party.playerId = view.playerId

/-- `equipTargets`: the bare heroes of one's own party, of the others' for a cursed item. -/
def equipTargets (item : Card) : List (String × Nat) :=
  (view.parties.filter (view.takesGear item)).flatMap fun party =>
    party.heroes.zipIdx.flatMap fun (hero, index) =>
      if hero.equippedItem.isSome then [] else [(party.playerId, index)]

/-- `holdsAnswer`. -/
def holdsAnswer : Bool :=
  match view.reactionCardType with
  | none => false
  | some answers => view.hand.any fun card => card.getType = answers

/-- The party of the viewer. -/
def mine : Option PartyView := view.parties.find? (·.playerId = view.playerId)

/-- The action points of the viewer. -/
def actionPoints : Int :=
  ((view.seats.find? (·.playerId = view.playerId)).map SeatView.actionPoints).getD 0

/-- `actionWindow`: the table waits for an action of the viewer. -/
def actionWindow : Bool :=
  view.phase = .turns && view.currentPlayerId = some view.playerId &&
    (!view.busy || view.onlyOptionalWindows)

/-- `afford`. -/
def afford (cost : Int) : Bool := view.actionWindow && cost ≤ view.actionPoints

/-- The flag of a card in hand. -/
def playable (card : Card) : Bool :=
  match card.getType with
  | .modifier => view.phase = .turns && view.takesModifier
  | .challenge => view.phase = .turns && view.takesChallenge
  | .item => view.afford AP_COST.playCard && 0 < (view.equipTargets card).length
  | .hero | .magic => view.afford AP_COST.playCard
  | _ => false

/-- The windows the Skip button gives up. -/
def passableWindows : List Nat :=
  let tableWindows :=
    if view.phase = .turns then view.pendingWindows.filter fun window => window.canPass else []
  (tableWindows.filter fun window => !window.passedBy.contains view.playerId).map
    PendingWindowView.windowId

/-- `derivePlayable`. -/
def derivePlayable : PlayableFlags where
  monsters := view.monsterRow.map fun monster =>
    view.afford AP_COST.attack && view.attackableMonsterIds.contains monster.id
  mainDeck := view.afford AP_COST.draw && view.hand.length < MAX_HAND_SIZE && 0 < view.mainDeckCount
  leader := view.mine.any fun mine => view.afford AP_COST.rollOnLeader && mine.canRollOnLeader
  heroes := (view.mine.map PartyView.heroes).getD [] |>.map fun hero =>
    view.afford AP_COST.rollOnHero && hero.canRollOn
  hand := view.hand.map view.playable
  endTurn := view.actionWindow
  redraw := view.afford AP_COST.redraw
  passable := view.passableWindows.head?
  passableWindows := view.passableWindows

/-! ## What a press asks for -/

/-- `idForTargetKey` on the key of a hero. -/
def idForTarget (target : String × Nat) : Option String :=
  (view.parties.find? (·.playerId = target.1)).bind fun party =>
    party.heroes[target.2]?.map fun hero => hero.card.id

/-- A card of the hand is pressed: an item asks for each of its targets. -/
def press (card : Card) : List ActionKind :=
  match card.getType with
  | .hero => [.playHero card.id]
  | .magic => [.playMagic card.id]
  | .item => (view.equipTargets card).filterMap fun target =>
      (view.idForTarget target).map (ActionKind.playItem card.id)
  | _ => []

/-- The elements whose flag is up. -/
def lit {α : Type} (elements : List α) (flags : List Bool) : List α :=
  ((elements.zip flags).filter Prod.snd).map Prod.fst

/-- The actions behind the flags, `activate`. -/
def offered : List ActionKind :=
  let flags := view.derivePlayable
  (if flags.mainDeck then [.drawCard] else []) ++ (if flags.redraw then [.reDraw] else []) ++
    (if flags.endTurn then [.endTurn] else []) ++ (lit view.hand flags.hand).flatMap view.press ++
    (lit ((view.mine.map PartyView.heroes).getD []) flags.heroes).map
      (fun hero => .rollOnHero hero.card.id) ++
    (if flags.leader then view.mine.toList.map fun mine => .rollOnLeader mine.leader.id else []) ++
    (lit view.monsterRow flags.monsters).map fun monster => .attackMonster monster.id

/-! ## What stands behind a flag -/

variable {view : PlayerView}

/-- What is lit is what lights up. -/
theorem mem_lit_map {α : Type} {f : α → Bool} {a : α} :
    ∀ {l : List α}, a ∈ lit l (l.map f) ↔ a ∈ l ∧ f a = true
  | [] => by simp [lit]
  | x :: l => by
    have ih := mem_lit_map (f := f) (a := a) (l := l)
    simp only [lit, List.map_cons, List.zip_cons_cons, List.filter_cons] at ih ⊢
    cases hx : f x <;> simp [ih] <;> grind

/-- What is offered, and the flag it stands behind. -/
inductive Offers (view : PlayerView) : ActionKind → Prop
  | drawCard (hafford : view.afford AP_COST.draw = true) (hroom : view.hand.length < MAX_HAND_SIZE)
      (hdeck : 0 < view.mainDeckCount) : Offers view .drawCard
  | reDraw (hafford : view.afford AP_COST.redraw = true) : Offers view .reDraw
  | endTurn (haction : view.actionWindow = true) : Offers view .endTurn
  | press {card : Card} {kind : ActionKind} (hcard : card ∈ view.hand)
      (hplayable : view.playable card = true) (hpress : kind ∈ view.press card) : Offers view kind
  | rollOnHero {mine : PartyView} {hero : HeroInPlayView} (hmine : view.mine = some mine)
      (hhero : hero ∈ mine.heroes) (hafford : view.afford AP_COST.rollOnHero = true)
      (hroll : hero.canRollOn = true) : Offers view (.rollOnHero hero.card.id)
  | rollOnLeader {mine : PartyView} (hmine : view.mine = some mine)
      (hafford : view.afford AP_COST.rollOnLeader = true) (hroll : mine.canRollOnLeader = true) :
      Offers view (.rollOnLeader mine.leader.id)
  | attackMonster {monster : Card} (hmonster : monster ∈ view.monsterRow)
      (hafford : view.afford AP_COST.attack = true)
      (hattack : monster.id ∈ view.attackableMonsterIds) : Offers view (.attackMonster monster.id)

/-- What the client offers, spelled out. -/
theorem mem_offered {kind : ActionKind} : kind ∈ view.offered ↔ view.Offers kind := by
  constructor
  · intro h
    simp only [offered, List.mem_append, List.mem_flatMap, List.mem_map, List.mem_ite_nil_right,
      List.mem_singleton] at h
    simp only [derivePlayable, mem_lit_map, Bool.and_eq_true, decide_eq_true_eq] at h
    obtain (((((h | h) | h) | ⟨card, ⟨hcard, hplayable⟩, hpress⟩) | ⟨hero, ⟨hhero, h⟩, rfl⟩) | h) |
      ⟨monster, ⟨hmonster, h⟩, rfl⟩ := h
    · obtain ⟨⟨⟨hafford, hroom⟩, hdeck⟩, rfl⟩ := h
      exact .drawCard hafford hroom hdeck
    · obtain ⟨hafford, rfl⟩ := h
      exact .reDraw hafford
    · obtain ⟨haction, rfl⟩ := h
      exact .endTurn haction
    · exact .press hcard hplayable hpress
    · cases hmine : view.mine with
      | none => simp [hmine] at hhero
      | some mine =>
        exact .rollOnHero hmine (by simpa [hmine] using hhero) h.1 h.2
    · cases hmine : view.mine with
      | none => simp [hmine] at h
      | some mine =>
        obtain ⟨hflag, mine', hmine', rfl⟩ := h
        obtain rfl : mine' = mine := by simpa [hmine] using hmine'
        obtain ⟨hafford, hroll⟩ : _ ∧ _ := by simpa [hmine] using hflag
        exact .rollOnLeader hmine hafford hroll
    · rw [List.contains_iff_mem] at h
      exact .attackMonster hmonster h.1 h.2
  · intro h
    simp only [offered, derivePlayable, List.mem_append, List.mem_flatMap, List.mem_map,
      mem_lit_map]
    cases h with
    | drawCard hafford hroom hdeck => simp [hafford, hroom, hdeck]
    | reDraw hafford => simp [hafford]
    | endTurn haction => simp [haction]
    | press hcard hplayable hpress =>
      exact .inl (.inl (.inl (.inr ⟨_, ⟨hcard, hplayable⟩, hpress⟩)))
    | rollOnHero hmine hhero hafford hroll =>
      exact .inl (.inl (.inr ⟨_, ⟨by simpa [hmine] using hhero, by simp [hafford, hroll]⟩, rfl⟩))
    | rollOnLeader hmine hafford hroll =>
      exact .inl (.inr (by simp [hmine, hafford, hroll]))
    | attackMonster hmonster hafford hattack =>
      exact .inr ⟨_, ⟨hmonster, by simp [hafford, hattack]⟩, rfl⟩

/-- The targets lit for an item, spelled out. -/
theorem mem_equipTargets {card : Card} {target : String × Nat} :
    target ∈ view.equipTargets card ↔ ∃ party ∈ view.parties, view.takesGear card party = true ∧
      target.1 = party.playerId ∧
      ∃ hero, party.heroes[target.2]? = some hero ∧ hero.equippedItem = none := by
  simp only [equipTargets, List.mem_flatMap, List.mem_filter, and_assoc]
  refine exists_congr fun party => and_congr_right fun _ => and_congr_right fun _ => ?_
  constructor
  · rintro ⟨⟨hero, index⟩, hmem, htarget⟩
    dsimp only at htarget
    split at htarget
    · cases htarget
    · obtain rfl := List.mem_singleton.1 htarget
      exact ⟨rfl, hero, List.mem_zipIdx_iff_getElem?.1 hmem, Option.not_isSome_iff_eq_none.1 ‹_›⟩
  · rintro ⟨hseat, hero, hget, hbare⟩
    refine ⟨(hero, target.2), List.mem_zipIdx_iff_getElem?.2 hget, ?_⟩
    simp [hbare, ← hseat]

/-- Each seat is shown once. -/
def Distinct (view : PlayerView) : Prop :=
  ∀ party ∈ view.parties, ∀ party' ∈ view.parties, party.playerId = party'.playerId → party = party'

/-- A target is named by the hero it points at. -/
theorem idForTarget_eq (hdistinct : view.Distinct) {party : PartyView}
    (hparty : party ∈ view.parties)
    {target : String × Nat} (hseat : target.1 = party.playerId) :
    view.idForTarget target = party.heroes[target.2]?.map fun hero => hero.card.id := by
  have hsome : (view.parties.find? (·.playerId = target.1)).isSome = true :=
    List.find?_isSome.2 ⟨party, hparty, by simp [hseat]⟩
  obtain ⟨found, hfound⟩ := Option.isSome_iff_exists.1 hsome
  have hid : found.playerId = target.1 := by simpa using List.find?_some hfound
  obtain rfl := hdistinct found (List.mem_of_find?_eq_some hfound) party hparty (hid.trans hseat)
  simp [idForTarget, hfound]

/-- An item is pressed on every bare card among the heroes of the side it goes to. -/
theorem mem_press_item (hdistinct : view.Distinct) {card : Card} (htype : card.getType = .item)
    {kind : ActionKind} : kind ∈ view.press card ↔
      ∃ party ∈ view.parties, view.takesGear card party = true ∧
        ∃ hero ∈ party.heroes, hero.equippedItem = none ∧
        kind = .playItem card.id hero.card.id := by
  simp only [press, htype, List.mem_filterMap, mem_equipTargets]
  constructor
  · rintro ⟨target, ⟨party, hparty, hside, hseat, hero, hget, hbare⟩, hkind⟩
    rw [idForTarget_eq hdistinct hparty hseat, hget] at hkind
    cases hkind
    exact ⟨party, hparty, hside, hero, List.mem_of_getElem? hget, hbare, rfl⟩
  · rintro ⟨party, hparty, hside, hero, hhero, hbare, rfl⟩
    obtain ⟨index, hget⟩ := List.getElem?_of_mem hhero
    refine ⟨(party.playerId, index), ⟨party, hparty, hside, rfl, hero, hget, hbare⟩, ?_⟩
    rw [idForTarget_eq hdistinct hparty rfl, hget]
    rfl

/-! ## The board behind it -/

section
variable {T : Table} {w : World} {playerId : String}

/-- One seat has one view. -/
theorem Shows.distinct (h : view.Shows T w playerId) : view.Distinct := by
  intro party hparty party' hparty' hid
  obtain ⟨seat, -, hshown⟩ := exists_of_mem_forall₂ h.parties hparty
  obtain ⟨seat', -, hshown'⟩ := exists_of_mem_forall₂ h.parties hparty'
  obtain ⟨_, -, hshows⟩ := partyView_ok hshown
  obtain ⟨_, -, hshows'⟩ := partyView_ok hshown'
  obtain rfl : seat = seat' := hshows.owner.symm.trans (hid.trans hshows'.owner)
  cases hshown.symm.trans hshown'
  rfl

/-- The party of the viewer is its own. -/
theorem Shows.mine (h : view.Shows T w playerId) {mine : PartyView}
    (hmine : view.mine = some mine) :
    ∃ party, w.gs.board.parties.get? playerId = some party ∧
      mine.Shows T w.gs.board playerId party := by
  obtain ⟨seat, -, hshown⟩ := exists_of_mem_forall₂ h.parties (List.mem_of_find?_eq_some hmine)
  obtain ⟨party, hparty, hshows⟩ := partyView_ok hshown
  have hid : mine.playerId = view.playerId := by simpa using List.find?_some hmine
  obtain rfl : seat = playerId := hshows.owner.symm.trans (hid.trans h.owner)
  exact ⟨party, hparty, hshows⟩

/-- The action points of the viewer are its own. -/
theorem Shows.actionPoints (h : view.Shows T w playerId) (hseated : playerId ∈ w.playerOrder) :
    ∃ player, w.gs.board.players.get? playerId = some player ∧
      view.actionPoints = player.actionPoints := by
  obtain ⟨index, hindex⟩ := List.getElem?_of_mem hseated
  obtain ⟨shown, hshown, hview⟩ := exists_of_mem_forall₂ h.seats.flip
    (List.mem_zipIdx_iff_getElem?.2 hindex : (playerId, index) ∈ _)
  have hsome : (view.seats.find? (·.playerId = view.playerId)).isSome = true :=
    List.find?_isSome.2 ⟨shown, hshown, by simp [h.owner, (seatView_ok hview).1]⟩
  obtain ⟨found, hfound⟩ := Option.isSome_iff_exists.1 hsome
  obtain ⟨seat, -, hseat⟩ := exists_of_mem_forall₂ h.seats (List.mem_of_find?_eq_some hfound)
  obtain ⟨hid, player, hplayer, hpoints⟩ := seatView_ok hseat
  have hfoundId : found.playerId = view.playerId := by simpa using List.find?_some hfound
  refine ⟨player, ?_, by simp [PlayerView.actionPoints, hfound, hpoints]⟩
  rw [← h.owner, ← hfoundId, hid]
  exact hplayer

/-- A card shown in the hand is in the hand. -/
theorem Shows.hand_id (h : view.Shows T w playerId) (hlabelled : T.cards.Labelled) {card : Card}
    (hcard : card ∈ view.hand) :
    card.id ∈ w.gs.board.hand playerId ∧ T.cards.get? card.id = some card := by
  obtain ⟨cardId, hmem, hget⟩ := exists_of_mem_forall₂ h.hand hcard
  obtain rfl := hlabelled cardId card hget
  exact ⟨hmem, hget⟩

/-- A card in the hand is shown. -/
theorem Shows.hand_card (h : view.Shows T w playerId) {cardId : String}
    (hcard : cardId ∈ w.gs.board.hand playerId) :
    ∃ card ∈ view.hand, T.cards.get? cardId = some card :=
  exists_of_mem_forall₂ h.hand.flip hcard

end

end PlayerView

/-- What a hero of a seat's party carries there. -/
def Board.worn (b : Board) (playerId heroId : String) : Option String :=
  (b.parties.get? playerId).bind (Party.getEquippedItem heroId)

/-- What the client lights for an item is where the board has room for it. -/
theorem PlayerView.Shows.gear {T : Table} {w : World} {playerId : String} {view : PlayerView}
    (h : view.Shows T w playerId) (hlabelled : T.cards.Labelled) {card : Card} {heroId : String} :
    (∃ party ∈ view.parties, view.takesGear card party = true ∧
        ∃ hero ∈ party.heroes, hero.equippedItem = none ∧ hero.card.id = heroId) ↔
      ∃ seat ∈ w.playerOrder, (seat = playerId ↔ card.cursed = false) ∧
        heroId ∈ w.gs.board.heroIds seat ∧ w.gs.board.worn seat heroId = none := by
  have hside : ∀ {party : PartyView}, view.takesGear card party = true ↔
      (party.playerId = playerId ↔ card.cursed = false) := by
    intro party
    cases hcursed : card.cursed <;> simp [takesGear, hcursed, h.owner]
  constructor
  · rintro ⟨shown, hshown, htakes, hero, hhero, hbare, rfl⟩
    obtain ⟨seat, hseat, hview⟩ := exists_of_mem_forall₂ h.parties hshown
    obtain ⟨party, hparty, hshows⟩ := partyView_ok hview
    obtain ⟨heroId, hheroId, hheroView⟩ := exists_of_mem_forall₂ hshows.heroes hhero
    obtain rfl := hlabelled _ _ hheroView.card
    refine ⟨seat, hseat, hshows.owner ▸ hside.1 htakes, ?_, ?_⟩
    · simpa [Board.heroIds, hparty] using hheroId
    · simpa [Board.worn, hparty, hbare] using hheroView.equippedItem
  · rintro ⟨seat, hseat, htakes, hheroId, hbare⟩
    obtain ⟨shown, hshown, hview⟩ := exists_of_mem_forall₂ h.parties.flip hseat
    obtain ⟨party, hparty, hshows⟩ := partyView_ok hview
    have hheroId : heroId ∈ party.heroIds := by simpa [Board.heroIds, hparty] using hheroId
    obtain ⟨hero, hhero, hheroView⟩ := exists_of_mem_forall₂ hshows.heroes.flip hheroId
    refine ⟨shown, hshown, hside.2 (hshows.owner.symm ▸ htakes), hero, hhero, ?_,
      hlabelled _ _ hheroView.card⟩
    have hworn : party.getEquippedItem heroId = none := by simpa [Board.worn, hparty] using hbare
    simpa [hworn] using hheroView.equippedItem

/-! ## What the engine takes -/

/-- The seat that owns the card, by the engine's own look-up, is on the side an item goes to, and
the card is a hero that carries nothing. -/
structure Board.Suits (T : Table) (b : Board) (playerId : String) (cursed : Bool)
    (heroId : String) :
    Prop where
  hero : isHero T.cards heroId = true
  owner : ∃ ownerId, b.getCardOwner heroId = some ownerId ∧ (ownerId = playerId ↔ cursed = false)
  bare : b.getEquippedItem heroId = none

/-- As long as the seat can pay for a card, every card that stands bare among the heroes of a side
an item in its hand goes to, suits. -/
def Board.GearSuits (T : Table) (b : Board) (playerId : String) : Prop :=
  b.gamePhase = .turns → (b.players.get? playerId).any (1 ≤ ·.actionPoints) = true →
    ∀ itemId ∈ b.hand playerId, ∀ cursed masked,
      (T.cards.get? itemId).map Card.data = some (.item cursed masked) →
    ∀ seat ∈ b.seats, (seat = playerId ↔ cursed = false) →
    ∀ heroId ∈ b.heroIds seat, b.worn seat heroId = none → b.Suits T playerId cursed heroId

/-- What the server accepts for an item, as a property of the board. -/
theorem canEquip_accepted_iff {T : Table} {b : Board} {playerId itemId heroId : String}
    {cursed : Bool}
    {masked : Option HeroClass}
    (hitem : (T.cards.get? itemId).map Card.data = some (.item cursed masked)) :
    canEquip T b playerId itemId heroId = .accepted ↔ b.Suits T playerId cursed heroId := by
  simp only [canEquip, hitem]
  constructor
  · intro h
    cases hhero : isHero T.cards heroId with
    | false => simp [hhero] at h
    | true =>
      cases howner : b.getCardOwner heroId with
      | none => simp [hhero, howner] at h
      | some ownerId =>
        cases hworn : b.getEquippedItem heroId with
        | some worn => cases cursed <;> simp [hhero, howner, hworn] at h <;> split at h <;> cases h
        | none =>
          refine ⟨hhero, ⟨ownerId, howner, ?_⟩, hworn⟩
          cases cursed <;> by_cases hside : ownerId = playerId <;> simp_all
  · rintro ⟨hhero, ⟨ownerId, howner, hside⟩, hworn⟩
    cases cursed <;> simp_all

section
variable {T : Table} {b : Board} {playerId : String} {player : Player}

/-- A seat that can pay is asked for the rest. -/
theorem Action.canExecute_of_pays (hplayer : b.players.get? playerId = some player)
    (kind : ActionKind)
    (hpays : kind = .endTurn ∨ kind.cost ≤ player.actionPoints) :
    Action.canExecute T b ⟨playerId, kind⟩ = kind.canExecute T b playerId := by
  have hpays : ¬ (kind ≠ .endTurn ∧ player.actionPoints < kind.cost) := by
    rintro ⟨hkind, hprice⟩
    obtain hend | hpays := hpays
    · exact hkind hend
    · omega
  simp [Action.canExecute, Board.requirePlayer, hplayer, bind, Except.bind, hpays]

/-- A card in the hand passes the check for it. -/
theorem Board.hasInHand_of_mem (hplayer : b.players.get? playerId = some player) {cardId : String}
    (hcard : cardId ∈ b.hand playerId) : b.hasInHand playerId cardId = .ok true := by
  have hcard : cardId ∈ player.hand := by simpa [Board.hand, hplayer] using hcard
  simp [Board.hasInHand, Board.requirePlayer, hplayer, bind, Except.bind, pure, Except.pure, hcard]

end

/-! ## What is offered is taken -/

section
variable {setup : GameSetup} {w : World} {playerId : String} {view : PlayerView}

/-- The seats of a view's board. -/
theorem Reach.seatedIn (h : Reach setup w) : w.gs.board.SeatedIn w.playerOrder := by
  obtain ⟨k, hsound, -⟩ := h.sound
  exact hsound.seats.board

/-- A seat that is shown a view is seated. -/
theorem PlayerView.Shows.seated {T : Table} (hview : playerView T w playerId = .ok view) :
    (w.gs.board.players.get? playerId).isSome = true := by
  unfold playerView at hview
  dsimp only at hview
  split at hview
  · cases hview
  · simp [*]

/-- What is offered is taken, if the items are. -/
theorem PlayerView.Offers.taken {player : Player} (hshows : view.Shows setup.table w playerId)
    (hplayer : w.gs.board.players.get? playerId = some player)
    (hpoints : view.actionPoints = player.actionPoints) {kind : ActionKind}
    (hoffers : view.Offers kind)
    (hgear : view.afford AP_COST.playCard = true → ∀ card ∈ view.hand, card.getType = .item →
      ∀ heroId, .playItem card.id heroId ∈ view.press card →
        canEquip setup.table w.gs.board playerId card.id heroId = .accepted) :
    Action.canExecute setup.table w.gs.board ⟨playerId, kind⟩ = .ok .accepted := by
  have hpays : ∀ kind : ActionKind, kind = .endTurn ∨ view.afford kind.cost = true →
      Action.canExecute setup.table w.gs.board ⟨playerId, kind⟩ =
        kind.canExecute setup.table w.gs.board playerId := by
    refine fun kind hafford =>
      Action.canExecute_of_pays hplayer kind (hafford.imp_right fun h => ?_)
    rw [afford, Bool.and_eq_true, decide_eq_true_eq, hpoints] at h
    exact h.2
  have hhand : w.gs.board.hand playerId = player.hand := by simp [Board.hand, hplayer]
  cases hoffers with
  | drawCard hafford hroom hdeck =>
    have hroom : player.hand.length < HereToSlaughter.MAX_HAND_SIZE := by
      rw [← hhand, hshows.hand.length_eq]
      exact hroom
    have hdeck : w.gs.board.mainDeck ≠ [] := by
      rw [hshows.mainDeckCount] at hdeck
      exact List.ne_nil_of_length_pos hdeck
    rw [hpays .drawCard (.inr hafford)]
    simp [ActionKind.canExecute, Board.requirePlayer, hplayer, bind, Except.bind, pure, Except.pure,
      Nat.not_le.2 hroom, hdeck]
  | reDraw hafford => exact hpays .reDraw (.inr hafford)
  | endTurn haction => exact hpays .endTurn (.inl rfl)
  | press hcard hplayable hpress =>
    rename_i card
    obtain ⟨hmem, hget⟩ := hshows.hand_id setup.labelled hcard
    have hinHand := Board.hasInHand_of_mem hplayer hmem
    cases htype : card.getType with
    | hero =>
      simp only [PlayerView.playable, htype] at hplayable
      simp only [PlayerView.press, htype, List.mem_singleton] at hpress
      subst hpress
      rw [hpays (.playHero card.id) (.inr hplayable)]
      simp [ActionKind.canExecute, hinHand, bind, Except.bind, pure, Except.pure]
    | magic =>
      simp only [PlayerView.playable, htype] at hplayable
      simp only [PlayerView.press, htype, List.mem_singleton] at hpress
      subst hpress
      rw [hpays (.playMagic card.id) (.inr hplayable)]
      simp [ActionKind.canExecute, hinHand, bind, Except.bind, pure, Except.pure]
    | item =>
      simp only [PlayerView.playable, htype, Bool.and_eq_true] at hplayable
      obtain ⟨_, -, -, hero, -, -, rfl⟩ := (mem_press_item hshows.distinct htype).1 hpress
      rw [hpays (.playItem card.id hero.card.id) (.inr hplayable.1)]
      simp [ActionKind.canExecute, hinHand, bind, Except.bind, pure, Except.pure,
        hgear hplayable.1 card hcard htype _ hpress]
    | modifier | challenge | monster | leader => simp [PlayerView.press, htype] at hpress
  | rollOnHero hmine hhero hafford hroll =>
    obtain ⟨party, hparty, hmineShows⟩ := hshows.mine hmine
    obtain ⟨heroId, hheroId, hheroView⟩ := exists_of_mem_forall₂ hmineShows.heroes hhero
    obtain rfl := setup.labelled _ _ hheroView.card
    rw [hheroView.canRollOn, Bool.and_eq_true, decide_eq_true_eq] at hroll
    rw [hpays (.rollOnHero _) (.inr hafford)]
    simp [ActionKind.canExecute, Board.getParty, hparty, bind, Except.bind, pure, Except.pure,
      hheroId, hroll.1, hroll.2]
  | rollOnLeader hmine hafford hroll =>
    obtain ⟨party, hparty, hmineShows⟩ := hshows.mine hmine
    have hleader := setup.labelled _ _ hmineShows.leader
    rw [hmineShows.canRollOnLeader, Bool.and_eq_true, decide_eq_true_eq] at hroll
    rw [hpays (.rollOnLeader _) (.inr hafford), hleader]
    simp [ActionKind.canExecute, Board.getParty, hparty, bind, Except.bind, pure, Except.pure,
      hroll.1, hroll.2]
  | attackMonster hmonster hafford hattack =>
    rename_i monster
    rw [hshows.attackableMonsterIds, List.mem_filter] at hattack
    rw [hpays (.attackMonster monster.id) (.inr hafford)]
    cases hresult : w.gs.board.canAttackMonster setup.table.cards playerId monster.id with
    | accepted => simp [ActionKind.canExecute, hresult, pure, Except.pure]
    | refused reason => simp [hresult, RequestResult.isAccepted] at hattack

/-- On an idle board the engine takes everything that lights up for the seat whose turn it is
exactly when every bare card among the heroes an item of its hand goes to suits, as long as the seat
can pay for a card. No input has thrown half-way before. -/
theorem Reach.offered_accepted_iff (h : Reach setup w) (hidle : w.gs.isBusy = false)
    (hturn : w.gs.board.currentPlayerId = some playerId)
    (hview : playerView setup.table w playerId = .ok view) :
    (∀ kind ∈ view.offered,
        Action.canExecute setup.table w.gs.board ⟨playerId, kind⟩ = .ok .accepted) ↔
      w.gs.board.GearSuits setup.table playerId := by
  have hshows := playerView_ok hview
  have hseats := h.seatedIn
  have hseated : playerId ∈ w.playerOrder := by
    rw [← hseats.players]
    exact OrderedMap.get?_isSome.1 (PlayerView.Shows.seated hview)
  obtain ⟨player, hplayer, hpoints⟩ := hshows.actionPoints hseated
  have hsides : ∀ {heroId : String} {card : Card} {cursed : Bool} {masked : Option HeroClass},
      card.data = .item cursed masked →
      ((∃ party ∈ view.parties, view.takesGear card party = true ∧
          ∃ hero ∈ party.heroes, hero.equippedItem = none ∧ hero.card.id = heroId) ↔
        ∃ seat ∈ w.gs.board.seats, (seat = playerId ↔ cursed = false) ∧
          heroId ∈ w.gs.board.heroIds seat ∧ w.gs.board.worn seat heroId = none) := by
    intro heroId card cursed masked hdata
    have hcursed : card.cursed = cursed := by simp [Card.cursed, hdata]
    rw [hshows.gear setup.labelled, hcursed, Board.seats, hseats.players]
  constructor
  · intro htaken hphase hpays itemId hitemId cursed masked hdata seat hseat hside
      heroId hheroId hbare
    obtain ⟨card, hcard, hget⟩ := hshows.hand_card hitemId
    obtain rfl := setup.labelled _ _ hget
    have hdata' : card.data = .item cursed masked := by simpa [hget] using hdata
    have htype : card.getType = .item := by simp [Card.getType, hdata']
    obtain ⟨party, hparty, htakes, hero, hhero, hnone, rfl⟩ :=
      (hsides hdata').2 ⟨seat, hseat, hside, hheroId, hbare⟩
    have hpays : 1 ≤ player.actionPoints := by simpa [hplayer] using hpays
    have hafford : view.afford AP_COST.playCard = true := by
      simp [PlayerView.afford, PlayerView.actionWindow, hshows.phase, hphase,
        hshows.currentPlayerId, hturn, hshows.owner, hshows.busy, hidle, hpoints, AP_COST.playCard,
        hpays]
    have hpress := (PlayerView.mem_press_item hshows.distinct htype).2
      ⟨party, hparty, htakes, hero, hhero, hnone, rfl⟩
    have htargets : 0 < (view.equipTargets card).length := by
      simp only [PlayerView.press, htype, List.mem_filterMap] at hpress
      obtain ⟨target, htarget, -⟩ := hpress
      exact List.length_pos_of_mem htarget
    have hlit : view.playable card = true := by simp [PlayerView.playable, htype, hafford, htargets]
    have haccepted := htaken _ (PlayerView.mem_offered.2 (.press hcard hlit hpress))
    rw [Action.canExecute_of_pays hplayer (.playItem card.id hero.card.id)
      (.inr hpays)] at haccepted
    have hinHand := Board.hasInHand_of_mem hplayer hitemId
    simp only [ActionKind.canExecute, hinHand, bind, Except.bind, pure, Except.pure, if_true,
      Except.ok.injEq] at haccepted
    exact (canEquip_accepted_iff hdata).1 haccepted
  · intro hsuits kind hkind
    refine (PlayerView.mem_offered.1 hkind).taken hshows hplayer hpoints
      fun hafford card hcard htype heroId hpress => ?_
    obtain ⟨party, hparty, htakes, hero, hhero, hnone, heq⟩ :=
      (PlayerView.mem_press_item hshows.distinct htype).1 hpress
    obtain rfl : heroId = hero.card.id := by simpa using heq
    obtain ⟨hmem, hget⟩ := hshows.hand_id setup.labelled hcard
    obtain ⟨cursed, masked, hdata⟩ : ∃ cursed masked, card.data = .item cursed masked := by
      cases hdata : card.data with
      | item cursed masked => exact ⟨cursed, masked, rfl⟩
      | _ => simp [Card.getType, hdata] at htype
    have hitem : (setup.table.cards.get? card.id).map Card.data = some (.item cursed masked) := by
      simp [hget, hdata]
    simp only [PlayerView.afford, PlayerView.actionWindow, Bool.and_eq_true, decide_eq_true_eq,
      hpoints, hshows.phase] at hafford
    obtain ⟨seat, hseat, hside, hheroId, hbare⟩ :=
      (hsides hdata).1 ⟨party, hparty, htakes, hero, hhero, hnone, rfl⟩
    exact (canEquip_accepted_iff hitem).2 (hsuits hafford.1.1.1
      (by simpa [hplayer, AP_COST.playCard] using hafford.2) card.id hmem cursed masked hitem
        seat hseat hside _ hheroId
      hbare)

end

/-- A hand with a magic card and an item. -/
def itemInHand : GameSetup :=
  tableForTwo 2 [⟨"magic-100", "magic-100", "base", .magic⟩,
    ⟨"item-100", "item-100", "base", .item false none⟩, heroCard "hero-001" .fighter 8,
    heroCard "hero-002" .thief 8] []

/-- The magic card is played as a hero, the other seat passes, and the first one does not roll. -/
def magicAsHero : List Input :=
  [.command "A" (.action (.playHero "magic-100")), .command "B" (.passWindow 1),
   .command "A" (.submitChoice 4 (some (.id DISMISS)))]

/-- The table is idle again, and the item is offered to the magic card. -/
theorem magicAsHero_played :
    ((itemInHand.play 40 magicAsHero).any fun w => !w.gs.isBusy &&
      decide (w.gs.board.currentPlayerId = some "A") &&
      (playerView itemInHand.table w "A").toOption.any fun view =>
        view.offered.any fun kind =>
          match Action.canExecute itemInHand.table w.gs.board ⟨"A", kind⟩ with
          | .ok (.refused .notAHero) => true
          | _ => false) = true := by
  decide +kernel

/-- A magic card that went into a party as a hero is offered a roll, which is refused. -/
theorem magicAsHero_reached : ∃ w view, Reach itemInHand w ∧ w.gs.isBusy = false ∧
    w.gs.board.currentPlayerId = some "A" ∧ playerView itemInHand.table w "A" = .ok view ∧
    ∃ kind ∈ view.offered, Action.canExecute itemInHand.table w.gs.board ⟨"A", kind⟩ =
      .ok (.refused .notAHero) := by
  obtain ⟨w, h, hplayed⟩ := Reach.of_play _ _ _ _ magicAsHero_played
  rw [Bool.and_eq_true, Bool.and_eq_true, Bool.not_eq_true', decide_eq_true_eq] at hplayed
  obtain ⟨⟨hidle, hturn⟩, hplayed⟩ := hplayed
  obtain ⟨view, hview, hplayed⟩ := Option.any_eq_true _ _ |>.1 hplayed
  obtain ⟨kind, hkind, hplayed⟩ := List.any_eq_true.1 hplayed
  refine ⟨w, view, h, hidle, hturn, ok_of_toOption hview, kind, hkind, ?_⟩
  split at hplayed
  · assumption
  · cases hplayed

/-- On that table the client's offers are accepted exactly if all gear suits. -/
theorem Reach.offered_accepted_iff_magicAsHero : ∃ w view, Reach itemInHand w ∧
    playerView itemInHand.table w "A" = .ok view ∧
    ((∀ kind ∈ PlayerView.offered view,
        Action.canExecute itemInHand.table w.gs.board ⟨"A", kind⟩ = .ok .accepted) ↔
      w.gs.board.GearSuits itemInHand.table "A") := by
  obtain ⟨w, view, h, hidle, hturn, hview, -⟩ := magicAsHero_reached
  exact ⟨w, view, h, hview, h.offered_accepted_iff hidle hturn hview⟩

/-- The client offers what the engine refuses. -/
theorem not_offered_accepted_magicAsHero : ∃ w view, Reach itemInHand w ∧ w.gs.isBusy = false ∧
    w.gs.board.currentPlayerId = some "A" ∧ playerView itemInHand.table w "A" = .ok view ∧
    ¬ ∀ kind ∈ view.offered,
      Action.canExecute itemInHand.table w.gs.board ⟨"A", kind⟩ = .ok .accepted := by
  obtain ⟨w, view, h, hidle, hturn, hview, kind, hkind, hrefused⟩ := magicAsHero_reached
  refine ⟨w, view, h, hidle, hturn, hview, fun hall => ?_⟩
  cases hrefused.symm.trans (hall kind hkind)

end HereToSlaughter
