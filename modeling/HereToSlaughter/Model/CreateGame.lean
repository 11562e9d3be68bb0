import HereToSlaughter.Model.Engine
import HereToSlaughter.Model.Registry

/-!
# Dealing a game

`createGame`: the configured sets of a pool of printed cards dealt to a table of seats. The deal
reads the random stream in the order the source does: the main deck, the monster deck, the seat
order, the leaders.

Reference: `setup/create-game.ts`.
-/

namespace HereToSlaughter

open Lib

/-- `MONSTER_ROW_SIZE`. -/
def MONSTER_ROW_SIZE : Nat := 3

/-- `MAIN_DECK_TYPES`. -/
def MAIN_DECK_TYPES : List CardType := [.hero, .item, .magic, .modifier, .challenge]

/-- What `createGame` is called with: who sits down, the configuration, the printed cards, what to
call each seat, and the random stream of the game. -/
structure GameSetup where
  playerIds : List String
  config : GameConfig := {}
  cards : List Card
  names : String → Option String := fun _ => none
  rng : Nat → Nat

namespace GameSetup
variable (setup : GameSetup)

/-- The printed cards of the configured sets. -/
def pool : List Card := setup.cards.filter fun card => setup.config.cardSets.contains card.set

def byType (type : CardType) : List String :=
  (setup.pool.filter fun card => card.getType = type).map Card.id

def leaders : List String := setup.byType .leader

def monsters : List String := setup.byType .monster

def deckCards : List String :=
  (setup.pool.filter fun card => MAIN_DECK_TYPES.contains card.getType).map Card.id

/-- The table the game is played at: every card of the pool registered, the printed rules. -/
def table : Table where
  cards := OrderedMap.ofList (setup.pool.map fun card => (card.id, card))
  rules := gameRules
  config := setup.config
  rng := setup.rng

/-- `assertSeats`. -/
def assertSeats : Except EngineError Unit :=
  let n := setup.playerIds.length
  if n < setup.config.minPlayers ∨ setup.config.maxPlayers < n then
    .error (.thrown
      s!"createGame: {n} players — this game seats {setup.config.minPlayers} to {setup.config.maxPlayers}.")
  else if setup.playerIds.Nodup then .ok ()
  else .error (.thrown "createGame: the same player was seated twice.")

/-- `assertEnough`. -/
def assertEnough (have_ need : Nat) (what : String) : Except EngineError Unit :=
  if have_ < need then
    .error (.thrown s!"createGame: {have_} {what} in the configured card sets, {need} needed.")
  else .ok ()

/-- How many random numbers a shuffle takes. -/
def shuffleDraws (l : List String) : Nat := l.length - 1

/-- The shuffled main deck. -/
def mainDeck : List String := Board.shuffle setup.rng 0 setup.deckCards

/-- The shuffled monster deck. -/
def monsterDeck : List String :=
  Board.shuffle setup.rng (shuffleDraws setup.deckCards) setup.monsters

/-- The seat order. -/
def playerOrder : List String :=
  Board.shuffle setup.rng (shuffleDraws setup.deckCards + shuffleDraws setup.monsters)
    setup.playerIds

/-- The leaders, one per seat from the front. -/
def dealtLeaders : List String :=
  Board.shuffle setup.rng (shuffleDraws setup.deckCards + shuffleDraws setup.monsters +
    shuffleDraws setup.playerIds) setup.leaders

/-- The seats as players, in seat order, with nothing in hand yet. -/
def players : OrderedMap String Player :=
  .ofList <| setup.playerOrder.map fun playerId =>
    (playerId,
      { name := (setup.names playerId).getD playerId
        hand := []
        actionPointsPerTurn := setup.config.actionPointsPerTurn
        actionPoints := setup.config.actionPointsPerTurn })

/-- The seats' parties, each with its leader. -/
def parties : OrderedMap String Party :=
  .ofList <| (setup.playerOrder.zip setup.dealtLeaders).map fun (playerId, leaderId) =>
    (playerId, { leaderId })

/-- The table with every seat taken and nothing dealt. -/
def seatedBoard : Board where
  players := setup.players
  parties := setup.parties
  mainDeck := setup.mainDeck
  monsterDeck := setup.monsterDeck

end GameSetup

namespace Board

/-- The loop that lays the face-up row, `n` monsters of it. -/
def dealMonsters : Nat → Board → Board
  | 0, b => b
  | n + 1, b =>
    dealMonsters n { b with monsterPile := b.monsterDeck.head?.toList ++ b.monsterPile
                            monsterDeck := b.monsterDeck.tail }

/-- The loop that deals one seat its hand, `n` cards of it. -/
def dealHand (playerId : String) : Nat → Board → Board
  | 0, b => b
  | n + 1, b =>
    match b.mainDeck with
    | [] => b
    | cardId :: rest =>
      dealHand playerId n (({ b with mainDeck := rest } : Board).addToHand playerId cardId)

/-- The loop over the seats. -/
def dealHands (size : Nat) (playerOrder : List String) (b : Board) : Board :=
  playerOrder.foldl (fun b playerId => b.dealHand playerId size) b

end Board

namespace GameSetup
variable (setup : GameSetup)

/-- The dealt board. -/
def board : Board :=
  (setup.seatedBoard.dealMonsters MONSTER_ROW_SIZE).dealHands setup.config.startingHandSize
    setup.playerOrder

/-- The world a deal leaves: nothing has started, and the random stream stands after the deal. -/
def dealt : World where
  gs := { board := setup.board }
  playerOrder := setup.playerOrder
  randomAt := shuffleDraws setup.deckCards + shuffleDraws setup.monsters +
    shuffleDraws setup.playerIds + shuffleDraws setup.leaders

end GameSetup

/-- `createGame`: throws rather than deal a broken table. -/
def createGame (setup : GameSetup) : Except EngineError World := do
  setup.assertSeats
  GameSetup.assertEnough setup.leaders.length setup.playerIds.length "leaders"
  GameSetup.assertEnough setup.monsters.length MONSTER_ROW_SIZE "monsters"
  GameSetup.assertEnough setup.deckCards.length
    (setup.playerIds.length * setup.config.startingHandSize) "deck cards"
  return setup.dealt

/-- `startGame`. -/
def startGame (setup : GameSetup) (fuel : Nat) : EngineM Unit := do
  start setup.table fuel (← get).playerOrder

end HereToSlaughter
