import HereToSlaughter.Machine.Inner

/-!
# What a deal puts on the table

`createGame` throws rather than deal a broken table. A table it deals seats everyone in the seat
order, each with a party, and the machine starts from it.

Reference: `setup/create-game.ts`.
-/

namespace HereToSlaughter

open Lib

namespace GameSetup

/-- What `createGame` has checked of a setup it deals. -/
structure Valid (setup : GameSetup) : Prop where
  players : setup.playerIds.Nodup
  leaders : setup.playerIds.length ≤ setup.leaders.length
  monsters : MONSTER_ROW_SIZE ≤ setup.monsters.length
  deckCards : setup.playerIds.length * setup.config.startingHandSize ≤ setup.deckCards.length

variable {setup : GameSetup}

/-- Where the check passes there is enough. -/
theorem assertEnough_ok {have_ need : Nat} {what : String}
    (h : assertEnough have_ need what = .ok ()) : need ≤ have_ := by
  unfold assertEnough at h
  split at h
  · cases h
  · omega

/-- `createGame` deals valid setups only. -/
theorem createGame_ok {w : World} (h : createGame setup = .ok w) :
    w = setup.dealt ∧ setup.Valid := by
  unfold createGame at h
  simp only [Bind.bind, Except.bind] at h
  split at h
  · cases h
  rename_i hseats
  split at h
  · cases h
  rename_i hleaders
  split at h
  · cases h
  rename_i hmonsters
  split at h
  · cases h
  rename_i hdeck
  refine ⟨(Except.ok.inj h).symm, ?_, assertEnough_ok hleaders, assertEnough_ok hmonsters,
    assertEnough_ok hdeck⟩
  unfold assertSeats at hseats
  dsimp only at hseats
  split at hseats
  · cases hseats
  · split at hseats
    · assumption
    · cases hseats

/-! ## Seats -/

/-- The order of the seats is a shuffle of the players. -/
theorem playerOrder_perm (setup : GameSetup) : setup.playerOrder.Perm setup.playerIds :=
  Board.shuffle_perm ..

/-- The leaders are dealt from a shuffle of them. -/
theorem dealtLeaders_perm (setup : GameSetup) : setup.dealtLeaders.Perm setup.leaders :=
  Board.shuffle_perm ..

/-- Nobody sits twice. -/
theorem Valid.playerOrder (h : setup.Valid) : setup.playerOrder.Nodup :=
  (setup.playerOrder_perm.nodup_iff).2 h.players

/-- There is a leader for every seat. -/
theorem Valid.map_fst_zip (h : setup.Valid) :
    (setup.playerOrder.zip setup.dealtLeaders).map Prod.fst = setup.playerOrder := by
  refine List.map_fst_zip ?_
  rw [setup.playerOrder_perm.length_eq, setup.dealtLeaders_perm.length_eq]
  exact h.leaders

/-- The players sit in the order drawn. -/
theorem Valid.entries_players (h : setup.Valid) : setup.players.entries =
    setup.playerOrder.map fun playerId => (playerId,
      { name := (setup.names playerId).getD playerId
        hand := []
        actionPointsPerTurn := setup.config.actionPointsPerTurn
        actionPoints := setup.config.actionPointsPerTurn }) := by
  refine OrderedMap.entries_ofList ?_
  rw [List.map_map, show (Prod.fst ∘ fun playerId : String => (playerId, _)) = id from rfl,
    List.map_id]
  exact h.playerOrder

/-- Each seat has the leader it was dealt. -/
theorem Valid.entries_parties (h : setup.Valid) : setup.parties.entries =
    (setup.playerOrder.zip setup.dealtLeaders).map fun e => (e.1, { leaderId := e.2 }) := by
  refine OrderedMap.entries_ofList ?_
  rw [List.map_map]
  exact h.map_fst_zip.symm ▸ h.playerOrder

end GameSetup

namespace Board

/-- Dealing monsters and hands keeps the seats. -/
theorem seatedIn_dealMonsters {order : List String} : ∀ (n : Nat) {b : Board}, b.SeatedIn order →
    (b.dealMonsters n).SeatedIn order
  | 0, _, h => h
  | n + 1, _, h => seatedIn_dealMonsters n (h.congr rfl rfl)

/-- Dealing a hand seats nobody. -/
theorem seatedIn_dealHand {order : List String} (playerId : String) : ∀ (n : Nat) {b : Board},
    b.SeatedIn order → (b.dealHand playerId n).SeatedIn order
  | 0, _, h => h
  | n + 1, b, h => by
    unfold dealHand
    split
    · exact h
    · exact seatedIn_dealHand playerId n (h.congr (by simp [addToHand]) rfl)

/-- Nor does dealing every hand. -/
theorem seatedIn_dealHands {order : List String} (size : Nat) : ∀ (seats : List String) {b : Board},
    b.SeatedIn order → (b.dealHands size seats).SeatedIn order
  | [], _, h => h
  | playerId :: seats, _, h => seatedIn_dealHands size seats (seatedIn_dealHand playerId size h)

/-- Dealing passes no turn on. -/
theorem currentPlayerId_dealMonsters : ∀ (n : Nat) (b : Board),
    (b.dealMonsters n).currentPlayerId = b.currentPlayerId
  | 0, _ => rfl
  | n + 1, _ => currentPlayerId_dealMonsters n _

/-- Dealing a hand gives nobody the turn. -/
theorem currentPlayerId_dealHand (playerId : String) : ∀ (n : Nat) (b : Board),
    (b.dealHand playerId n).currentPlayerId = b.currentPlayerId
  | 0, _ => rfl
  | n + 1, b => by
    unfold dealHand
    split
    · rfl
    · exact currentPlayerId_dealHand playerId n _

/-- Nor does dealing every hand. -/
theorem currentPlayerId_dealHands (size : Nat) : ∀ (seats : List String) (b : Board),
    (b.dealHands size seats).currentPlayerId = b.currentPlayerId
  | [], _ => rfl
  | playerId :: seats, b =>
    (currentPlayerId_dealHands size seats _).trans (currentPlayerId_dealHand playerId size b)

/-- Nor does it touch a party. -/
theorem parties_dealMonsters : ∀ (n : Nat) (b : Board), (b.dealMonsters n).parties = b.parties
  | 0, _ => rfl
  | n + 1, _ => parties_dealMonsters n _

/-- Dealing a hand touches no party. -/
theorem parties_dealHand (playerId : String) : ∀ (n : Nat) (b : Board),
    (b.dealHand playerId n).parties = b.parties
  | 0, _ => rfl
  | n + 1, b => by
    unfold dealHand
    split
    · rfl
    · exact parties_dealHand playerId n _

/-- Nor does dealing every hand. -/
theorem parties_dealHands (size : Nat) : ∀ (seats : List String) (b : Board),
    (b.dealHands size seats).parties = b.parties
  | [], _ => rfl
  | playerId :: seats, b =>
    (parties_dealHands size seats _).trans (parties_dealHand playerId size b)

end Board

namespace GameSetup
variable {setup : GameSetup}

/-- The parties of the dealt board are the leaders. -/
theorem parties_board (setup : GameSetup) : setup.board.parties = setup.parties :=
  (Board.parties_dealHands ..).trans (Board.parties_dealMonsters ..)

/-- It is nobody's turn on the dealt board. -/
theorem currentPlayerId_board (setup : GameSetup) : setup.board.currentPlayerId = none :=
  (Board.currentPlayerId_dealHands ..).trans (Board.currentPlayerId_dealMonsters ..)

/-- The dealt board seats the order drawn. -/
theorem Valid.seatedIn (h : setup.Valid) : setup.board.SeatedIn setup.playerOrder := by
  refine Board.seatedIn_dealHands _ _ (Board.seatedIn_dealMonsters _ ⟨?_, ?_⟩)
  · show setup.players.keys = _
    rw [OrderedMap.keys, h.entries_players, List.map_map]
    exact List.map_id _
  · show setup.parties.keys = _
    rw [OrderedMap.keys, h.entries_parties, List.map_map]
    exact h.map_fst_zip

/-! ## Where the machine begins -/

/-- The world the start of the game is announced over. -/
def started (setup : GameSetup) : World :=
  { setup.dealt with gs := setup.dealt.gs.modifyBoard fun b => { b with gamePhase := .turns } }

/-- Where the machine begins. -/
def origin (setup : GameSetup) : Control × Shape :=
  ({ flow := .halted, unchecked := true, between := .before }, setup.started.shape)

/-- Nothing stands in a party but its leader. -/
theorem Valid.typed (h : setup.Valid) : setup.board.Typed setup.table.cards [] := by
  intro playerId party hparty
  rw [show setup.board.parties = setup.parties from parties_board setup, OrderedMap.get?_eq_some,
    h.entries_parties] at hparty
  obtain ⟨⟨_, leaderId⟩, -, heq⟩ := List.mem_map.1 hparty
  cases heq
  exact ⟨fun _ hmem => (nomatch hmem), fun _ he => (nomatch he), fun _ hmem => (nomatch hmem)⟩

/-- The deal is sound: no frame is open, no pipeline waits and nobody's turn has begun. -/
theorem Valid.sound (h : setup.Valid) : Sound setup.table.cards setup.origin where
  ids := ⟨fun _ hf => (nomatch hf), .nil, fun _ hp => (nomatch hp), .nil, fun _ hi => (nomatch hi),
    .nil, fun _ ho => (nomatch ho)⟩
  stack := ⟨fun _ hp => (nomatch hp), fun _ => .inl rfl, fun _ hc => (nomatch hc), fun _ _ => rfl,
    fun _ hf => (nomatch hf)⟩
  windows := ⟨fun _ hf => (nomatch hf), fun _ ho => (nomatch ho)⟩
  printed := ⟨fun _ hp => (nomatch hp), fun _ hr => (nomatch hr), fun _ _ hp => (nomatch hp),
    fun _ _ hr => (nomatch hr), fun _ => rfl, fun _ he => (nomatch he)⟩
  subjects := ⟨.nil, fun _ ho => (nomatch ho), fun _ hf => (nomatch hf)⟩
  seats := ⟨h.seatedIn.congr rfl rfl, fun _ hf => (nomatch hf)⟩
  dues := .of_paid rfl
  turns := ⟨fun _ => ⟨rfl, setup.currentPlayerId_board⟩, fun _ he => (nomatch he),
    fun hp => (nomatch hp), fun _ => setup.currentPlayerId_board, fun _ hf => (nomatch hf)⟩
  typed := ⟨h.typed.of_parties rfl, fun _ hf => (nomatch hf)⟩

/-- The table of a setup plays by the printed rules. -/
def printedTable (setup : GameSetup) : PrintedTable := { setup.table with printed := rfl }

end GameSetup

end HereToSlaughter
