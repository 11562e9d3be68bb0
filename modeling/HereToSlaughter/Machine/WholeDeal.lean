import HereToSlaughter.Runs.Monsters

/-!
# A deal is whole

`createGame` deals exactly the setups it can seat. Of what it deals every card of the pool lies in
one place, the leaders nobody leads apart, and every hand is full.

Reference: `setup/create-game.ts`.
-/

namespace HereToSlaughter

open Lib

namespace GameSetup

variable {setup : GameSetup}

/-- What `createGame` asks of a setup: valid, and neither too few players nor too many. -/
structure Seatable (setup : GameSetup) : Prop extends setup.Valid where
  enough : setup.config.minPlayers ≤ setup.playerIds.length
  room : setup.playerIds.length ≤ setup.config.maxPlayers

theorem assertSeats_iff : setup.assertSeats = .ok () ↔
    setup.config.minPlayers ≤ setup.playerIds.length ∧
      setup.playerIds.length ≤ setup.config.maxPlayers ∧ setup.playerIds.Nodup := by
  unfold assertSeats
  dsimp only
  split
  next hseats =>
    refine ⟨fun h => (by cases h), fun ⟨hmin, hmax, _⟩ => ?_⟩
    omega
  next hseats =>
    rw [not_or, Nat.not_lt, Nat.not_lt] at hseats
    split
    next hnodup => exact ⟨fun _ => ⟨hseats.1, hseats.2, hnodup⟩, fun _ => rfl⟩
    next hnodup => exact ⟨fun h => (by cases h), fun ⟨_, _, h⟩ => absurd h hnodup⟩

theorem assertEnough_iff {have_ need : Nat} {what : String} :
    assertEnough have_ need what = .ok () ↔ need ≤ have_ := by
  refine ⟨assertEnough_ok, fun h => ?_⟩
  rw [assertEnough, if_neg (Nat.not_lt.2 h)]

/-- What `createGame` deals is what can be seated. -/
theorem createGame_iff {w : World} :
    createGame setup = .ok w ↔ setup.Seatable ∧ w = setup.dealt := by
  constructor
  · intro h
    obtain ⟨hw, hvalid⟩ := createGame_ok h
    cases hseats : setup.assertSeats with
    | error e =>
      rw [createGame, hseats] at h
      cases h
    | ok u =>
      obtain ⟨hmin, hmax, -⟩ := assertSeats_iff.1 hseats
      exact ⟨⟨hvalid, hmin, hmax⟩, hw⟩
  · rintro ⟨⟨hvalid, hmin, hmax⟩, rfl⟩
    have hseats := assertSeats_iff.2 ⟨hmin, hmax, hvalid.players⟩
    rw [createGame, hseats, assertEnough_iff.2 hvalid.leaders, assertEnough_iff.2 hvalid.monsters,
      assertEnough_iff.2 hvalid.deckCards]
    rfl

end GameSetup

/-! ## The hands -/

namespace Board

variable {b : Board} {playerId : String}

/-- One card off the deck into a hand. -/
theorem cardIds_dealOne {player : Player} {cardId : String} {rest : List String}
    (hdeck : b.mainDeck = cardId :: rest) (hplayer : b.players.get? playerId = some player) :
    (({ b with mainDeck := rest } : Board).addToHand playerId cardId).cardIds.Perm b.cardIds := by
  obtain ⟨hands, hbefore, hafter⟩ := OrderedMap.flatMap_modify hplayer (Player.addToHand cardId)
    Player.hand
  have hhands : ((b.players.modify playerId (Player.addToHand cardId)).values.flatMap
      Player.hand).Perm (cardId :: b.players.values.flatMap Player.hand) := by
    refine hafter.trans (.trans ?_ (hbefore.cons cardId).symm)
    simp only [Player.addToHand, List.append_assoc, List.singleton_append]
    exact List.perm_middle
  simp only [cardIds, addToHand, hdeck, List.append_assoc, List.cons_append]
  have hmoved := (hhands.append_right (b.parties.values.flatMap Party.cardIds)).append_left
    (rest ++ (b.discardPile ++ (b.monsterDeck ++ b.monsterPile)))
  simp only [List.append_assoc, List.cons_append] at hmoved
  refine hmoved.trans ?_
  have hmiddle : ((rest ++ (b.discardPile ++ (b.monsterDeck ++ b.monsterPile))) ++ cardId ::
      (b.players.values.flatMap Player.hand ++ b.parties.values.flatMap Party.cardIds)).Perm _ :=
    List.perm_middle
  simpa using hmiddle

/-- A seat that is dealt from a deck with enough cards has as many more in hand, and no card goes
astray. -/
theorem dealHand_whole : ∀ (n : Nat) {b : Board}, playerId ∈ b.players.keys →
    n ≤ b.mainDeck.length →
    (b.dealHand playerId n).players.keys = b.players.keys ∧
    (b.dealHand playerId n).mainDeck.length + n = b.mainDeck.length ∧
    (b.dealHand playerId n).cardIds.Perm b.cardIds ∧
    ∀ otherId, ((b.dealHand playerId n).hand otherId).length =
      (b.hand otherId).length + if otherId = playerId then n else 0
  | 0, _, _, _ => ⟨rfl, rfl, .refl _, fun _ => (ite_self 0).symm ▸ rfl⟩
  | n + 1, b, hseat, hn => by
    cases hdeck : b.mainDeck with
    | nil =>
      rw [hdeck] at hn
      exact absurd hn (Nat.not_succ_le_zero n)
    | cons cardId rest =>
      rw [hdeck, List.length_cons] at hn
      obtain ⟨player, hplayer⟩ := Option.isSome_iff_exists.1 (OrderedMap.get?_isSome.2 hseat)
      have hkeys : (({ b with mainDeck := rest } : Board).addToHand playerId cardId).players.keys =
          b.players.keys := OrderedMap.keys_modify ..
      obtain ⟨hkeys', hlength, hcards, hhands⟩ := dealHand_whole n
        (b := ({ b with mainDeck := rest } : Board).addToHand playerId cardId)
        (hkeys ▸ hseat) (Nat.le_of_succ_le_succ hn)
      simp only [dealHand, hdeck]
      refine ⟨hkeys'.trans hkeys, ?_, hcards.trans (cardIds_dealOne hdeck hplayer),
        fun otherId => ?_⟩
      · rw [List.length_cons, ← Nat.add_assoc, hlength]
        rfl
      · have hseated : b.isSeated playerId = true := OrderedMap.has_iff.2 hseat
        rw [hhands otherId, hand_addToHand]
        by_cases hother : otherId = playerId
        · subst hother
          rw [if_pos ⟨rfl, hseated⟩, if_pos rfl, if_pos rfl, List.length_append]
          simp only [hand, List.length_singleton]
          omega
        · rw [if_neg fun h => hother h.1, if_neg hother, if_neg hother]
          rfl

/-- All of the seats are dealt, one after the other. -/
theorem dealHands_whole (size : Nat) : ∀ {seats : List String} {b : Board}, seats.Nodup →
    (∀ playerId ∈ seats, playerId ∈ b.players.keys) → seats.length * size ≤ b.mainDeck.length →
    (b.dealHands size seats).cardIds.Perm b.cardIds ∧
    ∀ otherId, ((b.dealHands size seats).hand otherId).length =
      (b.hand otherId).length + if otherId ∈ seats then size else 0
  | [], _, _, _, _ => ⟨.refl _, fun _ => rfl⟩
  | playerId :: seats, b, honce, hseats, hdeck => by
    obtain ⟨hnew, honce⟩ := List.nodup_cons.1 honce
    rw [List.length_cons, Nat.succ_mul] at hdeck
    obtain ⟨hkeys, hlength, hcards, hhands⟩ := dealHand_whole size
      (hseats playerId List.mem_cons_self) (Nat.le_trans (Nat.le_add_left ..) hdeck)
    obtain ⟨hcards', hhands'⟩ := dealHands_whole size (b := b.dealHand playerId size) honce
      (fun otherId hother => hkeys.symm ▸ hseats otherId (List.mem_cons_of_mem _ hother))
      (by omega)
    refine ⟨hcards'.trans hcards, fun otherId => (hhands' otherId).trans ?_⟩
    rw [hhands otherId]
    by_cases hother : otherId = playerId
    · subst hother
      simp [hnew]
    · simp [hother]

/-- Being dealt to leaves a seat its name. -/
theorem name_dealHand (playerId otherId : String) : ∀ (n : Nat) (b : Board),
    ((b.dealHand playerId n).players.get? otherId).map Player.name =
      (b.players.get? otherId).map Player.name
  | 0, _ => rfl
  | n + 1, b => by
    unfold dealHand
    split
    · rfl
    · rw [name_dealHand playerId otherId n]
      simp only [addToHand, OrderedMap.get?_modify]
      split <;> simp [Player.addToHand, Function.comp_def]

theorem name_dealHands (size : Nat) (otherId : String) : ∀ (seats : List String) (b : Board),
    ((b.dealHands size seats).players.get? otherId).map Player.name =
      (b.players.get? otherId).map Player.name
  | [], _ => rfl
  | playerId :: seats, b =>
    (name_dealHands size otherId seats _).trans (name_dealHand playerId otherId size b)

/-- Laying out the row loses no monster. -/
theorem dealMonsters_whole : ∀ (n : Nat) (b : Board),
    (b.dealMonsters n).cardIds.Perm b.cardIds ∧ (b.dealMonsters n).mainDeck = b.mainDeck ∧
      (b.dealMonsters n).players = b.players
  | 0, _ => ⟨.refl _, rfl, rfl⟩
  | n + 1, b => by
    obtain ⟨hcards, hkept⟩ := dealMonsters_whole n { b with
      monsterPile := b.monsterDeck.head?.toList ++ b.monsterPile
      monsterDeck := b.monsterDeck.tail }
    refine ⟨hcards.trans ?_, hkept⟩
    cases hmonsters : b.monsterDeck with
    | nil =>
      rw [show b.cardIds = _ from rfl]
      simp [cardIds, hmonsters]
    | cons cardId rest =>
      simp only [cardIds, hmonsters, List.head?_cons, Option.toList_some, List.tail_cons,
        List.append_assoc, List.cons_append, List.nil_append]
      exact (List.perm_middle.append_left _).append_left _

end Board

/-! ## The pool -/

/-- Every printed card belongs to the main deck, to the monsters or to the leaders. -/
theorem perm_byType : ∀ cards : List Card,
    (cards.filter (fun card => MAIN_DECK_TYPES.contains card.getType) ++
      (cards.filter (fun card => card.getType = .monster) ++
        cards.filter fun card => card.getType = .leader)).Perm cards
  | [] => .refl _
  | card :: cards => by
    have hcards := perm_byType cards
    cases htype : card.getType with
    | hero | item | magic | modifier | challenge =>
      simpa [htype, MAIN_DECK_TYPES] using hcards
    | monster =>
      simpa [htype, MAIN_DECK_TYPES] using List.perm_middle.trans (hcards.cons card)
    | leader =>
      refine .trans ?_ (hcards.cons card)
      simp [htype, MAIN_DECK_TYPES, ← List.append_assoc, List.perm_middle]

namespace GameSetup

variable {setup : GameSetup}

/-- The leaders nobody leads. -/
def undealtLeaders (setup : GameSetup) : List String :=
  setup.dealtLeaders.drop setup.playerIds.length

/-- Before the deal nothing lies with the players but their leaders. -/
theorem Valid.cardIds_seatedBoard (h : setup.Valid) : setup.seatedBoard.cardIds =
    setup.mainDeck ++ setup.monsterDeck ++ setup.dealtLeaders.take setup.playerIds.length := by
  have hhands : setup.players.values.flatMap Player.hand = [] := by
    rw [OrderedMap.values, h.entries_players]
    simp [List.flatMap_map]
  have hparties : setup.parties.values.flatMap Party.cardIds =
      setup.dealtLeaders.take setup.playerIds.length := by
    rw [OrderedMap.values, h.entries_parties, ← setup.playerOrder_perm.length_eq]
    simp only [List.map_map, List.flatMap_map, Function.comp_def]
    rw [show (fun e : String × String => Party.cardIds { leaderId := e.2 }) =
      fun e => [e.2] from rfl, ← List.map_eq_flatMap]
    -- the leaders past the last seat pair with nobody
    have hzip : setup.playerOrder.zip setup.dealtLeaders =
        setup.playerOrder.zip (setup.dealtLeaders.take setup.playerOrder.length) := by
      have hshort : (setup.playerOrder.zip setup.dealtLeaders).length ≤
        setup.playerOrder.length := by
        rw [List.length_zip]
        exact Nat.min_le_left ..
      rw [← List.take_of_length_le hshort, List.zip, List.take_zipWith, List.take_length]
    rw [hzip]
    exact List.map_snd_zip (List.length_take_le ..)
  rw [Board.cardIds, show setup.seatedBoard.players = setup.players from rfl, hhands,
    show setup.seatedBoard.parties = setup.parties from rfl, hparties]
  simp [seatedBoard]

theorem mainDeck_perm (setup : GameSetup) : setup.mainDeck.Perm setup.deckCards :=
  Board.shuffle_perm ..

/-- Of a deal, every hand is full and no card has gone astray. -/
theorem Valid.board_whole (h : setup.Valid) : setup.board.cardIds.Perm setup.seatedBoard.cardIds ∧
    ∀ playerId ∈ setup.playerOrder,
      (setup.board.hand playerId).length = setup.config.startingHandSize := by
  obtain ⟨hrow, hdeck, hplayers⟩ := Board.dealMonsters_whole MONSTER_ROW_SIZE setup.seatedBoard
  have hentries := h.entries_players
  have hseats : (setup.seatedBoard.dealMonsters MONSTER_ROW_SIZE).players.keys =
    setup.playerOrder := by
    rw [hplayers, show setup.seatedBoard.players = setup.players from rfl, OrderedMap.keys,
      hentries, List.map_map]
    exact List.map_id _
  obtain ⟨hcards, hhands⟩ := Board.dealHands_whole setup.config.startingHandSize h.playerOrder
    (b := setup.seatedBoard.dealMonsters MONSTER_ROW_SIZE) (fun _ hseat => hseats ▸ hseat) (by
      rw [hdeck, show setup.seatedBoard.mainDeck = setup.mainDeck from rfl,
        setup.mainDeck_perm.length_eq, setup.playerOrder_perm.length_eq]
      exact h.deckCards)
  refine ⟨hcards.trans hrow, fun playerId hseat => ?_⟩
  have hempty : (setup.seatedBoard.dealMonsters MONSTER_ROW_SIZE).hand playerId = [] := by
    rw [Board.hand, hplayers]
    cases hplayer : setup.seatedBoard.players.get? playerId with
    | none => rfl
    | some player =>
      rw [show setup.seatedBoard.players = setup.players from rfl, OrderedMap.get?_eq_some,
        hentries]
        at hplayer
      obtain ⟨_, -, heq⟩ := List.mem_map.1 hplayer
      cases heq
      rfl
  rw [board, hhands playerId, if_pos hseat, hempty]
  exact Nat.zero_add _

/-- Of a deal, every card of the pool lies in one place, the leaders nobody leads apart. -/
theorem Valid.cardIds_board (h : setup.Valid) :
    (setup.board.cardIds ++ setup.undealtLeaders).Perm (setup.pool.map Card.id) := by
  refine (h.board_whole.1.append_right _).trans ?_
  rw [h.cardIds_seatedBoard, undealtLeaders, List.append_assoc, List.take_append_drop]
  refine ((setup.mainDeck_perm.append setup.monsterDeck_perm).append
    setup.dealtLeaders_perm).trans ?_
  have hpool := (perm_byType setup.pool).map Card.id
  simpa [GameSetup.deckCards, GameSetup.monsters, GameSetup.leaders, byType] using hpool

/-- Of a deal, the row is full. -/
theorem Valid.row_board (h : setup.Valid) : setup.board.monsterPile.length = MONSTER_ROW_SIZE := by
  have hstocked := stocked_board h
  have hmonsters := hstocked.monsters.length_eq
  rw [slain_board h, List.nil_append, List.length_append,
    setup.monsterDeck_perm.length_eq] at hmonsters
  have hrow := hstocked.row
  have hmany := h.monsters
  omega

/-- Every seat is called what it was to be called. -/
theorem Valid.name_board (h : setup.Valid) {playerId : String}
    (hseat : playerId ∈ setup.playerOrder) :
    (setup.board.players.get? playerId).map Player.name =
      some ((setup.names playerId).getD playerId) := by
  rw [board, Board.name_dealHands, (Board.dealMonsters_whole _ _).2.2]
  have hentry : (playerId, _) ∈ setup.players.entries :=
    h.entries_players ▸ List.mem_map_of_mem hseat
  rw [show setup.seatedBoard.players = setup.players from rfl, OrderedMap.get?_eq_some.2 hentry]
  rfl

/-- Every seat has a leader. -/
theorem Valid.leader_board (h : setup.Valid) {playerId : String}
    (hseat : playerId ∈ setup.playerOrder) : ∃ leaderId ∈ setup.leaders,
      (setup.board.parties.get? playerId).map Party.leaderId = some leaderId := by
  rw [← h.map_fst_zip] at hseat
  obtain ⟨⟨_, leaderId⟩, hmem, rfl⟩ := List.mem_map.1 hseat
  have hentry : (_, _) ∈ setup.parties.entries := h.entries_parties ▸ List.mem_map_of_mem hmem
  refine ⟨leaderId, setup.dealtLeaders_perm.subset (List.of_mem_zip hmem).2, ?_⟩
  rw [parties_board, OrderedMap.get?_eq_some.2 hentry]
  rfl

end GameSetup

end HereToSlaughter
