import HereToSlaughter.Lobby.Capacity
import HereToSlaughter.Machine.WholeDeal
import HereToSlaughter.Server.InternalGame

/-!
# The group the lobby hands over

A call that starts a game reads the ready list, later how many seats there are, and later again the
settings it hands over with the group. The host may close seats in between: the game server deals a
whole table to the group unless the group no longer fits, and refuses it for nothing else.

Reference: `lobby/lobby.service.ts`, `game-server/internal-game.controller.ts`,
`setup/create-game.ts`.
-/

namespace HereToSlaughter

open Lib

/-! ## Groups -/

/-- Named as sign-up and the schema of a seat name an account. -/
def LobbyPlayer.Named (player : LobbyPlayer) : Prop :=
  player.trimmed = player ∧ SeatedAccountSchema player = []

instance (player : LobbyPlayer) : Decidable player.Named :=
  inferInstanceAs (Decidable (_ ∧ _))

/-- The account that asks to be ready with this call. -/
def Call.asks : Call → Option LobbyPlayer
  | .ready account => some account
  | _ => none

/-- Whoever asks to be ready is named so. -/
def SignedUp (_ : Lobby) (_ : List Call) (call : Call) (_ : Outside) : Prop :=
  ∀ account ∈ call.asks, account.Named

instance (l : Lobby) (calls : List Call) (call : Call) (outside : Outside) :
    Decidable (SignedUp l calls call outside) :=
  inferInstanceAs (Decidable (∀ account ∈ call.asks, account.Named))

/-- Every account once, and each of them named. -/
structure Grouped (players : List LobbyPlayer) : Prop where
  once : (players.map LobbyPlayer.accountId).Nodup
  named : ∀ player ∈ players, player.Named

/-- A part of a group is a group. -/
theorem Grouped.sublist {players players' : List LobbyPlayer} (h : Grouped players)
    (hsub : players'.Sublist players) : Grouped players' :=
  ⟨h.once.sublist (hsub.map _), fun player hplayer => h.named player (hsub.mem hplayer)⟩

/-- What a call has read and checked so far of those it starts a game for, or of the one it sits
down. -/
def Call.WellRead : Call → Prop
  | .readyChecked account _ | .readyListed account _ | .readyCounted account _ _ => account.Named
  | .startListed _ players | .startCounted players _ => Grouped players
  | .startPlayers players | .startLookedUp players _ | .startSettled players _
  | .startRequested players _ => Grouped players ∧ MIN_PLAYER_COUNT ≤ players.length
  | _ => True

/-- What has just come in has read nothing. -/
theorem Call.wellRead_request {call : Call} (h : call.isRequest = true) : call.WellRead := by
  cases call <;> trivial

/-- One go reads a group off the list, or leaves what has been read as it is. -/
theorem Call.wellRead_resume {call : Call} {outside : Outside} {l : Lobby} {calls : List Call}
    (hready : Grouped l.readyPlayers) (hread : call.WellRead)
    (hsigned : SignedUp l calls call outside) : (call.resume outside l).1.WellRead := by
  cases call with
  | ready account => exact hsigned account rfl
  | readyChecked account assignment =>
    simp only [resume, resumeReady]
    split
    · trivial
    · exact hread
  | readyListed account readyPlayers =>
    simp only [resume, resumeReady]
    split
    · trivial
    · exact hread
  | startGame hostAccountId =>
    simp only [resume, resumeStart]
    split
    · trivial
    · exact hready
  | startListed hostAccountId readyPlayers =>
    simp only [resume, resumeStart]
    split
    · trivial
    · exact hread
  | startCounted readyPlayers playerCount =>
    simp only [resume, resumeStart]
    split
    · trivial
    next hcount =>
      rw [not_or, Nat.not_lt] at hcount
      exact ⟨hread, hcount.1⟩
  | startPlayers players => exact hread
  | startLookedUp players existing =>
    simp only [resume, resumeStart]
    split
    · trivial
    · exact hread
  | startSettled players settings => exact hread
  | readyCounted account readyPlayers playerCount =>
    simp only [resume, resumeReady]
    split
    · trivial
    · split <;> trivial
  | settingsListed account settings readyPlayers =>
    simp only [resume, resumeSettings]
    split <;> trivial
  | startRequested players settings =>
    simp only [resume, resumeStart]
    split
    · trivial
    · split <;> trivial
  | _ => trivial

/-- One go keeps the ready list a group. -/
theorem Call.Goes.grouped {outside : Outside} {l l' : Lobby} {call call' : Call}
    (hgoes : call.Goes outside l (call', l')) (hready : Grouped l.readyPlayers)
    (hread : call.WellRead) : Grouped l'.readyPlayers := by
  cases hgoes with
  | readies _ hnew hroom =>
    refine ⟨?_, fun player hplayer => ?_⟩
    · rw [List.map_append, List.map_singleton]
      refine List.nodup_append.2 ⟨hready.once, List.nodup_singleton _, ?_⟩
      rintro accountId hmem _ hsame rfl
      rw [List.mem_singleton.1 hsame] at hmem
      exact Bool.eq_false_iff.1 hnew (Lobby.isReady_iff.2 hmem)
    · rcases List.mem_append.1 hplayer with hplayer | hplayer
      · exact hready.named player hplayer
      · exact List.mem_singleton.1 hplayer ▸ hread
  | unreadies => exact hready.sublist List.eraseP_sublist
  | frees => exact hready.sublist List.filter_sublist
  | assigns hgame hassign =>
    obtain ⟨-, rfl⟩ := Lobby.assign_eq_ok hassign
    exact hready
  | reads | writes | completes => exact hready

/-- Along a run the ready list is a group, and so is whatever a call has read off it. -/
theorem lobby_wellRead {c : Calls Lobby Call} (h : lobbyService.Run SignedUp c) :
    ∀ call ∈ c.calls, call.WellRead := by
  refine (h.invariant_calls (I := fun l => Grouped l.readyPlayers)
    (⟨.nil, fun _ hmem => (nomatch hmem)⟩ : Grouped []) (fun _ => Call.wellRead_request) ?_).2
  intro l calls call outside hready hcall hsigned
  exact ⟨(call.goes outside l).grouped hready hcall, Call.wellRead_resume hready hcall hsigned⟩

/-! ## The deal -/

/-- The schema passes a request of named accounts as it is. -/
theorem CreateGameRequestSchema_ok (request : CreateGameRequest)
    (hnamed : ∀ player ∈ request.players, player.Named)
    (hsettings : GameSettingsSchema request.settings = []) :
    CreateGameRequestSchema request = .ok request := by
  have hplayers : (request.players.zipIdx.flatMap fun e =>
      (SeatedAccountSchema e.1).map fun field => s!"players.{e.2}.{field}") = [] := by
    refine List.flatMap_eq_nil_iff.2 fun e he => ?_
    rw [(hnamed e.1 (List.fst_mem_of_mem_zipIdx he)).2, List.map_nil]
  have htrimmed : request.players.map LobbyPlayer.trimmed = request.players :=
    List.map_congr_left (fun player hplayer => (hnamed player hplayer).1) |>.trans (List.map_id _)
  rw [CreateGameRequestSchema, hplayers, hsettings, htrimmed]
  rfl

/-- The schema passes no more than `MAX_PLAYER_COUNT` seats. -/
theorem playerCount_le_of_schema {settings : TableSettings} (h : GameSettingsSchema settings = []) :
    settings.playerCount ≤ MAX_PLAYER_COUNT := by
  rw [GameSettingsSchema, List.append_assoc, List.append_assoc, List.append_eq_nil_iff] at h
  have hpasses := h.1
  rw [atFault, ite_eq_left_iff] at hpasses
  by_contra hmany
  simp [hmany] at hpasses

/-- A seat is found by its account. -/
theorem findRev?_accountId {players : List LobbyPlayer}
    (honce : (players.map LobbyPlayer.accountId).Nodup) {player : LobbyPlayer}
    (hplayer : player ∈ players) :
    players.findRev? (fun other => other.accountId = player.accountId) = some player := by
  rw [List.findRev?_eq_find?_reverse]
  cases hfind : players.reverse.find? fun other => other.accountId = player.accountId with
  | none => simpa using List.find?_eq_none.1 hfind player (List.mem_reverse.2 hplayer)
  | some other =>
    have hother := List.mem_reverse.1 (List.mem_of_find?_eq_some hfind)
    have hsame : other.accountId = player.accountId :=
      of_decide_eq_true (List.find?_some hfind :)
    rw [List.inj_on_of_nodup_map honce hother hplayer hsame]

/-- How many leaders, monsters and cards for the deck the base set has. -/
theorem baseGameCards_enough :
    (baseGameCards.filter fun card => card.getType = .leader).map Card.id =
      baseLeaders.map Card.id ∧ baseLeaders.length = 6 ∧
    (baseGameCards.filter fun card => card.getType = .monster).length = 15 ∧
    (baseGameCards.filter fun card => MAIN_DECK_TYPES.contains card.getType).length = 115 := by
  decide +kernel

section
variable {request : CreateGameRequest} {rng : Nat → Nat}

/-- A game of the lobby is dealt from all of the base set. -/
theorem pool_setupFor : (setupFor request rng).pool = baseGameCards := by
  refine List.filter_eq_self.2 fun card hcard => ?_
  rw [baseGameCards_programmed.2.2 card hcard]
  cases request.settings.cardSet
  simp [setupFor, gameConfigFor, CardSet.toText]

/-- The leaders of the deal are those of the base cards. -/
theorem leaders_setupFor : (setupFor request rng).leaders = baseLeaders.map Card.id := by
  rw [GameSetup.leaders, GameSetup.byType, pool_setupFor]
  exact baseGameCards_enough.1

/-- There are enough cards for every group of at most four. -/
theorem setupFor_valid (rng : Nat → Nat) (honce : (request.players.map LobbyPlayer.accountId).Nodup)
    (hroom : request.players.length ≤ MAX_PLAYER_COUNT) : (setupFor request rng).Valid := by
  obtain ⟨-, hleaders, hmonsters, hdeck⟩ := baseGameCards_enough
  have hseats : (setupFor request rng).playerIds.length = request.players.length :=
    List.length_map ..
  refine ⟨honce, ?_, ?_, ?_⟩
  · rw [leaders_setupFor, List.length_map, hleaders, hseats]
    exact Nat.le_trans hroom (by decide)
  · rw [GameSetup.monsters, GameSetup.byType, pool_setupFor, List.length_map, hmonsters]
    decide
  · rw [GameSetup.deckCards, pool_setupFor, List.length_map, hdeck, hseats]
    show request.players.length * 5 ≤ 115
    exact Nat.le_trans (Nat.mul_le_mul_right 5 hroom) (by decide)

end

/-- A game dealt to these players: everyone seated once, under the name of the account, with five
cards in hand and a leader; three monsters face up; and every printed card in one place, the leaders
nobody leads apart. -/
structure DealtTo (players : List LobbyPlayer) (w : World) : Prop where
  seats : w.playerOrder.Perm (players.map LobbyPlayer.accountId)
  named : ∀ player ∈ players, (w.gs.board.players.get? player.accountId).map Player.name =
    some player.username
  hands : ∀ player ∈ players, (w.gs.board.hand player.accountId).length = 5
  led : ∀ player ∈ players, ∃ leaderId ∈ baseLeaders.map Card.id,
    (w.gs.board.parties.get? player.accountId).map Party.leaderId = some leaderId
  row : w.gs.board.monsterPile.length = 3
  cards : ∃ undealt, (∀ cardId ∈ undealt, cardId ∈ baseLeaders.map Card.id) ∧
    (w.gs.board.cardIds ++ undealt).Perm (baseGameCards.map Card.id)

/-- What the engine throws at a group of the lobby that finds no room. -/
def noRoomMessage (players seats : Nat) : String :=
  s!"createGame: {players} players — this game seats {MIN_PLAYER_COUNT} to {seats}."

/-- A group that finds room is dealt a whole table. -/
theorem dealtTo_setupFor (request : CreateGameRequest) (rng : Nat → Nat)
    (honce : (request.players.map LobbyPlayer.accountId).Nodup)
    (hroom : request.players.length ≤ MAX_PLAYER_COUNT) :
    DealtTo request.players (setupFor request rng).dealt := by
  have hvalid := setupFor_valid rng honce hroom
  have hseats : ∀ player ∈ request.players,
      player.accountId ∈ (setupFor request rng).playerOrder := fun player hplayer =>
    (setupFor request rng).playerOrder_perm.mem_iff.2 (List.mem_map_of_mem hplayer)
  refine ⟨GameSetup.playerOrder_perm _, fun player hplayer => ?_, fun player hplayer => ?_,
    fun player hplayer => ?_, hvalid.row_board, (setupFor request rng).undealtLeaders, ?_, ?_⟩
  · refine (hvalid.name_board (hseats player hplayer)).trans ?_
    simp only [setupFor, findRev?_accountId honce hplayer]
    rfl
  · exact hvalid.board_whole.2 _ (hseats player hplayer)
  · have hled := hvalid.leader_board (hseats player hplayer)
    rwa [leaders_setupFor] at hled
  · intro cardId hcard
    have hleader := (setupFor request rng).dealtLeaders_perm.subset (List.mem_of_mem_drop hcard)
    rwa [leaders_setupFor] at hleader
  · exact pool_setupFor ▸ hvalid.cardIds_board

/-- What a call hands over is dealt whole as long as the group fits the settings handed over with
it, and is otherwise refused for that alone. -/
theorem lobby_handsOver {c : Calls Lobby Call} (h : lobbyService.Run SignedUp c)
    {players : List LobbyPlayer} {settings : GameSettings}
    (hcall : .startRequested players settings ∈ c.calls) {full : TableSettings}
    (hfull : full.toGameSettings = settings) (hvalid : GameSettingsSchema full = [])
    (game : CreatedGame) (rng : Nat → Nat) :
    (players.length ≤ settings.playerCount → ∃ w,
      InternalGameController.createGame game rng ⟨players, full⟩ = .ok (game, w) ∧
        DealtTo players w) ∧
    (settings.playerCount < players.length →
      InternalGameController.createGame game rng ⟨players, full⟩ =
        .error (.thrown (.thrown (noRoomMessage players.length settings.playerCount)))) := by
  obtain ⟨⟨honce, hnamed⟩, hmany⟩ : Grouped players ∧ MIN_PLAYER_COUNT ≤ players.length :=
    lobby_wellRead h _ hcall
  subst hfull
  have hparsed := CreateGameRequestSchema_ok ⟨players, full⟩ hnamed hvalid
  have hseats : (setupFor ⟨players, full⟩ rng).playerIds.length = players.length :=
    List.length_map ..
  constructor
  · intro hfits
    have hroom : players.length ≤ MAX_PLAYER_COUNT :=
      Nat.le_trans hfits (playerCount_le_of_schema hvalid)
    have hvalid' : (setupFor ⟨players, full⟩ rng).Valid := setupFor_valid rng honce hroom
    have hdealt := GameSetup.createGame_iff.2
      ⟨⟨hvalid', hseats.symm ▸ hmany, hseats.symm ▸ hfits⟩, rfl⟩
    refine ⟨_, ?_, dealtTo_setupFor ⟨players, full⟩ rng honce hroom⟩
    simp only [InternalGameController.createGame, hparsed, hdealt]
  · intro hover
    have hrefused : (setupFor ⟨players, full⟩ rng).assertSeats =
        .error (.thrown (noRoomMessage players.length full.playerCount)) := by
      rw [GameSetup.assertSeats, hseats, if_pos (.inr hover)]
      rfl
    simp only [InternalGameController.createGame, hparsed]
    rw [createGame, hrefused]
    rfl

/-- What the call hands over as it goes on. -/
def Call.handsOver : Call → Option (List LobbyPlayer × GameSettings)
  | .startRequested players settings => some (players, settings)
  | _ => none

/-- A call that hands a lobby over has asked for a game. -/
theorem Call.of_handsOver {call : Call} {players : List LobbyPlayer} {settings : GameSettings}
    (h : call.handsOver = some (players, settings)) : call = .startRequested players settings := by
  cases call <;> cases h
  rfl

/-- Two players and their host's call; and three, the third of whose seats the host closes after the
group has been counted. -/
theorem handsOver_played :
    (lobbyService.play SignedUp
      (becomesReady 0 "A" ++ becomesReady 1 "B" ++ .call (.startGame "A") :: goOn 2 6)).any
        (fun c => (c.calls.filterMap Call.handsOver).contains
        ([⟨"A", "A"⟩, ⟨"B", "B"⟩], ⟨4⟩)) = true ∧
    (lobbyService.play SignedUp
      (becomesReady 0 "A" ++ becomesReady 1 "B" ++ becomesReady 2 "C" ++
        .call (.startGame "A") :: goOn 3 3 ++ .call (.updateSettings ⟨"A", "A"⟩ ⟨2⟩) :: goOn 4 2 ++
        goOn 3 3)).any
        (fun c => (c.calls.filterMap Call.handsOver).contains
          ([⟨"A", "A"⟩, ⟨"B", "B"⟩, ⟨"C", "C"⟩], ⟨2⟩)) = true := by
  decide +kernel

/-- A script that ends with a lobby handed over is a run that does. -/
theorem handsOver_of_play {script : List (Service.Move Call Outside)} {players : List LobbyPlayer}
    {settings : GameSettings} (h : (lobbyService.play SignedUp script).any (fun c =>
      (c.calls.filterMap Call.handsOver).contains (players, settings)) = true) :
    ∃ c, lobbyService.Run SignedUp c ∧ .startRequested players settings ∈ c.calls := by
  obtain ⟨c, hc, hmem⟩ := Option.any_eq_true _ _ |>.1 h
  obtain ⟨call, hcall, hhands⟩ := List.mem_filterMap.1 (List.contains_iff_mem.1 hmem)
  exact ⟨c, .of_play hc, Call.of_handsOver hhands ▸ hcall⟩

/-- The game for two is dealt, the game for three is refused. -/
theorem lobby_handsOver_forTwo :
    (∃ w, InternalGameController.createGame ⟨"G", "ws"⟩ (fun _ => 0)
      ⟨[⟨"A", "A"⟩, ⟨"B", "B"⟩], DEFAULT_GAME_SETTINGS⟩ = .ok (⟨"G", "ws"⟩, w) ∧
      DealtTo [⟨"A", "A"⟩, ⟨"B", "B"⟩] w) ∧
    InternalGameController.createGame ⟨"G", "ws"⟩ (fun _ => 0)
      ⟨[⟨"A", "A"⟩, ⟨"B", "B"⟩, ⟨"C", "C"⟩], { FAST_GAME_SETTINGS with playerCount := 2 }⟩ =
        .error (.thrown (.thrown (noRoomMessage 3 2))) := by
  constructor
  · obtain ⟨c, hc, hcall⟩ := handsOver_of_play handsOver_played.1
    exact (lobby_handsOver hc hcall rfl rfl _ _).1 (by decide)
  · obtain ⟨c, hc, hcall⟩ := handsOver_of_play handsOver_played.2
    exact (lobby_handsOver hc hcall rfl rfl _ _).2 (by decide)

end HereToSlaughter
