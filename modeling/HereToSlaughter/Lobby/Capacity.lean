import HereToSlaughter.Lobby.Service

/-!
# What a call can do in one go, and how many may be ready

`Call.Goes` lists what one go of a call can do to the stores. The ready list never holds an account
twice. It holds at most as many players as the settings seat once all calls have ended, as long as
the host's change of the settings finds room for those it leaves seated: it closes the seats of
the players it has read, and a player who has sat down since then keeps a seat that is no more.
-/

namespace HereToSlaughter

open Lib

/-! ## The gos of a call -/

namespace Call

/-- The accounts that the next go takes off the ready list. -/
def removing : Call → List String
  | .settingsWritten settings readyPlayers =>
    (readyPlayers.drop settings.playerCount).map LobbyPlayer.accountId
  | .startAssigned accountIds => accountIds
  | _ => []

/-- The call may have written to the ready list or to the assignments. -/
def mayHaveWritten : Call → Bool
  | .startAssigned _ | .startFreed | .answering | .ended none => true
  | _ => false

/-- What one go of a call can do. -/
inductive Goes (outside : Outside) (l : Lobby) : Call → Call × Lobby → Prop
  | reads {call call'} (gameStartInProgress : Bool) (hbefore : call.removing = [])
    (hafter : call'.removing = [])
    (hwritten : call.mayHaveWritten = true → call'.mayHaveWritten = true) :
    Goes outside l call (call', { l with gameStartInProgress })
  | readies {account readyPlayers playerCount} (hcounted : readyPlayers.length < playerCount)
    (hnew : l.isReady account.accountId = false)
    (hroom : l.readyPlayers.length < l.settings.playerCount) :
    Goes outside l (.readyCounted account readyPlayers playerCount)
      (.answering, { l with readyPlayers := l.readyPlayers ++ [account] })
  | unreadies {account} :
    Goes outside l (.unready account) (.answering, l.removeReadyPlayer account.accountId)
  | writes {account settings readyPlayers}
    (hhost : readyPlayers.head?.map LobbyPlayer.accountId = some account.accountId) :
    Goes outside l (.settingsListed account settings readyPlayers)
      (.settingsWritten settings readyPlayers, { l with settings })
  | frees {call call'} (hafter : call'.removing = []) (hwritten : call'.mayHaveWritten = true) :
    Goes outside l call (call', l.removeReadyPlayers call.removing)
  | assigns {players settings game l'} (hgame : outside.game = some game)
    (hassign : l.assign (players.map fun player =>
      ⟨player.accountId, game.gameId, game.webSocketUrl, outside.now⟩) = .ok l') :
    Goes outside l (.startRequested players settings)
      (.startAssigned (players.map LobbyPlayer.accountId), l')
  | completes {gameId} :
    Goes outside l (.completeGame gameId) (.answering, l.removeByGameId gameId)

variable {outside : Outside} {l : Lobby}

/-- A go that leaves the stores alone. -/
theorem Goes.stays {call call' : Call} (hbefore : call.removing = []) (hafter : call'.removing = [])
    (hwritten : call.mayHaveWritten = true → call'.mayHaveWritten = true) :
    Goes outside l call (call', l) := .reads l.gameStartInProgress hbefore hafter hwritten

/-- A go of a call that is none of the writing ones. -/
theorem Goes.looks {call call' : Call} (hbefore : call.removing = [] ∧ call.mayHaveWritten = false)
    (hafter : call'.removing = []) : Goes outside l call (call', l) :=
  .stays hbefore.1 hafter fun hwritten => absurd (hbefore.2.symm.trans hwritten) Bool.false_ne_true

/-- What a call does as it goes on is one of these. -/
theorem goes (call : Call) (outside : Outside) (l : Lobby) :
    Goes outside l call (call.resume outside l) := by
  cases call with
  | ready account => exact .looks ⟨rfl, rfl⟩ rfl
  | readyChecked account assignment =>
    simp only [resume, resumeReady]
    split <;> exact .looks ⟨rfl, rfl⟩ rfl
  | readyListed account readyPlayers =>
    simp only [resume, resumeReady]
    split <;> exact .looks ⟨rfl, rfl⟩ rfl
  | readyCounted account readyPlayers playerCount =>
    simp only [resume, resumeReady, Lobby.addReadyPlayer]
    split
    · exact .looks ⟨rfl, rfl⟩ rfl
    next hcounted =>
      cases hready : l.isReady account.accountId with
      | true => exact .looks ⟨rfl, rfl⟩ rfl
      | false =>
        by_cases hfull : l.settings.playerCount ≤ l.readyPlayers.length
        · simp only [hfull, if_true]
          exact .looks ⟨rfl, rfl⟩ rfl
        · simp only [hfull, if_false]
          exact .readies (Nat.lt_of_not_le hcounted) hready (Nat.lt_of_not_le hfull)
  | unready account => exact .unreadies
  | updateSettings account settings => exact .looks ⟨rfl, rfl⟩ rfl
  | settingsListed account settings readyPlayers =>
    simp only [resume, resumeSettings]
    split
    · exact .looks ⟨rfl, rfl⟩ rfl
    next hhost => exact .writes (not_not.1 hhost)
  | settingsWritten settings readyPlayers => exact .frees rfl rfl
  | startGame hostAccountId =>
    simp only [resume, resumeStart]
    split
    · exact .looks ⟨rfl, rfl⟩ rfl
    · exact .reads true rfl rfl id
  | startListed hostAccountId readyPlayers =>
    simp only [resume, resumeStart]
    split <;> exact .looks ⟨rfl, rfl⟩ rfl
  | startCounted readyPlayers playerCount =>
    simp only [resume, resumeStart]
    split <;> exact .looks ⟨rfl, rfl⟩ rfl
  | startPlayers players => exact .looks ⟨rfl, rfl⟩ rfl
  | startLookedUp players existing =>
    simp only [resume, resumeStart]
    split
    · exact .reads false rfl rfl fun hwritten => (nomatch hwritten)
    · exact .looks ⟨rfl, rfl⟩ rfl
  | startSettled players settings => exact .looks ⟨rfl, rfl⟩ rfl
  | startRequested players settings =>
    simp only [resume, resumeStart]
    split
    · exact .reads false rfl rfl fun hwritten => (nomatch hwritten)
    next game hgame =>
      split
      · exact .looks ⟨rfl, rfl⟩ rfl
      next hassign => exact .assigns hgame hassign
  | startAssigned accountIds => exact .frees rfl rfl
  | startFreed => exact .reads false rfl rfl fun _ => rfl
  | startThrown error => exact .reads false rfl rfl fun hwritten => (nomatch hwritten)
  | completeGame gameId => exact .completes
  | answering => exact .stays rfl rfl fun _ => rfl
  | ended error => exact .stays rfl rfl id

end Call

namespace Lobby

variable {l : Lobby}

/-- Who is ready is in the list. -/
theorem isReady_iff {accountId : String} :
    l.isReady accountId = true ↔ accountId ∈ l.readyPlayers.map LobbyPlayer.accountId := by
  simp [isReady]

/-- The players that stay when these accounts go. -/
def staying (l : Lobby) (accountIds : List String) : List LobbyPlayer :=
  l.readyPlayers.filter fun player => player.accountId ∉ accountIds

end Lobby

/-! ## Capacity -/

/-- The accounts that calls in flight are about to take off the ready list. -/
def leaving (calls : List Call) : List String := calls.flatMap Call.removing

/-- When the host's settings are written, the players who stay find a seat: those who are ready,
apart from the ones this call or another is about to take off the list. -/
def RoomWhenWritten (l : Lobby) (calls : List Call) (call : Call) (_ : Outside) : Prop :=
  match call with
  | .settingsListed account settings readyPlayers =>
    readyPlayers.head?.map LobbyPlayer.accountId = some account.accountId →
      (l.staying (leaving calls ++
        (readyPlayers.drop settings.playerCount).map LobbyPlayer.accountId)).length ≤
        settings.playerCount
  | _ => True

instance (l : Lobby) (calls : List Call) (call : Call) (outside : Outside) :
    Decidable (RoomWhenWritten l calls call outside) := by
  cases call <;> exact (by dsimp only [RoomWhenWritten]; infer_instance)

/-- No account is ready twice, and no more are ready than the settings seat. -/
structure Lobby.Fits (l : Lobby) : Prop where
  once : (l.readyPlayers.map LobbyPlayer.accountId).Nodup
  room : l.readyPlayers.length ≤ l.settings.playerCount

/-- Those who leave, before a call and after it. -/
theorem leaving_split (before : List Call) (call : Call) (after : List Call) :
    leaving (before ++ call :: after) = leaving before ++ (call.removing ++ leaving after) := by
  simp [leaving]

/-- A call that has just come in takes nobody off the list. -/
theorem leaving_request {calls : List Call} {call : Call} (h : call.isRequest = true) :
    leaving (calls ++ [call]) = leaving calls := by
  have hnone : call.removing = [] := by
    cases call <;> first | rfl | cases h
  simp [leaving, hnone]

/-- Nobody is about to go once all calls have ended. -/
theorem leaving_ended {calls : List Call} (h : ∀ call ∈ calls, call.isEnded = true) :
    leaving calls = [] := by
  refine List.flatMap_eq_nil_iff.2 fun call hcall => ?_
  cases call <;> first | rfl | exact (nomatch h _ hcall)

/-- A go that empties its own part of the list does not change who stays. -/
theorem staying_removeReadyPlayers (l : Lobby) (accountIds others : List String) :
    (l.removeReadyPlayers accountIds).staying others = l.staying (accountIds ++ others) := by
  simp only [Lobby.staying, Lobby.removeReadyPlayers, List.filter_filter]
  refine List.filter_congr fun player _ => ?_
  simp [not_or, Bool.and_comm]

/-- The more go, the fewer stay. -/
theorem length_staying_le (l : Lobby) {ids ids' : List String} (h : ∀ a, a ∈ ids → a ∈ ids') :
    (l.staying ids').length ≤ (l.staying ids).length := by
  refine (List.monotone_filter_right _ fun player hplayer => ?_).length_le
  simp only [decide_eq_true_eq] at hplayer ⊢
  exact fun hmem => hplayer (h _ hmem)

/-- Assigning a group leaves the ready list and the settings alone. -/
theorem Lobby.assign_eq_ok {batch : List GameAssignment} {l l' : Lobby}
    (h : l.assign batch = .ok l') : l.firstRefused [] batch = none ∧
      l' = { l with
        assignments := batch.foldl (fun m assignment => m.set assignment.accountId assignment)
          l.assignments } := by
  unfold Lobby.assign at h
  split at h
  · cases h
  next hnone =>
    cases h
    exact ⟨hnone, rfl⟩

/-- What one go makes of the ready list. -/
theorem Call.Goes.fits {outside : Outside} {l l' : Lobby} {before after : List Call}
    {call call' : Call} (hgoes : call.Goes outside l (call', l'))
    (hroom : RoomWhenWritten l (before ++ call :: after) call outside)
    (honce : (l.readyPlayers.map LobbyPlayer.accountId).Nodup)
    (hstay : (l.staying (leaving (before ++ call :: after))).length ≤ l.settings.playerCount) :
    (l'.readyPlayers.map LobbyPlayer.accountId).Nodup ∧
      (l'.staying (leaving (before ++ call' :: after))).length ≤ l'.settings.playerCount := by
  have hleaving := leaving_split before call after
  have hleaving' := leaving_split before call' after
  cases hgoes with
  | reads _ hbefore hafter =>
    rw [hleaving, hbefore] at hstay
    rw [hleaving', hafter]
    exact ⟨honce, hstay⟩
  | readies _ hnew hseat =>
    have hnotin := fun hmem => Bool.eq_false_iff.1 hnew (Lobby.isReady_iff.2 hmem)
    refine ⟨?_, Nat.le_trans (List.length_filter_le _ _) ?_⟩
    · rw [List.map_append, List.map_singleton]
      exact List.nodup_append.2 ⟨honce, List.nodup_singleton _, fun a ha b hb =>
        fun hab => hnotin (List.mem_singleton.1 hb ▸ hab ▸ ha)⟩
    · rw [List.length_append]
      exact hseat
  | @unreadies account =>
    have hsub : (l.removeReadyPlayer account.accountId).readyPlayers.Sublist l.readyPlayers :=
      List.eraseP_sublist
    refine ⟨honce.sublist (hsub.map _), Nat.le_trans (hsub.filter _).length_le ?_⟩
    rw [hleaving] at hstay
    rw [hleaving']
    exact hstay
  | writes hhost =>
    refine ⟨honce, Nat.le_trans (length_staying_le l fun a ha => ?_) (hroom hhost)⟩
    rw [hleaving] at ha
    rw [hleaving']
    simp only [List.mem_append, removing, List.not_mem_nil, false_or] at ha ⊢
    tauto
  | frees hafter =>
    refine ⟨honce.sublist (List.filter_sublist.map _), ?_⟩
    rw [hleaving', hafter, staying_removeReadyPlayers]
    rw [hleaving] at hstay
    refine Nat.le_trans (length_staying_le l fun a ha => ?_) hstay
    simp only [List.mem_append, List.not_mem_nil, false_or] at ha ⊢
    tauto
  | assigns hgame hassign =>
    obtain ⟨-, rfl⟩ := Lobby.assign_eq_ok hassign
    refine ⟨honce, Nat.le_trans (length_staying_le l fun a ha => ?_) hstay⟩
    rw [hleaving] at ha
    rw [hleaving']
    simp only [List.mem_append, removing, List.not_mem_nil, false_or] at ha ⊢
    tauto
  | completes =>
    rw [hleaving] at hstay
    rw [hleaving']
    exact ⟨honce, hstay⟩

/-- Where nobody has sat down since the host's call read the list, there is room. -/
theorem roomWhenWritten_of_unchanged {l : Lobby} {calls : List Call} {account : LobbyPlayer}
    {settings : GameSettings} {readyPlayers : List LobbyPlayer} {outside : Outside}
    (honce : (l.readyPlayers.map LobbyPlayer.accountId).Nodup)
    (hunchanged : ∀ player ∈ l.readyPlayers, player ∈ readyPlayers) :
    RoomWhenWritten l calls (.settingsListed account settings readyPlayers) outside := by
  intro _
  have hstays : ∀ player ∈ l.staying ((readyPlayers.drop settings.playerCount).map
      LobbyPlayer.accountId), player ∈ readyPlayers.take settings.playerCount := by
    intro player hplayer
    obtain ⟨hmem, hnot⟩ := List.mem_filter.1 hplayer
    have hread := hunchanged player hmem
    rw [← List.take_append_drop settings.playerCount readyPlayers] at hread
    refine (List.mem_append.1 hread).resolve_right fun hdrop => ?_
    exact of_decide_eq_true hnot (List.mem_map_of_mem hdrop)
  have hnodup : (l.staying ((readyPlayers.drop settings.playerCount).map
      LobbyPlayer.accountId)).Nodup := honce.of_map.filter _
  calc (l.staying (leaving calls ++ _)).length
      ≤ (l.staying ((readyPlayers.drop settings.playerCount).map LobbyPlayer.accountId)).length :=
        length_staying_le l fun a ha => List.mem_append_right _ ha
    _ ≤ (readyPlayers.take settings.playerCount).length :=
        (hnodup.subperm hstays).length_le
    _ ≤ settings.playerCount := List.length_take_le _ _

/-- No account is ready twice, whatever the calls and however they interleave; and once all of them
have ended no more are ready than the settings seat, if every change of the settings found room for
those it left. -/
theorem lobby_fits {c : Calls Lobby Call} (h : lobbyService.Run RoomWhenWritten c)
    (hquiet : ∀ call ∈ c.calls, call.isEnded = true) : c.shared.Fits := by
  obtain ⟨honce, hstay⟩ := h.invariant
    (I := fun l calls => (l.readyPlayers.map LobbyPlayer.accountId).Nodup ∧
      (l.staying (leaving calls)).length ≤ l.settings.playerCount)
    ⟨.nil, Nat.zero_le _⟩
    (by
      intro l calls call hI hcall
      rw [leaving_request hcall]
      exact hI)
    (fun l before call after outside hI hroom => (call.goes outside l).fits hroom hI.1 hI.2)
  refine ⟨honce, Nat.le_trans (Nat.le_of_eq (congrArg List.length ?_)) hstay⟩
  rw [leaving_ended hquiet]
  exact (List.filter_eq_self.2 fun _ _ => by simp).symm

/-- The host closes the seat of the third player. -/
theorem lobby_fits_seatClosed : ∃ c, lobbyService.Run RoomWhenWritten c ∧
    c.shared.readyPlayers.length = 2 ∧ c.shared.Fits := by
  let script := becomesReady 0 "A" ++ becomesReady 1 "B" ++ becomesReady 2 "C" ++
    .call (.updateSettings ⟨"A", "A"⟩ ⟨2⟩) :: goOn 3 4
  have hplay : ((lobbyService.play RoomWhenWritten script).map fun c =>
      (c.calls.all Call.isEnded, c.shared.readyPlayers.length)) = some (true, 2) := by decide
  obtain ⟨c, hc, heq⟩ := Option.map_eq_some_iff.1 hplay
  obtain ⟨hquiet, hlength⟩ := Prod.mk.inj heq
  exact ⟨c, .of_play hc, hlength, lobby_fits (.of_play hc) (List.all_eq_true.1 hquiet)⟩

/-- A third player sits down after the host's call has read the list and before it closes the third
seat. -/
theorem not_fits_latecomer : ∃ c, lobbyService.Run (fun _ _ _ _ => True) c ∧
    (∀ call ∈ c.calls, call.isEnded = true) ∧ ¬ c.shared.Fits := by
  let script := becomesReady 0 "A" ++ becomesReady 1 "B" ++
    (.call (.updateSettings ⟨"A", "A"⟩ ⟨2⟩) :: goOn 2 1 ++ becomesReady 3 "C" ++ goOn 2 3)
  have hplay : ((lobbyService.play (fun _ _ _ _ => True) script).map fun c =>
      (c.calls.all Call.isEnded, c.shared.readyPlayers.length, c.shared.settings.playerCount)) =
        some (true, 3, 2) := by decide
  obtain ⟨c, hc, heq⟩ := Option.map_eq_some_iff.1 hplay
  obtain ⟨hquiet, hrest⟩ := Prod.mk.inj heq
  obtain ⟨hlength, hcount⟩ := Prod.mk.inj hrest
  refine ⟨c, .of_play hc, List.all_eq_true.1 hquiet, fun hfits => ?_⟩
  have hroom := hfits.room
  rw [hlength, hcount] at hroom
  exact absurd hroom (by decide)

end HereToSlaughter
