import HereToSlaughter.Lobby.Capacity

/-!
# Ready or seated

An account is put in a game by the call that starts it, which assigns the group it has read off the
ready list and only then takes the group off that list. Whoever watches the lobby writes down who
has stepped out and not come back, and who has been put in which game; `notedService` is the lobby
with these notes, which no call reads.

An account sits in one game at most, and a call that ends with an error has changed neither the
ready list nor the assignments. That no account is both ready and seated, and that nobody is
seated after stepping out, depends on the interleaving: both are decided on what a call has read
some awaits before it writes.
-/

namespace HereToSlaughter

open Lib

/-! ## The notes -/

/-- The lobby, and what has been written down of it: who has stepped out with `unready` and not come
back, who has been put in which game that is not over, and who was put in one after stepping out. -/
structure NotedLobby where
  lobby : Lobby := {}
  away : List String := []
  seatings : List (String × String) := []
  wronged : List String := []

/-- A call, and whether it has changed the ready list or the assignments. -/
structure NotedCall where
  call : Call
  touched : Bool := false

/-- The account that steps out with this call. -/
def Call.stepsOut : Call → List String
  | .unready account => [account.accountId]
  | _ => []

namespace NotedLobby

/-- What is written down as a call goes on. -/
def note (w : NotedLobby) (call : Call) (outside : Outside) (after : Call × Lobby) :
    NotedLobby where
  lobby := after.2
  away := (call.stepsOut ++ w.away).filter fun accountId => !after.2.isReady accountId
  seatings :=
    match call, after.1, outside.game with
    | .startRequested .., .startAssigned accountIds, some game =>
      w.seatings ++ accountIds.map (·, game.gameId)
    | .completeGame gameId, _, _ => w.seatings.filter (·.2 ≠ gameId)
    | _, _, _ => w.seatings
  wronged :=
    match call, after.1 with
    | .startRequested .., .startAssigned accountIds =>
      w.wronged ++ accountIds.filter (· ∈ w.away)
    | _, _ => w.wronged

end NotedLobby

/-- The lobby with the notes. -/
def notedService : Service NotedLobby NotedCall Outside where
  start := {}
  begins k := k.call.isRequest = true ∧ k.touched = false
  resume k outside w :=
    let after := k.call.resume outside w.lobby
    ({ call := after.1
       touched := k.touched ||
        decide (after.2.readyPlayers ≠ w.lobby.readyPlayers ∨
          after.2.assignments.entries ≠ w.lobby.assignments.entries) },
      w.note k.call outside after)

instance (k : NotedCall) : Decidable (notedService.begins k) :=
  inferInstanceAs (Decidable (k.call.isRequest = true ∧ k.touched = false))

/-- Without its notes, a run of the lobby with the notes is one of the lobby. -/
theorem lobbyService_of_noted {G : NotedLobby → List NotedCall → NotedCall → Outside → Prop}
    {c : Calls NotedLobby NotedCall} (h : notedService.Run G c) :
    lobbyService.Run (fun _ _ _ _ => True) ⟨c.shared.lobby, c.calls.map NotedCall.call⟩ :=
  h.map rfl (fun _ hk => hk.1) (fun _ _ _ => rfl) fun _ _ _ _ _ => trivial

/-! ## One game at most, and nothing touched -/

/-- A call that has changed the ready list or the assignments is one that may have. -/
theorem touched_of_goes {outside : Outside} {l l' : Lobby} {call call' : Call}
    (hgoes : call.Goes outside l (call', l')) :
    (call.mayHaveWritten = true → call'.mayHaveWritten = true) ∧
      (call'.mayHaveWritten = false →
        l'.readyPlayers = l.readyPlayers ∧ l'.assignments = l.assignments) := by
  cases hgoes with
  | reads _ _ _ hwritten => exact ⟨hwritten, fun _ => ⟨rfl, rfl⟩⟩
  | writes => exact ⟨fun h => (nomatch h), fun _ => ⟨rfl, rfl⟩⟩
  | frees _ hwritten =>
    exact ⟨fun _ => hwritten, fun h => absurd (h.symm.trans hwritten) Bool.false_ne_true⟩
  | readies | unreadies | assigns | completes => exact ⟨fun _ => rfl, fun h => (nomatch h)⟩

variable {G : NotedLobby → List NotedCall → NotedCall → Outside → Prop}
  {c : Calls NotedLobby NotedCall}

/-- A call that has touched the ready list or the assignments has not failed. -/
theorem mayHaveWritten_of_touched (h : notedService.Run G c) :
    ∀ k ∈ c.calls, k.touched = true → k.call.mayHaveWritten = true := by
  refine h.forall_calls (J := fun _ k => k.touched = true → k.call.mayHaveWritten = true)
    (fun _ k hk htouched => absurd (hk.2.symm.trans htouched) Bool.false_ne_true) ?_ ?_
  · intro w _ k outside hJ _ htouched
    obtain ⟨hkeeps, huntouched⟩ := touched_of_goes (k.call.goes outside w.lobby)
    rcases Bool.or_eq_true .. ▸ htouched with htouched | hchanged
    · exact hkeeps (hJ htouched)
    · by_contra hnot
      obtain ⟨hready, hassigned⟩ := huntouched (Bool.eq_false_iff.2 hnot)
      have hchanged := of_decide_eq_true hchanged
      exact hchanged.elim (· hready) (· (congrArg OrderedMap.entries hassigned))
  · intro _ _ _ other hother
    exact hother

/-- A batch that is not refused is of distinct accounts that sit nowhere yet. -/
theorem Lobby.firstRefused_eq_none {l : Lobby} : ∀ {batch : List GameAssignment}
    {incomingAccountIds : List String}, l.firstRefused incomingAccountIds batch = none →
    (batch.map GameAssignment.accountId).Nodup ∧ ∀ assignment ∈ batch,
      assignment.accountId ∉ incomingAccountIds ∧ assignment.accountId ∉ l.assignments.keys
  | [], _, _ => ⟨.nil, fun _ h => (nomatch h)⟩
  | assignment :: batch, incomingAccountIds, h => by
    rw [firstRefused] at h
    split at h
    · cases h
    next hincoming =>
      split at h
      · cases h
      next hassigned =>
        obtain ⟨hnodup, hfree⟩ := firstRefused_eq_none h
        refine ⟨List.nodup_cons.2 ⟨fun hmem => ?_, hnodup⟩, fun other hother => ?_⟩
        · obtain ⟨other, hother, hsame⟩ := List.mem_map.1 hmem
          exact (hfree other hother).1 (hsame ▸ List.mem_cons_self)
        · rcases List.mem_cons.1 hother with rfl | hother
          · exact ⟨hincoming, fun hkey => hassigned (OrderedMap.has_iff.2 hkey)⟩
          · obtain ⟨hnew, hkey⟩ := hfree other hother
            exact ⟨fun hmem => hnew (List.mem_cons_of_mem _ hmem), hkey⟩

/-- Assigning a group adds the group to the assignments. -/
theorem Lobby.entries_assign {batch : List GameAssignment} {l l' : Lobby}
    (h : l.assign batch = .ok l') : l'.assignments.entries =
      l.assignments.entries ++ batch.map fun assignment => (assignment.accountId, assignment) := by
  obtain ⟨hnone, rfl⟩ := Lobby.assign_eq_ok h
  obtain ⟨hnodup, hfree⟩ := firstRefused_eq_none hnone
  have hfold := OrderedMap.entries_foldl_set (m := l.assignments)
    (l := batch.map fun assignment => (assignment.accountId, assignment)) (by
      rw [List.map_map]
      refine List.nodup_append.2 ⟨l.assignments.nodup_keys, hnodup, ?_⟩
      rintro accountId hkey _ hb rfl
      obtain ⟨assignment, hmem, rfl⟩ := List.mem_map.1 hb
      exact (hfree assignment hmem).2 hkey)
  rw [List.foldl_map] at hfold
  exact hfold

/-- The calls that write to the assignments. -/
def Call.seats : Call → Bool
  | .startRequested .. | .completeGame _ => true
  | _ => false

/-- Where a call does not write to the assignments, there is nothing to write down of them. -/
theorem seats_eq_false {call : Call} (h : call.seats = false) (w : NotedLobby) (outside : Outside) :
    (call.resume outside w.lobby).2.assignments = w.lobby.assignments ∧
      (w.note call outside (call.resume outside w.lobby)).seatings = w.seatings ∧
      (w.note call outside (call.resume outside w.lobby)).wronged = w.wronged := by
  refine ⟨?_, ?_⟩
  · have hgoes := call.goes outside w.lobby
    generalize call.resume outside w.lobby = after at hgoes
    cases hgoes with
    | assigns | completes => cases h
    | reads | readies | unreadies | writes | frees => rfl
  · cases call with
    | startRequested | completeGame => cases h
    | _ => exact ⟨rfl, rfl⟩

/-- What becomes of the group when the game server has answered. -/
theorem resume_startRequested (w : NotedLobby) (players : List LobbyPlayer)
    (settings : GameSettings)
    (outside : Outside) {call : Call} (hcall : call = .startRequested players settings) :
    (∃ game l', outside.game = some game ∧
      w.lobby.assign (players.map fun player =>
        ⟨player.accountId, game.gameId, game.webSocketUrl, outside.now⟩) = .ok l' ∧
      call.resume outside w.lobby = (.startAssigned (players.map LobbyPlayer.accountId), l')) ∨
    (call.resume outside w.lobby).2.assignments = w.lobby.assignments ∧
      (w.note call outside (call.resume outside w.lobby)).seatings = w.seatings ∧
      (w.note call outside (call.resume outside w.lobby)).wronged = w.wronged := by
  subst hcall
  simp only [Call.resume, Call.resumeStart]
  split
  · exact .inr ⟨rfl, rfl, rfl⟩
  next game hgame =>
    split
    · exact .inr ⟨rfl, rfl, rfl⟩
    next l' hassign => exact .inl ⟨game, l', hgame, hassign, rfl⟩

/-- What has been written down of who sits where is what the store says. -/
theorem seatings_eq (h : notedService.Run G c) :
    c.shared.seatings = c.shared.lobby.assignments.entries.map fun e => (e.1, e.2.gameId) := by
  refine h.invariant (I := fun w _ =>
    w.seatings = w.lobby.assignments.entries.map fun e => (e.1, e.2.gameId)) rfl ?_ ?_
  · intro _ _ _ hI _
    exact hI
  · intro w before k after outside hI _
    show (w.note k.call outside (k.call.resume outside w.lobby)).seatings =
      (k.call.resume outside w.lobby).2.assignments.entries.map fun e => (e.1, e.2.gameId)
    cases hseats : k.call.seats with
    | false =>
      obtain ⟨hassigned, hsame, -⟩ := seats_eq_false hseats w outside
      rw [hassigned, hsame, hI]
    | true =>
      cases hcall : k.call with
      | completeGame gameId =>
        show w.seatings.filter (·.2 ≠ gameId) = _
        rw [hI, List.filter_map]
        rfl
      | startRequested players settings =>
        obtain ⟨game, l', hgame, hassign, heq⟩ | ⟨hassigned, hsame, -⟩ :=
          resume_startRequested w players settings outside rfl
        · rw [heq, Lobby.entries_assign hassign, List.map_append, ← hI]
          simp [NotedLobby.note, hgame, Function.comp_def]
        · rw [hassigned, hsame, hI]
      | _ => rw [hcall] at hseats; cases hseats

/-! ## Ready or seated -/

/-- The player whom the next go adds to the ready list. -/
def Call.sitsDown (l : Lobby) : Call → Option LobbyPlayer
  | .readyCounted account readyPlayers playerCount =>
    if readyPlayers.length < playerCount ∧ l.isReady account.accountId = false ∧
      l.readyPlayers.length < l.settings.playerCount then some account else none
  | _ => none

/-- The players whom the next go puts in the game it is answered with. -/
def Call.group (l : Lobby) (outside : Outside) : Call → List LobbyPlayer
  | .startRequested players _ =>
    match outside.game with
    | none => []
    | some game =>
      let newAssignments := players.map fun player =>
        ⟨player.accountId, game.gameId, game.webSocketUrl, outside.now⟩
      if (l.firstRefused [] newAssignments).isNone then players else []
  | _ => []

/-- A player who is added to the ready list is not in a game, or is about to be taken off the list;
and when a group is put in a game, all of it is still ready. -/
def DecidedInTime (w : NotedLobby) (calls : List NotedCall) (k : NotedCall)
    (outside : Outside) : Prop :=
  (∀ account ∈ k.call.sitsDown w.lobby, w.lobby.isAssigned account.accountId = true →
    account.accountId ∈ leaving (calls.map NotedCall.call)) ∧
  ∀ player ∈ k.call.group w.lobby outside, w.lobby.isReady player.accountId = true

instance (w : NotedLobby) (calls : List NotedCall) (k : NotedCall) (outside : Outside) :
    Decidable (DecidedInTime w calls k outside) :=
  inferInstanceAs (Decidable ((∀ _ ∈ _, _ → _) ∧ ∀ _ ∈ _, _))

/-- An account is ready or in a game and never both, in one game at most, and in none after stepping
out; and a call that could not have its game dealt has changed nothing. -/
structure NotedLobby.Apart (w : NotedLobby) (calls : List NotedCall) : Prop where
  apart : ∀ accountId, w.lobby.isReady accountId = true → w.lobby.isAssigned accountId = false
  once : (w.seatings.map Prod.fst).Nodup
  wanted : w.wronged = []
  untouched : ∀ k ∈ calls, k.call = .ended (some .gameServerUnavailable) → k.touched = false

/-- Who is ready and in a game is about to be taken off the ready list. -/
theorem leaving_of_both {outside : Outside} {l l' : Lobby} {before after : List Call}
    {call call' : Call} (hgoes : call.Goes outside l (call', l'))
    (hintime : ∀ account ∈ call.sitsDown l, l.isAssigned account.accountId = true →
      account.accountId ∈ leaving (before ++ call :: after))
    (hI : ∀ accountId, l.isReady accountId = true → l.isAssigned accountId = true →
      accountId ∈ leaving (before ++ call :: after)) :
    ∀ accountId, l'.isReady accountId = true → l'.isAssigned accountId = true →
      accountId ∈ leaving (before ++ call' :: after) := by
  intro accountId hready hassigned
  have hleaving := leaving_split before call after
  rw [leaving_split before call' after]
  rw [hleaving] at hI
  cases hgoes with
  | reads _ hbefore hafter =>
    have hmem := hI accountId hready hassigned
    rw [hbefore] at hmem
    rw [hafter]
    exact hmem
  | @readies account readyPlayers playerCount hcounted hnew hroom =>
    by_cases hold : l.isReady accountId = true
    · exact hI accountId hold hassigned
    · have hsame : accountId = account.accountId := by
        rw [Lobby.isReady_iff, List.map_append, List.mem_append] at hready
        rw [Lobby.isReady_iff] at hold
        exact List.mem_singleton.1 (hready.resolve_left hold)
      have hsits : account ∈ Call.sitsDown l (.readyCounted account readyPlayers playerCount) :=
        if_pos ⟨hcounted, hnew, hroom⟩
      exact hleaving ▸ hsame ▸ hintime account hsits (hsame ▸ hassigned)
  | @unreadies account =>
    have hsub : (l.removeReadyPlayer account.accountId).readyPlayers.Sublist l.readyPlayers :=
      List.eraseP_sublist
    rw [Lobby.isReady_iff] at hready
    exact hI accountId (Lobby.isReady_iff.2 ((hsub.map _).mem hready)) hassigned
  | writes hhost =>
    have hmem := hI accountId hready hassigned
    simp only [List.mem_append, Call.removing, List.not_mem_nil, false_or] at hmem ⊢
    tauto
  | frees hafter =>
    rw [Lobby.isReady_iff] at hready
    obtain ⟨player, hplayer, rfl⟩ := List.mem_map.1 hready
    obtain ⟨hmem, hnot⟩ := List.mem_filter.1 hplayer
    have hleft := hI player.accountId (Lobby.isReady_iff.2 (List.mem_map_of_mem hmem)) hassigned
    have hnot := of_decide_eq_true hnot
    simp only [List.mem_append] at hleft ⊢
    tauto
  | @assigns players settings game l' hgame hassign =>
    by_cases hold : l.isAssigned accountId = true
    · obtain ⟨-, hl'⟩ := Lobby.assign_eq_ok hassign
      have hmem := hI accountId (by rw [hl'] at hready; exact hready) hold
      simp only [List.mem_append, Call.removing, List.not_mem_nil, false_or] at hmem ⊢
      tauto
    · have hgroup : accountId ∈ players.map LobbyPlayer.accountId := by
        rw [Lobby.isAssigned, OrderedMap.has_iff] at hassigned hold
        rw [OrderedMap.keys, Lobby.entries_assign hassign, List.map_append, List.mem_append]
          at hassigned
        simpa using hassigned.resolve_left hold
      exact List.mem_append_right _ (List.mem_append_left _ hgroup)
  | @completes gameId =>
    have hkeys : l.isAssigned accountId = true := by
      rw [Lobby.isAssigned, OrderedMap.has_iff] at hassigned ⊢
      exact (List.filter_sublist.map _).mem hassigned
    exact hI accountId hready hkeys

/-- Nobody is put in a game after stepping out, where the whole group is still ready. -/
theorem wronged_eq_nil (h : notedService.Run DecidedInTime c) : c.shared.wronged = [] := by
  have hI := h.invariant (I := fun w _ => (∀ accountId, w.lobby.isReady accountId = true →
    accountId ∉ w.away) ∧ w.wronged = []) ⟨fun _ h => (nomatch h), rfl⟩ ?_ ?_
  · exact hI.2
  · intro _ _ _ hI _
    exact hI
  · intro w before k after outside hI hintime
    refine ⟨fun accountId hready hmem => ?_, ?_⟩
    · exact Bool.eq_false_iff.1 (Bool.not_eq_true' _ ▸ (List.mem_filter.1 hmem).2) hready
    show (w.note k.call outside (k.call.resume outside w.lobby)).wronged = []
    cases hseats : k.call.seats with
    | false => rw [(seats_eq_false hseats w outside).2.2, hI.2]
    | true =>
      cases hcall : k.call with
      | completeGame gameId => exact hI.2
      | startRequested players settings =>
        obtain ⟨game, l', hgame, hassign, heq⟩ | ⟨-, -, hsame⟩ :=
          resume_startRequested w players settings outside rfl
        · have hgroup : k.call.group w.lobby outside = players := by
            simp only [hcall, Call.group, hgame, (Lobby.assign_eq_ok hassign).1, Option.isNone_none,
              if_true]
          have hpresent : (players.map LobbyPlayer.accountId).filter (· ∈ w.away) = [] := by
            refine List.filter_eq_nil_iff.2 fun accountId hmem haway => ?_
            obtain ⟨player, hplayer, rfl⟩ := List.mem_map.1 hmem
            exact hI.1 _ (hintime.2 player (hgroup ▸ hplayer)) (of_decide_eq_true haway)
          rw [heq]
          show w.wronged ++ _ = []
          rw [hI.2, hpresent]
          rfl
        · rw [hsame, hI.2]
      | _ => rw [hcall] at hseats; cases hseats

/-- Once all calls have ended, every account is ready or in a game and not both, and everything else
that is asked of the seating holds, in every run in which players are added to the ready list and
groups are put in games while what was read before is still so. -/
theorem lobby_apart (h : notedService.Run DecidedInTime c)
    (hquiet : ∀ k ∈ c.calls, k.call.isEnded = true) : c.shared.Apart c.calls := by
  refine ⟨fun accountId hready => ?_, ?_, wronged_eq_nil h, fun k hk hfailed => ?_⟩
  · have hboth := h.invariant (I := fun w calls => ∀ accountId, w.lobby.isReady accountId = true →
      w.lobby.isAssigned accountId = true → accountId ∈ leaving (calls.map NotedCall.call))
      (fun _ h => (nomatch h)) ?_ ?_
    · refine Bool.eq_false_iff.2 fun hassigned => ?_
      have hmem := hboth accountId hready hassigned
      rw [leaving_ended fun call hcall => ?_] at hmem
      · cases hmem
      · obtain ⟨k, hk, rfl⟩ := List.mem_map.1 hcall
        exact hquiet k hk
    · intro w calls k hI hk
      rw [List.map_append, List.map_singleton, leaving_request hk.1]
      exact hI
    · intro w before k after outside hI hintime
      rw [List.map_append, List.map_cons] at hI ⊢
      refine leaving_of_both (k.call.goes outside w.lobby) (fun account hsits => ?_) hI
      simpa using hintime.1 account hsits
  · rw [seatings_eq h, List.map_map]
    exact c.shared.lobby.assignments.nodup
  · refine Bool.eq_false_iff.2 fun htouched => ?_
    have hwritten := mayHaveWritten_of_touched h k hk htouched
    rw [hfailed] at hwritten
    cases hwritten

/-! ## Two runs -/

/-- A call goes on this many times, with nothing from outside. -/
def watchOn (i times : Nat) : List (Service.Move NotedCall Outside) :=
  List.replicate times (.go i {})

/-- A call comes in, and goes on this many times. -/
def watchCall (i : Nat) (call : Call) (times : Nat) : List (Service.Move NotedCall Outside) :=
  .call { call } :: watchOn i times

/-- The game server deals the game that the call at this position has asked for. -/
def gameDealt (i : Nat) : Service.Move NotedCall Outside :=
  .go i { game := some ⟨"g", "ws"⟩ }

/-- Two players sit down and start a game. -/
theorem lobby_apart_twoStart : ∃ c, notedService.Run DecidedInTime c ∧
    c.shared.seatings = [("A", "g"), ("B", "g")] ∧ c.shared.Apart c.calls := by
  let script := watchCall 0 (.ready ⟨"A", "A"⟩) 5 ++ watchCall 1 (.ready ⟨"B", "B"⟩) 5 ++
    watchCall 2 (.startGame "A") 6 ++ gameDealt 2 :: watchOn 2 2
  have hplay : ((notedService.play DecidedInTime script).map fun c =>
      (c.calls.all (·.call.isEnded), c.shared.seatings)) =
        some (true, [("A", "g"), ("B", "g")]) := by decide
  obtain ⟨c, hc, heq⟩ := Option.map_eq_some_iff.1 hplay
  obtain ⟨hquiet, hseated⟩ := Prod.mk.inj heq
  exact ⟨c, .of_play hc, hseated, lobby_apart (.of_play hc) (List.all_eq_true.1 hquiet)⟩

/-- Two of an account's requests to be ready overlap. The first has found the account in no game,
and sits it down when the second has had it seated. -/
def readyTwice : List (Service.Move NotedCall Outside) :=
  watchCall 0 (.ready ⟨"A", "A"⟩) 1 ++ watchCall 1 (.ready ⟨"A", "A"⟩) 5 ++
    watchCall 2 (.ready ⟨"B", "B"⟩) 5 ++ watchCall 3 (.startGame "A") 6 ++ gameDealt 3 ::
    (watchOn 3 2 ++ watchOn 0 4)

/-- A player steps out, and is answered, while the game server deals the game. -/
def outInTime : List (Service.Move NotedCall Outside) :=
  watchCall 0 (.ready ⟨"A", "A"⟩) 5 ++ watchCall 1 (.ready ⟨"B", "B"⟩) 5 ++
    watchCall 2 (.startGame "A") 6 ++ watchCall 3 (.unready ⟨"B", "B"⟩) 2 ++ gameDealt 2 ::
    watchOn 2 2

/-- The first player is ready and in a game, and the second in a game that it has stepped out of. -/
theorem not_apart_staleReads :
    (∃ c, notedService.Run (fun _ _ _ _ => True) c ∧ (∀ k ∈ c.calls, k.call.isEnded = true) ∧
      c.shared.lobby.isReady "A" = true ∧ c.shared.lobby.isAssigned "A" = true) ∧
    ∃ c, notedService.Run (fun _ _ _ _ => True) c ∧ (∀ k ∈ c.calls, k.call.isEnded = true) ∧
      c.shared.wronged = ["B"] ∧ c.shared.lobby.isAssigned "B" = true := by
  constructor
  · have hplay : ((notedService.play (fun _ _ _ _ => True) readyTwice).map fun c =>
        (c.calls.all (·.call.isEnded), c.shared.lobby.isReady "A",
          c.shared.lobby.isAssigned "A")) = some (true, true, true) := by decide
    obtain ⟨c, hc, heq⟩ := Option.map_eq_some_iff.1 hplay
    obtain ⟨hquiet, hrest⟩ := Prod.mk.inj heq
    obtain ⟨hready, hassigned⟩ := Prod.mk.inj hrest
    exact ⟨c, .of_play hc, List.all_eq_true.1 hquiet, hready, hassigned⟩
  · have hplay : ((notedService.play (fun _ _ _ _ => True) outInTime).map fun c =>
        (c.calls.all (·.call.isEnded), c.shared.wronged, c.shared.lobby.isAssigned "B")) =
          some (true, ["B"], true) := by decide
    obtain ⟨c, hc, heq⟩ := Option.map_eq_some_iff.1 hplay
    obtain ⟨hquiet, hrest⟩ := Prod.mk.inj heq
    obtain ⟨hwronged, hassigned⟩ := Prod.mk.inj hrest
    exact ⟨c, .of_play hc, List.all_eq_true.1 hquiet, hwronged, hassigned⟩

end HereToSlaughter
