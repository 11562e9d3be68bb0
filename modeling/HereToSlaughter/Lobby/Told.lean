import HereToSlaughter.Lobby.EventStream
import HereToSlaughter.Lobby.Seating

/-!
# Who is told of a game

A connection is added before its initial state is loaded, an assignment is stored before it is
published, and no game is started before the last one's players have been told. So what a connection
has been told, is about to be told and has still to load ends with the game its account sits in.

Reference: `lobby/lobby-event-stream.service.ts`, `lobby/lobby.service.ts`.
-/

namespace HereToSlaughter

open Lib

/-! ## What a connection is told -/

/-- Where the game is that an event tells of. -/
def LobbySseEvent.address : LobbySseEvent → Option (String × String)
  | .gameAssigned gameId webSocketUrl => some (gameId, webSocketUrl)
  | .lobbyUpdated _ => none

/-- Where the game of an assignment is. -/
def GameAssignment.address (assignment : GameAssignment) : String × String :=
  (assignment.gameId, assignment.webSocketUrl)

/-- What a delivery tells: `none` stands for a state that is still to be loaded. -/
def Delivery.tells : Delivery → List (Option (String × String))
  | .load => [none]
  | .send events => (events.filterMap LobbySseEvent.address).map some

namespace LobbyConnection

/-- The addresses that have been sent. -/
def told (connection : LobbyConnection) : List (String × String) :=
  connection.received.filterMap LobbySseEvent.address

/-- What has been told and what the chain will tell. -/
def tellings (connection : LobbyConnection) : List (Option (String × String)) :=
  connection.told.map some ++ connection.delivery.flatMap fun delivery => delivery.2.tells

/-- The last of it is this game, or the state that is still to be loaded. -/
def UpToDate (connection : LobbyConnection) (assignment : GameAssignment) : Prop :=
  ∃ telling, connection.tellings.getLast? = some telling ∧
    ∀ address ∈ telling, address = assignment.address

/-- What is sent first is the state of the lobby. -/
def WellBegun (connection : LobbyConnection) : Prop :=
  match connection.received with
  | event :: _ => ∃ snapshot, event = .lobbyUpdated snapshot
  | [] => connection.closed = true ∨ ∃ ticket delivery rest,
      connection.delivery = (ticket, delivery) :: rest ∧
        (delivery = .load ∨ ∃ snapshot events, delivery = .send (.lobbyUpdated snapshot :: events))

variable {connection : LobbyConnection} {l : Lobby}

/-- A connection with nothing left to run has been told all of it. -/
theorem tellings_of_delivered (h : connection.delivery = []) :
    connection.tellings = connection.told.map some := by
  rw [tellings, h, List.flatMap_nil, List.append_nil]

/-- What the initial state tells. -/
theorem address_initialEvents (account : LobbyPlayer) (l : Lobby) :
    (l.initialEvents account).filterMap LobbySseEvent.address =
      ((l.assignments.get? account.accountId).map GameAssignment.address).toList := by
  rw [Lobby.initialEvents]
  cases l.assignments.get? account.accountId <;> rfl

/-- A chain that moves on tells what it told; the state it loads tells where the account sits. -/
theorem tellings_deliver (hopen : connection.closed = false) :
    (connection.deliver l).tellings = connection.tellings ∨
    ∃ before after, connection.tellings = before ++ none :: after ∧
      (connection.deliver l).tellings = before ++
        ((l.assignments.get? connection.account.accountId).map GameAssignment.address).toList.map
          some ++ after := by
  unfold deliver
  split
  · exact .inl rfl
  next ticket rest hchain =>
    refine .inr ⟨connection.told.map some, rest.flatMap fun delivery => delivery.2.tells, ?_, ?_⟩
    · simp only [tellings, hchain, List.flatMap_cons, Delivery.tells, List.singleton_append]
    · simp only [tellings, told, hopen, List.flatMap_cons, Delivery.tells, address_initialEvents,
        Bool.false_eq_true, if_false, List.append_assoc]
  next ticket events rest hchain =>
    refine .inl ?_
    simp only [tellings, told, hopen, hchain, List.flatMap_cons, Delivery.tells, Bool.false_eq_true,
      if_false, List.filterMap_append, List.map_append, List.append_assoc]

/-- What is put at the end of a chain is told last. -/
theorem tellings_enqueue (connection : LobbyConnection) (ticket : Nat)
    (events : List LobbySseEvent) :
    tellings { connection with
      delivery := connection.delivery ++ events.map fun event => (ticket, .send [event]) } =
      connection.tellings ++ (events.filterMap LobbySseEvent.address).map some := by
  have htells : ∀ events : List LobbySseEvent,
      (events.map fun event => (ticket, Delivery.send [event])).flatMap (fun d => d.2.tells) =
        (events.filterMap LobbySseEvent.address).map some := by
    intro events
    induction events with
    | nil => rfl
    | cons event events ih =>
      rw [List.map_cons, List.flatMap_cons, ih]
      cases event <;> rfl
  simp only [tellings, told, List.flatMap_append, htells, List.append_assoc]

/-- Loading the state brings a connection up to date. -/
theorem UpToDate.deliver {assignment : GameAssignment} (h : connection.UpToDate assignment)
    (hopen : connection.closed = false)
    (hsits : l.assignments.get? connection.account.accountId = some assignment) :
    (connection.deliver l).UpToDate assignment := by
  obtain heq | ⟨before, after, hbefore, hafter⟩ := tellings_deliver (l := l) hopen
  · rw [UpToDate, heq]
    exact h
  · obtain ⟨telling, hlast, haddress⟩ := h
    rw [hsits] at hafter
    cases after with
    | nil => exact ⟨_, by rw [hafter]; simp; rfl, by simp⟩
    | cons next after =>
      rw [hbefore] at hlast
      refine ⟨telling, ?_, haddress⟩
      rw [hafter]
      simpa using hlast

/-- What is told as a chain moves on was to be told before, or is where the account sits. -/
theorem mem_tellings_deliver {address : String × String}
    (h : some address ∈ (connection.deliver l).tellings) :
    some address ∈ connection.tellings ∨
      (l.assignments.get? connection.account.accountId).map GameAssignment.address =
      some address := by
  cases hclosed : connection.closed with
  | false =>
    obtain heq | ⟨before, after, hbefore, hafter⟩ := tellings_deliver (l := l) hclosed
    · exact .inl (heq ▸ h)
    · rw [hafter] at h
      rw [hbefore]
      simp at h ⊢
      tauto
  | true =>
    refine .inl ?_
    unfold deliver at h
    split at h
    · exact h
    next hchain =>
      simp only [tellings, told, hclosed, if_true] at h
      simp only [tellings, told, hchain, List.flatMap_cons, List.mem_append] at h ⊢
      tauto
    next hchain =>
      simp only [tellings, told, hclosed, if_true] at h
      simp only [tellings, told, hchain, List.flatMap_cons, List.mem_append] at h ⊢
      tauto

/-- A chain that moves on sends the state first. -/
theorem WellBegun.deliver (h : connection.WellBegun) : (connection.deliver l).WellBegun := by
  unfold LobbyConnection.deliver
  split
  · exact h
  next ticket rest hchain =>
    unfold WellBegun at h ⊢
    cases hreceived : connection.received with
    | cons event received =>
      rw [hreceived] at h
      exact h
    | nil =>
      cases hclosed : connection.closed with
      | true => exact .inl rfl
      | false => exact .inr ⟨ticket, _, rest, rfl, .inr ⟨_, _, rfl⟩⟩
  next ticket events rest hchain =>
    unfold WellBegun at h ⊢
    cases hreceived : connection.received with
    | cons event received =>
      rw [hreceived] at h
      cases connection.closed with
      | true => exact h
      | false => exact h
    | nil =>
      rw [hreceived] at h
      cases hclosed : connection.closed with
      | true => exact .inl rfl
      | false =>
        obtain hopen | ⟨_, _, _, heq, hfirst⟩ := h
        · exact absurd (hclosed.symm.trans hopen) Bool.false_ne_true
        · rw [hchain] at heq
          cases heq
          obtain hload | ⟨snapshot, others, hsend⟩ := hfirst
          · cases hload
          · cases hsend
            exact ⟨snapshot, rfl⟩

/-- A chain to which something is added still sends the state first. -/
theorem WellBegun.append (h : connection.WellBegun) (chain : List (Nat × Delivery)) :
    WellBegun { connection with delivery := connection.delivery ++ chain } := by
  unfold WellBegun at h ⊢
  cases hreceived : connection.received with
  | cons event received =>
    rw [hreceived] at h
    exact h
  | nil =>
    rw [hreceived] at h
    obtain hclosed | ⟨ticket, delivery, rest, heq, hfirst⟩ := h
    · exact .inl hclosed
    · exact .inr ⟨ticket, delivery, rest ++ chain, by rw [heq]; rfl, hfirst⟩

/-- A connection that closes began as it began. -/
theorem WellBegun.close (h : connection.WellBegun) :
    WellBegun { connection with closed := true } := by
  unfold WellBegun at h ⊢
  cases hreceived : connection.received with
  | cons event received =>
    rw [hreceived] at h
    exact h
  | nil => exact .inl rfl

end LobbyConnection

/-! ## The flag -/

/-- The call holds the flag that keeps other starts out. -/
def Call.holdsFlag : Call → Bool
  | .startListed .. | .startCounted .. | .startPlayers _ | .startLookedUp .. | .startSettled ..
  | .startRequested .. | .startAssigned _ | .startFreed | .startThrown _ => true
  | _ => false

/-- Who takes the flag has found it free, and who lets go of it has held it. -/
theorem Call.holdsFlag_resume (call : Call) (outside : Outside) (l : Lobby)
    (hheld : call.holdsFlag = true → l.gameStartInProgress = true) :
    (call.resume outside l).1.holdsFlag.toNat + l.gameStartInProgress.toNat =
      call.holdsFlag.toNat + (call.resume outside l).2.gameStartInProgress.toNat := by
  cases call with
  | ready | unready | updateSettings | settingsWritten | startPlayers | startSettled | startAssigned
  | completeGame | answering | ended => rfl
  | readyChecked | readyListed | settingsListed | startListed | startCounted =>
    simp only [resume, resumeReady, resumeSettings, resumeStart]
    split <;> rfl
  | readyCounted account readyPlayers playerCount =>
    simp only [resume, resumeReady, Lobby.addReadyPlayer]
    split
    · rfl
    · split_ifs <;> rfl
  | startGame hostAccountId =>
    simp only [resume, resumeStart]
    cases hflag : l.gameStartInProgress with
    | true => simp [hflag, holdsFlag]
    | false => simp [holdsFlag]
  | startLookedUp players existing =>
    simp only [resume, resumeStart]
    split
    · simp [hheld rfl, holdsFlag]
    · rfl
  | startRequested players settings =>
    simp only [resume, resumeStart]
    split
    · simp [hheld rfl, holdsFlag]
    · split
      · rfl
      next hassign =>
        obtain ⟨-, rfl⟩ := Lobby.assign_eq_ok hassign
        rfl
  | startFreed | startThrown => simp [resume, resumeStart, hheld rfl, holdsFlag]

/-! ## What is owed -/

/-- The assignments a publication tells of. -/
def Publication.tells : Publication → List GameAssignment
  | .gameAssigned assignments => assignments
  | _ => []

namespace StreamCall

/-- The group the call has assigned and not told. -/
def owed : StreamCall → List GameAssignment
  | .lobby (.startAssigned _) _ newAssignments => newAssignments
  | .lobby _ due _ => due.flatMap Publication.tells
  | _ => []

/-- The call holds the flag. -/
def holdsFlag : StreamCall → Bool
  | .lobby call _ _ => call.holdsFlag
  | _ => false

/-- A call has something to tell only from the assignment of its group until that is published. -/
def InStep : StreamCall → Prop
  | .lobby (.startAssigned _) due _ => due = []
  | .lobby .startFreed _ _ => True
  | .lobby (.ended _) due _ => due.flatMap Publication.tells = []
  | .lobby _ due newAssignments => newAssignments = [] ∧ due.flatMap Publication.tells = []
  | _ => True

/-- Who has something to tell keeps other starts out. -/
theorem InStep.holdsFlag {k : StreamCall} (h : k.InStep) (howed : k.owed ≠ []) :
    k.holdsFlag = true := by
  cases k with
  | lobby call due newAssignments =>
    cases call with
    | startAssigned | startFreed => rfl
    | ended => exact absurd h howed
    | _ => exact absurd h.2 howed
  | _ => exact absurd rfl howed

end StreamCall

/-! ## Connections that know -/

/-- What is true of a connection: what it is sent begins with the state of the lobby, it is told
only of games its account has been put in, and an open one ends with the game its account sits in
unless that is still owed. -/
structure LobbyConnection.Informed (l : Lobby) (everAssigned owed : List GameAssignment)
    (connection : LobbyConnection) : Prop where
  begun : connection.WellBegun
  told : ∀ address, some address ∈ connection.tellings → ∃ assignment ∈ everAssigned,
    assignment.accountId = connection.account.accountId ∧ assignment.address = address
  upToDate : connection.closed = false → ∀ assignment,
    l.assignments.get? connection.account.accountId = some assignment →
      assignment ∈ owed ∨ connection.UpToDate assignment

/-- Whatever is assigned has been noted, under its account. -/
def Lobby.Logged (l : Lobby) (everAssigned : List GameAssignment) : Prop :=
  ∀ accountId assignment, l.assignments.get? accountId = some assignment →
    assignment.accountId = accountId ∧ assignment ∈ everAssigned

namespace LobbyConnection.Informed

variable {l l' : Lobby} {everAssigned everAssigned' owed owed' : List GameAssignment}
  {connection : LobbyConnection}

/-- The lobby goes on: what is assigned now was assigned before, or is owed. -/
theorem mono (h : connection.Informed l everAssigned owed)
    (hever : ∀ assignment ∈ everAssigned, assignment ∈ everAssigned')
    (howed : ∀ assignment ∈ owed, assignment ∈ owed')
    (hassigned : ∀ accountId assignment, l'.assignments.get? accountId = some assignment →
      l.assignments.get? accountId = some assignment ∨ assignment ∈ owed') :
    connection.Informed l' everAssigned' owed' := by
  refine ⟨h.begun, fun address haddress => ?_, fun hopen assignment hsits => ?_⟩
  · obtain ⟨assignment, hmem, hsame⟩ := h.told address haddress
    exact ⟨assignment, hever _ hmem, hsame⟩
  · obtain hbefore | howes := hassigned _ _ hsits
    · exact (h.upToDate hopen assignment hbefore).imp_left (howed _)
    · exact .inl howes

/-- What is delivered is what the subscription was owed. -/
theorem deliver (h : connection.Informed l everAssigned owed) (hlogged : l.Logged everAssigned) :
    (connection.deliver l).Informed l everAssigned owed := by
  have haccount : (connection.deliver l).account = connection.account := by
    unfold LobbyConnection.deliver
    split <;> rfl
  have hclosed : (connection.deliver l).closed = connection.closed := by
    unfold LobbyConnection.deliver
    split <;> rfl
  refine ⟨h.begun.deliver, fun address haddress => ?_, fun hopen assignment hsits => ?_⟩
  · rw [haccount]
    obtain hbefore | hsits := mem_tellings_deliver haddress
    · exact h.told address hbefore
    · obtain ⟨assignment, hassigned, rfl⟩ := Option.map_eq_some_iff.1 hsits
      obtain ⟨hid, hmem⟩ := hlogged _ _ hassigned
      exact ⟨assignment, hmem, hid, rfl⟩
  · rw [haccount] at hsits
    rw [hclosed] at hopen
    exact (h.upToDate hopen assignment hsits).imp_right fun hdate => hdate.deliver hopen hsits

/-- A connection that closes is owed nothing more. -/
theorem close (h : connection.Informed l everAssigned owed) :
    Informed l everAssigned owed { connection with closed := true } :=
  ⟨h.begun.close, h.told, fun hopen => absurd hopen.symm Bool.false_ne_true⟩

/-- Nor is one that has closed. -/
theorem of_closed (h : connection.Informed l everAssigned owed)
    (hclosed : connection.closed = true) :
    connection.Informed l everAssigned owed' :=
  ⟨h.begun, h.told, fun hopen => absurd (hopen.symm.trans hclosed) Bool.false_ne_true⟩

/-- A connection that has just been opened. -/
theorem fresh (id inSet ticket : Nat) (account : LobbyPlayer) :
    Informed l everAssigned owed
      { id := id, inSet := inSet, account := account, delivery := [(ticket, .load)] } :=
  ⟨.inr ⟨ticket, .load, [], rfl, .inl rfl⟩, fun address haddress => by
    simp [tellings, LobbyConnection.told, Delivery.tells] at haddress,
    fun _ _ _ => .inr ⟨none, rfl, fun _ h => (nomatch h)⟩⟩

/-- More is put at the end of the chain, which tells of no game. -/
theorem enqueue (h : connection.Informed l everAssigned owed) {ticket : Nat}
    {events : List LobbySseEvent} (hquiet : events.filterMap LobbySseEvent.address = []) :
    Informed l everAssigned owed { connection with
      delivery := connection.delivery ++ events.map fun event => (ticket, .send [event]) } := by
  have htellings := connection.tellings_enqueue ticket events
  rw [hquiet, List.map_nil, List.append_nil] at htellings
  refine ⟨h.begun.append _, fun address haddress => h.told address (htellings ▸ haddress),
    fun hopen assignment hsits => ?_⟩
  rw [UpToDate, htellings]
  exact h.upToDate hopen assignment hsits

/-- What is owed to the accounts of a group is told them. -/
theorem tell (h : connection.Informed l everAssigned owed) {batch : List GameAssignment}
    {ticket : Nat}
    (hlogged : l.Logged everAssigned)
    (hever : ∀ assignment ∈ batch, assignment ∈ everAssigned)
    (hcurrent : ∀ assignment ∈ batch, ∀ other,
    l.assignments.get? assignment.accountId = some other →
      other = assignment)
    (howed : ∀ assignment ∈ owed, assignment ∈ batch ∨ assignment ∈ owed') :
    Informed l everAssigned owed' { connection with
      delivery := connection.delivery ++ ((batch.filter fun assignment =>
        assignment.accountId = connection.account.accountId).map fun assignment =>
          LobbySseEvent.gameAssigned assignment.gameId assignment.webSocketUrl).map fun event =>
            (ticket, .send [event]) } := by
  have htellings := connection.tellings_enqueue ticket ((batch.filter fun assignment =>
    assignment.accountId = connection.account.accountId).map fun assignment =>
      LobbySseEvent.gameAssigned assignment.gameId assignment.webSocketUrl)
  rw [List.filterMap_map, show (LobbySseEvent.address ∘ fun assignment : GameAssignment =>
    LobbySseEvent.gameAssigned assignment.gameId assignment.webSocketUrl) =
      some ∘ GameAssignment.address from rfl, List.filterMap_eq_map] at htellings
  refine ⟨h.begun.append _, fun address haddress => ?_, fun hopen assignment hsits => ?_⟩
  · rw [htellings] at haddress
    rcases List.mem_append.1 haddress with hbefore | htold
    · exact h.told address hbefore
    · simp only [List.mem_map, List.mem_filter, Option.some.injEq, exists_eq_right] at htold
      obtain ⟨assignment, ⟨hmem, hid⟩, rfl⟩ := htold
      exact ⟨assignment, hever _ hmem, of_decide_eq_true hid, rfl⟩
  · rw [UpToDate, htellings]
    cases hlast : (batch.filter fun assignment =>
        assignment.accountId = connection.account.accountId).getLast? with
    | none =>
      rw [List.getLast?_eq_none_iff] at hlast
      rw [hlast, List.map_nil, List.map_nil, List.append_nil]
      refine (h.upToDate hopen assignment hsits).imp_left fun howes => ?_
      refine (howed _ howes).resolve_left fun hmem => ?_
      have hin := List.filter_eq_nil_iff.1 hlast assignment hmem
      exact hin (decide_eq_true (hlogged _ _ hsits).1)
    | some last =>
      obtain ⟨hmem, hid⟩ := List.mem_filter.1 (List.mem_of_getLast? hlast)
      have hid : last.accountId = connection.account.accountId := of_decide_eq_true hid
      obtain rfl := hcurrent last hmem assignment (hid ▸ hsits)
      refine .inr ⟨some assignment.address, ?_, fun _ h => (Option.mem_some_iff.1 h).symm⟩
      rw [List.getLast?_append, List.getLast?_map, List.getLast?_map, hlast]
      rfl

end LobbyConnection.Informed

/-! ## One go of a call of the lobby -/

/-- The call is between the assignment of its group and letting go of the flag. -/
def Call.hasAssigned : Call → Bool
  | .startAssigned _ | .startFreed => true
  | _ => false

/-- Only a start assigns anybody. -/
theorem Call.newlyAssigned_eq_nil {call : Call} {outside : Outside} {after : Call}
    (hcall : ¬ ∃ players settings, call = .startRequested players settings) :
    call.newlyAssigned outside after = [] := by
  cases call with
  | startRequested players settings => exact absurd ⟨players, settings, rfl⟩ hcall
  | _ => rfl

/-- Only who has just been answered by the game server assigns, and goes on from there. -/
theorem Call.hasAssigned_resume {call : Call} (outside : Outside) (l : Lobby)
    (h : (call.resume outside l).1.hasAssigned = true) :
    call.hasAssigned = true ∨ ∃ players settings, call = .startRequested players settings := by
  cases call with
  | startRequested players settings => exact .inr ⟨players, settings, rfl⟩
  | startAssigned | startFreed => exact .inl rfl
  | ready | unready | updateSettings | settingsWritten | startPlayers | startSettled
  | completeGame | answering | ended | startThrown => cases h
  | readyChecked | readyListed | settingsListed | startListed | startCounted | startGame
  | startLookedUp =>
    simp only [resume, resumeReady, resumeSettings, resumeStart] at h
    split at h <;> cases h
  | readyCounted account readyPlayers playerCount =>
    simp only [resume, resumeReady] at h
    split at h
    · cases h
    · split at h <;> cases h

/-- A go puts a group in a game, or nobody. -/
theorem Call.assigned_resume (call : Call) (outside : Outside) (l : Lobby) :
    (call.newlyAssigned outside (call.resume outside l).1 = [] ∧
      ((call.resume outside l).1.hasAssigned = true → call.hasAssigned = true) ∧
      ∀ accountId assignment, (call.resume outside l).2.assignments.get? accountId =
      some assignment →
        l.assignments.get? accountId = some assignment) ∨
    (∃ players settings, call = .startRequested players settings ∧
      (call.resume outside l).1 = .startAssigned (players.map LobbyPlayer.accountId) ∧
      l.assign (call.newlyAssigned outside (call.resume outside l).1) =
        .ok (call.resume outside l).2) := by
  by_cases hcall : ∃ players settings, call = .startRequested players settings
  · obtain ⟨players, settings, rfl⟩ := hcall
    simp only [resume, resumeStart]
    split
    next hgame => exact .inl ⟨rfl, fun h => absurd h Bool.false_ne_true, fun _ _ h => h⟩
    next game hgame =>
      split
      · exact .inl ⟨rfl, fun h => absurd h Bool.false_ne_true, fun _ _ h => h⟩
      next l' hassign =>
        refine .inr ⟨players, settings, rfl, rfl, ?_⟩
        simpa [newlyAssigned, hgame] using hassign
  · refine .inl ⟨newlyAssigned_eq_nil hcall,
      fun hassigned => (hasAssigned_resume outside l hassigned).resolve_right hcall, ?_⟩
    have hgoes := call.goes outside l
    generalize call.resume outside l = after at hgoes
    cases hgoes with
    | assigns => exact absurd ⟨_, _, rfl⟩ hcall
    | completes =>
      intro accountId assignment hsits
      rw [OrderedMap.get?_eq_some] at hsits ⊢
      exact List.mem_of_mem_filter hsits
    | reads | readies | unreadies | writes | frees => exact fun _ _ hsits => hsits

/-- Only the call that has assigned a group publishes that. -/
theorem Call.tells_publications {call : Call} (hcall : call.hasAssigned = false) (after : Call)
    (l : Lobby) (newAssignments : List GameAssignment) :
    (call.publications after l newAssignments).flatMap Publication.tells = [] := by
  cases call with
  | startAssigned => cases hcall
  | readyCounted =>
    cases after <;> rfl
  | unready | completeGame =>
    simp only [publications]
    split <;> rfl
  | _ => rfl

namespace StreamCall

/-- A call that has assigned nobody has nothing to tell. -/
theorem quiet {call : Call} {due : List Publication} (hcall : call.hasAssigned = false)
    (hdue : due.flatMap Publication.tells = []) :
    InStep (.lobby call due []) ∧ ∀ newAssignments, owed (.lobby call due newAssignments) = [] := by
  cases call with
  | startAssigned | startFreed => cases hcall
  | ended => exact ⟨hdue, fun _ => hdue⟩
  | _ => exact ⟨⟨rfl, hdue⟩, fun _ => hdue⟩

/-- A call of the lobby goes on in the stream as it does in the lobby, and publishes what follows.
-/
theorem resume_lobby (call : Call) (newAssignments : List GameAssignment) (outside : Outside)
    (s : Streams) : resume (.lobby call [] newAssignments) outside s =
      (.lobby (call.resume outside s.lobby).1
        (call.publications (call.resume outside s.lobby).1 s.lobby newAssignments)
        (newAssignments ++ call.newlyAssigned outside (call.resume outside s.lobby).1),
      { s with
        lobby := (call.resume outside s.lobby).2
        everAssigned := s.everAssigned ++
          call.newlyAssigned outside (call.resume outside s.lobby).1 }) := rfl

/-- A call that goes on owes what it owed, and the group it has just assigned. -/
theorem owed_lobby {call : Call} {newAssignments : List GameAssignment} (outside : Outside)
    (s : Streams) (h : InStep (.lobby call [] newAssignments)) :
    (resume (.lobby call [] newAssignments) outside s).1.InStep ∧
    (resume (.lobby call [] newAssignments) outside s).1.owed =
      owed (.lobby call [] newAssignments) ++
        call.newlyAssigned outside (call.resume outside s.lobby).1 := by
  by_cases hcall : call.hasAssigned = true
  · cases call with
    | startAssigned accountIds =>
      exact ⟨trivial, by simp [resume, owed, Call.resume, Call.resumeStart, Call.publications,
        Publication.tells, Call.newlyAssigned]⟩
    | startFreed => exact ⟨rfl, rfl⟩
    | _ => cases hcall
  · have hcall := Bool.eq_false_iff.2 hcall
    have htells :=
      Call.tells_publications hcall (call.resume outside s.lobby).1 s.lobby newAssignments
    rw [show owed (.lobby call [] newAssignments) = [] from (quiet hcall rfl).2 newAssignments,
      List.nil_append]
    rw [resume_lobby]
    obtain ⟨hnobody, hassigned, -⟩ | ⟨players, settings, rfl, heq, -⟩ :=
      call.assigned_resume outside s.lobby
    · have hafter : (call.resume outside s.lobby).1.hasAssigned = false :=
        Bool.eq_false_iff.2 fun h => Bool.eq_false_iff.1 hcall (hassigned h)
      rw [hnobody, List.append_nil]
      refine ⟨?_, (quiet hafter htells).2 _⟩
      cases call with
      | ended error => exact htells
      | startAssigned | startFreed => cases hcall
      | _ =>
        obtain ⟨rfl, -⟩ := h
        exact (quiet hafter htells).1
    · obtain ⟨rfl, -⟩ := h
      rw [heq]
      exact ⟨rfl, rfl⟩

end StreamCall

/-! ## Every go -/

/-- What every run keeps: one start at a time has the flag; what it owes is what its group sits in;
and every connection is informed. -/
structure Streams.Told (s : Streams) (calls : List StreamCall) : Prop where
  inStep : ∀ k ∈ calls, k.InStep
  flag : calls.countP StreamCall.holdsFlag = s.lobby.gameStartInProgress.toNat
  logged : s.lobby.Logged s.everAssigned
  owed : ∀ k ∈ calls, ∀ assignment ∈ k.owed, assignment ∈ s.everAssigned ∧
    ∀ other, s.lobby.assignments.get? assignment.accountId = some other → other = assignment
  informed : ∀ connection ∈ s.connections,
    connection.Informed s.lobby s.everAssigned (calls.flatMap StreamCall.owed)

/-- A count, one call at a time. -/
theorem countP_cons_toNat (p : StreamCall → Bool) (k : StreamCall) (calls : List StreamCall) :
    (k :: calls).countP p = (p k).toNat + calls.countP p := by
  cases hk : p k with
  | true => rw [List.countP_cons_of_pos hk, Nat.add_comm]; rfl
  | false => rw [List.countP_cons_of_neg (Bool.eq_false_iff.1 hk), Bool.toNat_false, Nat.zero_add]

namespace Streams.Told

variable {s s' : Streams} {before after : List StreamCall} {k k' : StreamCall} {outside : Outside}

/-- Who holds the flag holds it alone. -/
theorem alone (h : s.Told (before ++ k :: after)) (hk : k.holdsFlag = true) :
    s.lobby.gameStartInProgress = true ∧ ∀ other ∈ before ++ after, other.holdsFlag = false := by
  have hflag := h.flag
  rw [List.countP_append, List.countP_cons_of_pos hk] at hflag
  cases hset : s.lobby.gameStartInProgress with
  | false =>
    rw [hset] at hflag
    cases hflag
  | true =>
    rw [hset] at hflag
    have hnone : (before ++ after).countP StreamCall.holdsFlag = 0 := by
      rw [List.countP_append]
      have : (true).toNat = 1 := rfl
      omega
    exact ⟨rfl, fun other hother => Bool.eq_false_iff.2 (List.countP_eq_zero.1 hnone other hother)⟩

/-- A go that leaves the lobby alone and owes nothing new. -/
theorem congr (h : s.Told (before ++ k :: after)) (hlobby : s'.lobby = s.lobby)
    (hever : s'.everAssigned = s.everAssigned) (hstep : k'.InStep)
    (hflag : k'.holdsFlag = k.holdsFlag)
    (howed : ∀ assignment ∈ k'.owed, assignment ∈ k.owed)
    (hinformed : ∀ connection ∈ s'.connections, connection.Informed s.lobby s.everAssigned
      ((before ++ k' :: after).flatMap StreamCall.owed)) : s'.Told (before ++ k' :: after) := by
  refine ⟨fun other hother => ?_, ?_, ?_, fun other hother => ?_, ?_⟩
  · rcases List.mem_append.1 hother with hother | hother
    · exact h.inStep other (List.mem_append_left _ hother)
    · rcases List.mem_cons.1 hother with rfl | hother
      · exact hstep
      · exact h.inStep other (List.mem_append_right _ (List.mem_cons_of_mem _ hother))
  · have hcount := h.flag
    rw [hlobby, ← hcount]
    simp only [List.countP_append, List.countP_cons, hflag]
  · rw [hlobby, hever]
    exact h.logged
  · rw [hlobby, hever]
    rcases List.mem_append.1 hother with hother | hother
    · exact h.owed other (List.mem_append_left _ hother)
    · rcases List.mem_cons.1 hother with rfl | hother
      · exact fun assignment howes =>
          h.owed k (List.mem_append_right _ List.mem_cons_self) assignment (howed assignment howes)
      · exact h.owed other (List.mem_append_right _ (List.mem_cons_of_mem _ hother))
  · rw [hlobby, hever]
    exact hinformed

/-- A call that owes what it owed changes nothing of what is owed. -/
theorem owed_same (before after : List StreamCall) (howed : k'.owed = k.owed) :
    (before ++ k' :: after).flatMap StreamCall.owed =
      (before ++ k :: after).flatMap StreamCall.owed := by
  simp only [List.flatMap_append, List.flatMap_cons, howed]

/-- A browser opens a connection. -/
theorem addConnection {account : LobbyPlayer} (h : s.Told (before ++ .events account :: after)) :
    (s.addConnection account).Told (before ++ .connection s.nextId :: after) := by
  refine h.congr rfl rfl trivial rfl
    (fun _ howes => (nomatch howes)) fun connection hconnection => ?_
  rw [owed_same before after (show StreamCall.owed (.connection s.nextId) =
    StreamCall.owed (.events account) from rfl)]
  rcases List.mem_append.1 hconnection with hconnection | hconnection
  · exact h.informed connection hconnection
  · rw [List.mem_singleton.1 hconnection]
    exact .fresh ..

/-- A browser's connection is changed in a way that keeps it informed. -/
theorem modifyConnection (h : s.Told (before ++ k :: after)) (hstep : k'.InStep)
    (hflag : k'.holdsFlag = k.holdsFlag) (howed : k'.owed = k.owed) {id : Nat}
    {f : LobbyConnection → LobbyConnection}
    (hf : ∀ connection, connection.Informed s.lobby s.everAssigned
      ((before ++ k :: after).flatMap StreamCall.owed) →
      (f connection).Informed s.lobby s.everAssigned
      ((before ++ k :: after).flatMap StreamCall.owed)) :
    (s.modifyConnection id f).Told (before ++ k' :: after) := by
  refine h.congr rfl rfl hstep hflag (fun _ howes => howed ▸ howes) fun connection hconnection => ?_
  rw [owed_same before after howed]
  obtain ⟨old, hold, rfl⟩ := List.mem_map.1 hconnection
  split
  · exact hf old (h.informed old hold)
  · exact h.informed old hold

/-- A publication that tells of no game. -/
theorem enqueue (h : s.Told (before ++ k :: after)) (hstep : k'.InStep)
    (hflag : k'.holdsFlag = k.holdsFlag) (howed : k'.owed = k.owed) {ticket : Nat}
    {events : LobbyConnection → List LobbySseEvent}
    (hquiet : ∀ connection, (events connection).filterMap LobbySseEvent.address = []) :
    (s.enqueue ticket events).Told (before ++ k' :: after) := by
  refine h.congr rfl rfl hstep hflag (fun _ howes => howed ▸ howes) fun connection hconnection => ?_
  rw [owed_same before after howed]
  obtain ⟨old, hold, rfl⟩ := List.mem_map.1 hconnection
  split
  · exact h.informed old hold
  · exact (h.informed old hold).enqueue (hquiet old)

/-- What a call has left to publish tells of no group but its own. -/
theorem owed_due {call : Call} {publication : Publication} {due : List Publication}
    {newAssignments : List GameAssignment} (rest : List Publication)
    (hstep : StreamCall.InStep (.lobby call (publication :: due) newAssignments))
    (hrest : rest.flatMap Publication.tells = []) :
    StreamCall.InStep (.lobby call (rest ++ due) newAssignments) ∧
      StreamCall.owed (.lobby call (publication :: due) newAssignments) =
        publication.tells ++ StreamCall.owed (.lobby call (rest ++ due) newAssignments) := by
  have htells : (rest ++ due).flatMap Publication.tells = due.flatMap Publication.tells := by
    rw [List.flatMap_append, hrest, List.nil_append]
  cases call with
  | startAssigned => cases hstep
  | startFreed =>
    refine ⟨trivial, ?_⟩
    simp only [StreamCall.owed, htells, List.flatMap_cons]
  | ended =>
    simp only [StreamCall.InStep, StreamCall.owed, htells, List.flatMap_cons, and_true] at hstep ⊢
    exact (List.append_eq_nil_iff.1 hstep).2
  | _ =>
    simp only [StreamCall.InStep, StreamCall.owed, htells, List.flatMap_cons, and_true] at hstep ⊢
    exact ⟨hstep.1, (List.append_eq_nil_iff.1 hstep.2).2⟩

/-- One go of a publication. -/
theorem publish {call : Call} {publication : Publication} {due : List Publication}
    {newAssignments : List GameAssignment}
    (h : s.Told (before ++ .lobby call (publication :: due) newAssignments :: after)) :
    (s.publish publication).2.Told
      (before ++ .lobby call ((s.publish publication).1 ++ due) newAssignments :: after) := by
  have hstep := h.inStep _ (List.mem_append_right _ List.mem_cons_self)
  cases publication with
  | lobbyUpdated =>
    obtain ⟨hstep', howed⟩ := owed_due [.snapshots s.nextId s.readSnapshots] hstep rfl
    exact h.congr rfl rfl hstep' rfl
      (fun _ howes => howed.symm ▸ howes) fun connection hconnection =>
      owed_same before after howed.symm ▸ h.informed connection hconnection
  | snapshots ticket read =>
    cases read with
    | nil =>
      obtain ⟨hstep', howed⟩ := owed_due [.delivering ticket] hstep rfl
      exact h.congr rfl rfl hstep' rfl
        (fun _ howes => howed.symm ▸ howes) fun connection hconnection =>
        owed_same before after howed.symm ▸ h.informed connection hconnection
    | cons first read =>
      obtain ⟨hstep', howed⟩ := owed_due [.snapshots ticket read] hstep rfl
      refine h.enqueue hstep' rfl howed.symm fun connection => ?_
      split <;> rfl
  | delivering ticket =>
    obtain ⟨hstep', howed⟩ := owed_due (s.publish (.delivering ticket)).1 hstep (by
      simp only [Streams.publish]
      split <;> rfl)
    exact h.congr rfl rfl hstep' rfl
      (fun _ howes => howed.symm ▸ howes) fun connection hconnection =>
      owed_same before after howed.symm ▸ h.informed connection hconnection
  | gameAssigned assignments =>
    obtain ⟨hstep', howed⟩ := owed_due [.delivering s.nextId] hstep rfl
    have hbatch := h.owed _ (List.mem_append_right _ List.mem_cons_self)
    rw [howed] at hbatch
    refine h.congr rfl rfl hstep' rfl (fun _ howes => howed.symm ▸ List.mem_append_right _ howes) ?_
    intro connection hconnection
    obtain ⟨old, hold, rfl⟩ := List.mem_map.1 hconnection
    by_cases hclosed : old.closed = true
    · rw [if_pos hclosed]
      exact (h.informed old hold).of_closed hclosed
    · rw [if_neg hclosed]
      refine (h.informed old hold).tell h.logged
        (fun assignment hmem => (hbatch assignment (List.mem_append_left _ hmem)).1)
        (fun assignment hmem => (hbatch assignment (List.mem_append_left _ hmem)).2)
        fun assignment howes => ?_
      simp only [List.flatMap_append, List.flatMap_cons, howed, List.mem_append] at howes ⊢
      simp only [Publication.tells] at howes
      tauto

/-- What is assigned after a go was assigned before it, or has just been assigned; nobody owes
anything when a group is. -/
theorem assigned {call : Call} {newAssignments : List GameAssignment} (outside : Outside)
    (h : s.Told (before ++ .lobby call [] newAssignments :: after)) :
    (∀ accountId assignment,
      (call.resume outside s.lobby).2.assignments.get? accountId = some assignment →
        s.lobby.assignments.get? accountId = some assignment ∨
        assignment.accountId = accountId ∧
          assignment ∈ call.newlyAssigned outside (call.resume outside s.lobby).1) ∧
    ∀ assignment ∈ call.newlyAssigned outside (call.resume outside s.lobby).1,
      (call.resume outside s.lobby).2.assignments.get? assignment.accountId = some assignment ∧
      ∀ k ∈ before ++ .lobby call [] newAssignments :: after, k.owed = [] := by
  obtain ⟨hnobody, -, hbefore⟩ | ⟨players, settings, rfl, -, hassign⟩ :=
    call.assigned_resume outside s.lobby
  · rw [hnobody]
    exact ⟨fun accountId assignment hsits => .inl (hbefore accountId assignment hsits),
      fun _ hmem => (nomatch hmem)⟩
  · have hentries := Lobby.entries_assign hassign
    refine ⟨fun accountId assignment hsits => ?_, fun assignment hmem => ⟨?_, fun k hk => ?_⟩⟩
    · rw [OrderedMap.get?_eq_some, hentries, List.mem_append] at hsits
      rw [OrderedMap.get?_eq_some]
      refine hsits.imp_right fun hnew => ?_
      obtain ⟨_, hmem, heq⟩ := List.mem_map.1 hnew
      cases heq
      exact ⟨rfl, hmem⟩
    · rw [OrderedMap.get?_eq_some, hentries]
      exact List.mem_append_right _ (List.mem_map_of_mem hmem)
    · -- another call that owed something would hold the flag as well
      obtain ⟨-, hothers⟩ := h.alone rfl
      by_contra howes
      rcases List.mem_append.1 hk with hother | hother
      · exact absurd ((h.inStep k hk).holdsFlag howes)
          (Bool.eq_false_iff.1 (hothers k (List.mem_append_left _ hother)))
      · rcases List.mem_cons.1 hother with rfl | hother
        · exact howes (h.inStep _ hk).2
        · exact absurd ((h.inStep k hk).holdsFlag howes)
            (Bool.eq_false_iff.1 (hothers k (List.mem_append_right _ hother)))

/-- One go of a call of the lobby. -/
theorem lobby {call : Call} {newAssignments : List GameAssignment}
    (h : s.Told (before ++ .lobby call [] newAssignments :: after)) :
    (StreamCall.resume (.lobby call [] newAssignments) outside s).2.Told
      (before ++ (StreamCall.resume (.lobby call [] newAssignments) outside s).1 :: after) := by
  have hk : StreamCall.lobby call [] newAssignments ∈
      before ++ .lobby call [] newAssignments :: after := List.mem_append_right _ List.mem_cons_self
  obtain ⟨hstep, howed⟩ := StreamCall.owed_lobby outside s (h.inStep _ hk)
  obtain ⟨hsits, hnew⟩ := h.assigned outside
  rw [StreamCall.resume_lobby] at hstep howed ⊢
  dsimp only at hstep howed ⊢
  -- what was owed is owed still
  have hkept : ∀ k ∈ before ++ .lobby call [] newAssignments :: after, ∀ assignment ∈ k.owed,
      assignment ∈ s.everAssigned ++ call.newlyAssigned outside (call.resume outside s.lobby).1 ∧
      ∀ other, (call.resume outside s.lobby).2.assignments.get? assignment.accountId = some other →
        other = assignment := by
    intro k hk assignment howes
    obtain ⟨hever, hcurrent⟩ := h.owed k hk assignment howes
    refine ⟨List.mem_append_left _ hever, fun other hother => ?_⟩
    obtain hbefore | ⟨-, hmem⟩ := hsits _ _ hother
    · exact hcurrent other hbefore
    · rw [(hnew other hmem).2 k hk] at howes
      cases howes
  refine ⟨fun other hother => ?_, ?_, fun accountId assignment hassigned => ?_,
    fun other hother assignment howes => ?_, fun connection hconnection => ?_⟩
  · rcases List.mem_append.1 hother with hother | hother
    · exact h.inStep other (List.mem_append_left _ hother)
    · rcases List.mem_cons.1 hother with rfl | hother
      · exact hstep
      · exact h.inStep other (List.mem_append_right _ (List.mem_cons_of_mem _ hother))
  · have hcount := h.flag
    have hflag := call.holdsFlag_resume outside s.lobby fun hheld => (h.alone hheld).1
    rw [List.countP_append, countP_cons_toNat] at hcount ⊢
    simp only [StreamCall.holdsFlag] at hcount ⊢
    omega
  · obtain hbefore | ⟨hid, hmem⟩ := hsits accountId assignment hassigned
    · obtain ⟨hid, hever⟩ := h.logged accountId assignment hbefore
      exact ⟨hid, List.mem_append_left _ hever⟩
    · exact ⟨hid, List.mem_append_right _ hmem⟩
  · rcases List.mem_append.1 hother with hother | hother
    · exact hkept other (List.mem_append_left _ hother) assignment howes
    · rcases List.mem_cons.1 hother with rfl | hother
      · rw [howed] at howes
        rcases List.mem_append.1 howes with howes | hmem
        · exact hkept _ hk assignment howes
        · refine ⟨List.mem_append_right _ hmem, fun other hother => ?_⟩
          exact Option.some.inj (hother.symm.trans (hnew assignment hmem).1)
      · exact hkept other (List.mem_append_right _ (List.mem_cons_of_mem _ hother)) assignment howes
  · refine (h.informed connection hconnection).mono (fun _ => List.mem_append_left _)
      (fun assignment howes => ?_) fun accountId assignment hassigned => ?_
    · simp only [List.flatMap_append, List.flatMap_cons, howed, List.mem_append] at howes ⊢
      tauto
    · refine (hsits accountId assignment hassigned).imp_right fun hmem => ?_
      simp only [List.flatMap_append, List.flatMap_cons, howed, List.mem_append]
      exact .inr (.inl (.inr hmem.2))

/-- Every go keeps it. -/
theorem resume (h : s.Told (before ++ k :: after)) :
    (k.resume outside s).2.Told (before ++ (k.resume outside s).1 :: after) := by
  cases k with
  | lobby call due newAssignments =>
    cases due with
    | nil => exact h.lobby
    | cons publication due => exact h.publish
  | events account => exact h.addConnection
  | connection id =>
    have hstep : StreamCall.InStep (.connection id) := trivial
    exact h.modifyConnection hstep rfl rfl fun connection hinformed => hinformed.deliver h.logged
  | close id =>
    have hstep : StreamCall.InStep .gone := trivial
    exact h.modifyConnection hstep rfl rfl fun connection hinformed => hinformed.close
  | gone =>
    exact h.congr rfl rfl trivial rfl (fun _ howes => howes) h.informed

end Streams.Told

/-- A call that has just come in holds nothing and owes nothing. -/
theorem StreamCall.of_isRequest {k : StreamCall} (h : k.isRequest = true) :
    k.InStep ∧ k.holdsFlag = false ∧ k.owed = [] := by
  cases k with
  | lobby call due newAssignments =>
    cases due with
    | cons => cases h
    | nil =>
      cases newAssignments with
      | cons => cases h
      | nil => cases call <;> first | exact ⟨⟨rfl, rfl⟩, rfl, rfl⟩ | cases h
  | events | close => exact ⟨trivial, rfl, rfl⟩
  | connection | gone => cases h

/-- It holds along every run. -/
theorem streams_invariant {G : Streams → List StreamCall → StreamCall → Outside → Prop}
    {c : Calls Streams StreamCall} (h : streamService.Run G c) : c.shared.Told c.calls := by
  refine h.invariant (I := Streams.Told)
    ⟨fun _ h => (nomatch h), rfl, fun _ _ h => (nomatch h), fun _ h => (nomatch h),
      fun _ h => (nomatch h)⟩ ?_ ?_
  · intro s calls k hs hk
    obtain ⟨hstep, hflag, howed⟩ := StreamCall.of_isRequest hk
    refine ⟨fun other hother => ?_, ?_, hs.logged, fun other hother => ?_, ?_⟩
    · rcases List.mem_append.1 hother with hother | hother
      · exact hs.inStep other hother
      · exact List.mem_singleton.1 hother ▸ hstep
    · rw [List.countP_append, countP_cons_toNat, hflag]
      exact hs.flag
    · rcases List.mem_append.1 hother with hother | hother
      · exact hs.owed other hother
      · rw [List.mem_singleton.1 hother, howed]
        exact fun _ h => (nomatch h)
    · rw [List.flatMap_append, List.flatMap_singleton, howed, List.append_nil]
      exact hs.informed
  · intro s before k after outside hs _
    exact hs.resume

/-- Whatever the calls and the browsers do, in whatever order: what a connection is sent begins with
the state of the lobby; it is told only of games its account has been put in; and once nothing is
left to be run on it, an open connection has been told last of the game its account sits in, unless
the call that put it there is still to publish that. -/
theorem streams_told {G : Streams → List StreamCall → StreamCall → Outside → Prop}
    {c : Calls Streams StreamCall} (h : streamService.Run G c) {connection : LobbyConnection}
    (hconnection : connection ∈ c.shared.connections) :
    (∀ event ∈ connection.received.head?, ∃ snapshot, event = .lobbyUpdated snapshot) ∧
    (∀ address ∈ connection.told, ∃ assignment ∈ c.shared.everAssigned,
      assignment.accountId = connection.account.accountId ∧ assignment.address = address) ∧
    ∀ assignment, c.shared.lobby.assignments.get? connection.account.accountId = some assignment →
      connection.closed = false → connection.delivery = [] → (∀ k ∈ c.calls, assignment ∉ k.owed) →
        connection.told.getLast? = some assignment.address := by
  have hinformed := (streams_invariant h).informed connection hconnection
  refine ⟨?_, fun address haddress => ?_, fun assignment hsits hopen hdelivered howed => ?_⟩
  · have hbegun := hinformed.begun
    unfold LobbyConnection.WellBegun at hbegun
    cases hreceived : connection.received with
    | nil => exact fun _ h => (nomatch h)
    | cons event received =>
      rw [hreceived] at hbegun
      intro _ heq
      cases heq
      exact hbegun
  · exact hinformed.told address (List.mem_append_left _ (List.mem_map_of_mem haddress))
  · obtain howes | ⟨telling, hlast, haddress⟩ := hinformed.upToDate hopen assignment hsits
    · obtain ⟨k, hk, howes⟩ := List.mem_flatMap.1 howes
      exact absurd howes (howed k hk)
    · rw [LobbyConnection.tellings_of_delivered hdelivered, List.getLast?_map,
        Option.map_eq_some_iff] at hlast
      obtain ⟨address, hlast, rfl⟩ := hlast
      rw [hlast, haddress address rfl]

/-- The call at a position goes on this many times, with nothing from outside. -/
def streamOn (i times : Nat) : List (Service.Move StreamCall Outside) :=
  List.replicate times (.go i {})

/-- The host has a connection open as the game for two is started. -/
theorem forTwo_played :
    (streamService.play (fun _ _ _ _ => True)
      (.call (.lobby (.ready ⟨"A", "A"⟩) [] []) :: streamOn 0 4 ++
        .call (.lobby (.ready ⟨"B", "B"⟩) [] []) :: streamOn 1 4 ++
        .call (.events ⟨"A", "A"⟩) :: streamOn 2 1 ++
        .call (.lobby (.startGame "A") [] []) :: streamOn 3 6 ++
        .go 3 { game := some ⟨"G", "ws"⟩ } :: streamOn 3 4 ++
        streamOn 2 3 ++ streamOn 3 2 ++ streamOn 2 1)).any (fun c =>
      c.shared.connections.any fun connection =>
        connection.account.accountId = "A" && !connection.closed && connection.delivery.isEmpty &&
        c.shared.lobby.assignments.get? "A" = some ⟨"A", "G", "ws", 0⟩ &&
        c.calls.all fun k => (⟨"A", "G", "ws", 0⟩ : GameAssignment) ∉ k.owed) = true := by
  decide +kernel

/-- A lobby of two starts, and a stream hears of the game. -/
theorem streams_told_forTwo : ∃ c, streamService.Run (fun _ _ _ _ => True) c ∧
    ∃ connection ∈ c.shared.connections, connection.told.getLast? = some ("G", "ws") := by
  obtain ⟨c, hc, hany⟩ := Option.any_eq_true _ _ |>.1 forTwo_played
  obtain ⟨connection, hmem, hall⟩ := List.any_eq_true.1 hany
  simp only [Bool.and_eq_true, decide_eq_true_eq, Bool.not_eq_true', List.isEmpty_iff,
    List.all_eq_true] at hall
  obtain ⟨⟨⟨⟨hid, hopen⟩, hdelivered⟩, hsits⟩, howed⟩ := hall
  exact ⟨c, .of_play hc, connection, hmem,
    (streams_told (.of_play hc) hmem).2.2 _ (hid ▸ hsits) hopen
    hdelivered howed⟩

end HereToSlaughter
