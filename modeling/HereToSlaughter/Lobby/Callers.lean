import HereToSlaughter.Auth.Sessions
import HereToSlaughter.Lobby.HandOver

/-!
# Who calls the lobby

The controller of the lobby stands behind the guard of the sessions: it calls the service for the
account that a token has been resolved to. Sign-up has let the name of this account through, so it
is named as the schema of a seat wants it (`authService_named`). Settings reach the service only if
the schema has passed them, and so do those that are handed over with a group (`lobby_parsed`).

Reference: `auth/auth.service.ts`, `auth/session-auth.guard.ts`, `lobby/lobby.controller.ts`.
-/

namespace HereToSlaughter

open Lib

/-! ## Names -/

/-- Not empty, and nothing to trim. -/
def Trimmed (text : String) : Prop := trim text = text ∧ text ≠ ""

/-- What has been trimmed has nothing to trim. -/
theorem trim_trim (text : String) : trim (trim text) = trim text := by
  have hback : ∀ l : List Char, (l.reverse.dropWhile isTrimmed).reverse = l.rdropWhile isTrimmed :=
    fun _ => rfl
  unfold trim
  simp only [String.toList_ofList, hback]
  -- what is left in front stays, as nothing but the end is taken off it
  have hfront : ((text.toList.dropWhile isTrimmed).rdropWhile isTrimmed).dropWhile isTrimmed =
      (text.toList.dropWhile isTrimmed).rdropWhile isTrimmed := by
    refine List.dropWhile_eq_self_iff.2 fun hpos => ?_
    have hpre := List.rdropWhile_prefix isTrimmed (text.toList.dropWhile isTrimmed)
    rw [hpre.getElem hpos]
    exact List.dropWhile_get_zero_not isTrimmed text.toList (Nat.lt_of_lt_of_le hpos hpre.length_le)
  rw [hfront, List.rdropWhile_idempotent]

/-- What has been trimmed, and is not empty, is trimmed. -/
theorem Trimmed.of_trim {text : String} (h : trim text ≠ "") : Trimmed (trim text) :=
  ⟨trim_trim text, h⟩

/-- An account of the lobby is named if both its texts are trimmed. -/
theorem LobbyPlayer.named_iff {player : LobbyPlayer} :
    player.Named ↔ Trimmed player.accountId ∧ Trimmed player.username := by
  rcases player with ⟨accountId, username⟩
  have hfault : ∀ field (passes : Bool), atFault field passes = [] ↔ passes = true := by
    intro field passes
    cases passes <;> simp [atFault]
  simp only [LobbyPlayer.Named, LobbyPlayer.trimmed, SeatedAccountSchema, LobbyPlayer.mk.injEq,
    List.append_eq_nil_iff, hfault, decide_eq_true_eq, Trimmed]
  constructor
  · rintro ⟨⟨hid, hname⟩, hid', hname'⟩
    exact ⟨⟨hid, hid ▸ hid'⟩, hname, hname ▸ hname'⟩
  · rintro ⟨⟨hid, hid'⟩, hname, hname'⟩
    exact ⟨⟨hid, hname⟩, hid.symm ▸ hid', hname.symm ▸ hname'⟩

/-! ## Accounts -/

/-- An account as the lobby is called for it. -/
def AuthenticatedAccount.toPlayer (account : AuthenticatedAccount) : LobbyPlayer :=
  ⟨account.accountId, account.username⟩

/-- Ids that are drawn are not empty, and there is nothing to trim about them. -/
def IdsDrawn (_ : Auth) (_ : List AuthCall) (call : AuthCall) (drawn : Drawn) : Prop :=
  ∀ username password, call = .registerHashing username password → Trimmed drawn.id

/-- The account is named as the lobby wants it. -/
def UserAccount.Signed (account : UserAccount) : Prop :=
  LobbyPlayer.Named ⟨account.id, account.username⟩

/-- What a call carries of a name or an account has gone through sign-up. -/
def AuthCall.Signed : AuthCall → Prop
  | .registerLooked username _ _ | .registerHashing username _ => Trimmed username
  | .resolveFound _ account => ∀ found ∈ account, found.Signed
  | .ended (.resolved account) => ∀ found ∈ account, found.toPlayer.Named
  | _ => True

section
variable {C : Crypto}

/-- One go stores no account but one that has gone through sign-up, and carries no other. -/
theorem AuthCall.Goes.signed {drawn : Drawn} {a a' : Auth} {call call' : AuthCall}
    (hgoes : call.Goes C drawn a (call', a')) (hcall : call.Signed)
    (haccounts : ∀ account ∈ a.accountsById.values, account.Signed)
    (hdrawn : ∀ username password, call = .registerHashing username password → Trimmed drawn.id) :
    (∀ account ∈ a'.accountsById.values, account.Signed) ∧ call'.Signed := by
  cases hgoes with
  | looked username password hname => exact ⟨haccounts, .of_trim hname⟩
  | free => exact ⟨haccounts, hcall⟩
  | @registers username password a' hcreated =>
    have hsigned : UserAccount.Signed ⟨drawn.id, username, C.hash password drawn.salt, drawn.now⟩ :=
      LobbyPlayer.named_iff.2 ⟨hdrawn _ _ rfl, hcall⟩
    refine ⟨fun account hmem => ?_, trivial⟩
    unfold Auth.createAccount at hcreated
    split at hcreated
    · cases hcreated
    · split at hcreated
      · cases hcreated
      · cases hcreated
        obtain ⟨e, he, rfl⟩ := List.mem_map.1 hmem
        obtain he | rfl := OrderedMap.mem_entries_set he
        · exact haccounts _ (List.mem_map_of_mem he)
        · exact hsigned
  | opens _ hcreated =>
    refine ⟨?_, trivial⟩
    unfold Auth.createSession at hcreated
    split at hcreated
    · cases hcreated
    · cases hcreated
      exact haccounts
  | reads token =>
    refine ⟨?_, trivial⟩
    unfold Auth.findByTokenHash
    split
    · exact haccounts
    · split
      · exact haccounts
      · exact haccounts
  | owner tokenHash session =>
    refine ⟨haccounts, fun found hfound => ?_⟩
    exact haccounts found (List.mem_map_of_mem (OrderedMap.get?_eq_some.1 hfound))
  | resolves tokenHash account =>
    refine ⟨haccounts, fun found hfound => ?_⟩
    cases hfound
    exact hcall account rfl
  | nobody | unknown | gone =>
    refine ⟨haccounts, fun found hfound => ?_⟩
    cases hfound
  | rests => exact ⟨haccounts, hcall⟩
  | refused | found | verifying | opened | revokes | leaves | orphan => exact ⟨haccounts, trivial⟩

/-- Whoever a token is resolved to is named as the lobby wants it, whatever calls have been made. -/
theorem authService_named {c : Calls Auth AuthCall} (h : (authService C).Run IdsDrawn c)
    {account : AuthenticatedAccount} (hresolved : .ended (.resolved (some account)) ∈ c.calls) :
    account.toPlayer.Named := by
  refine (h.invariant_calls (I := fun a => ∀ account ∈ a.accountsById.values, account.Signed)
    (J := AuthCall.Signed) (fun _ hmem => nomatch hmem) (fun call hcall => ?_)
    ?_).2 _ hresolved account rfl
  · cases call with
    | register | login | logout | resolveAccount => trivial
    | _ => cases hcall
  · intro a calls call drawn haccounts hcall hdrawn
    exact (call.goes C drawn a).signed hcall haccounts hdrawn

/-- So the calls of the controller are those of accounts that are named. -/
theorem signedUp_of_resolved {c : Calls Auth AuthCall} (h : (authService C).Run IdsDrawn c)
    {account : AuthenticatedAccount} (hresolved : .ended (.resolved (some account)) ∈ c.calls)
    (l : Lobby) (calls : List Call) (outside : Outside) :
    SignedUp l calls (.ready account.toPlayer) outside := by
  rintro _ ⟨⟩
  exact authService_named h hresolved

end

/-! ## Settings -/

/-- `LobbyController.updateSettings`: the settings object is parsed before the service is called. -/
def LobbyController.updateSettings (account : AuthenticatedAccount) (body : TableSettings) :
    Except (List String) Call :=
  match GameSettingsSchema body with
  | [] => .ok (.updateSettings account.toPlayer body.toGameSettings)
  | fields => .error fields

/-- The schema has passed them. -/
def GameSettings.Parsed (settings : GameSettings) : Prop :=
  ∃ full : TableSettings, full.toGameSettings = settings ∧ GameSettingsSchema full = []

/-- Settings are changed through the controller. -/
def ThroughController (_ : Lobby) (_ : List Call) (call : Call) (_ : Outside) : Prop :=
  ∀ player settings, call = .updateSettings player settings →
    ∃ account body, LobbyController.updateSettings account body = .ok call

/-- What the controller asks for has been parsed. -/
theorem LobbyController.parsed {account : AuthenticatedAccount} {body : TableSettings}
    {player : LobbyPlayer} {settings : GameSettings}
    (h : LobbyController.updateSettings account body = .ok (.updateSettings player settings)) :
    settings.Parsed := by
  unfold LobbyController.updateSettings at h
  split at h
  · next hpassed =>
    cases h
    exact ⟨body, rfl, hpassed⟩
  · cases h

/-- The settings a call has taken over from the controller or read from the store. -/
def Call.settings : Call → Option GameSettings
  | .settingsListed _ settings _ | .settingsWritten settings _ | .startSettled _ settings
  | .startRequested _ settings => some settings
  | _ => none

/-- One go writes, and reads, settings that have been parsed. -/
theorem Call.parsed_resume {call : Call} {outside : Outside} {l : Lobby} {calls : List Call}
    (hl : l.settings.Parsed) (hcall : ∀ settings ∈ call.settings, settings.Parsed)
    (hthrough : ThroughController l calls call outside) :
    (call.resume outside l).2.settings.Parsed ∧
      ∀ settings ∈ (call.resume outside l).1.settings, settings.Parsed := by
  have hnone : ∀ {settings : GameSettings}, settings ∈ (none : Option GameSettings) →
    settings.Parsed :=
    fun hmem => nomatch hmem
  cases call with
  | updateSettings player settings =>
    obtain ⟨account, body, hbody⟩ := hthrough player settings rfl
    refine ⟨hl, ?_⟩
    rintro _ ⟨⟩
    exact LobbyController.parsed hbody
  | settingsListed account settings readyPlayers =>
    simp only [resume, resumeSettings]
    split
    · exact ⟨hl, fun _ => hnone⟩
    · exact ⟨hcall settings rfl, hcall⟩
  | settingsWritten settings readyPlayers => exact ⟨hl, fun _ => hnone⟩
  | startLookedUp players existing =>
    simp only [resume, resumeStart]
    split
    · exact ⟨hl, fun _ => hnone⟩
    · refine ⟨hl, ?_⟩
      rintro _ ⟨⟩
      exact hl
  | startSettled players settings => exact ⟨hl, hcall⟩
  | startRequested players settings =>
    simp only [resume, resumeStart]
    split
    · exact ⟨hl, fun _ => hnone⟩
    · split
      · exact ⟨hl, fun _ => hnone⟩
      · next hassign =>
        obtain ⟨-, rfl⟩ := Lobby.assign_eq_ok hassign
        exact ⟨hl, fun _ => hnone⟩
  | readyChecked | readyListed | startGame | startListed | startCounted =>
    simp only [resume, resumeReady, resumeStart]
    split <;> exact ⟨hl, fun _ => hnone⟩
  | readyCounted account readyPlayers playerCount =>
    simp only [resume, resumeReady, Lobby.addReadyPlayer]
    split
    · exact ⟨hl, fun _ => hnone⟩
    · split
      · exact ⟨hl, fun _ => hnone⟩
      · next hadded =>
        split at hadded
        · cases hadded
          exact ⟨hl, fun _ => hnone⟩
        · split at hadded
          · cases hadded
          · cases hadded
            exact ⟨hl, fun _ => hnone⟩
  | _ => exact ⟨hl, fun _ => hnone⟩

/-- The settings handed over with a group are ones the schema has passed. -/
theorem lobby_parsed {c : Calls Lobby Call} (h : lobbyService.Run ThroughController c)
    {players : List LobbyPlayer} {settings : GameSettings}
    (hcall : .startRequested players settings ∈ c.calls) : settings.Parsed := by
  refine (h.invariant_calls (I := fun l => l.settings.Parsed)
    (J := fun call => ∀ settings ∈ call.settings, settings.Parsed) ⟨DEFAULT_GAME_SETTINGS, rfl, rfl⟩
    (fun call hrequest settings hmem => ?_)
    fun _ _ _ _ => Call.parsed_resume).2 _ hcall settings rfl
  cases call with
  | ready | unready | updateSettings | startGame | completeGame => cases hmem
  | _ => cases hrequest

end HereToSlaughter
