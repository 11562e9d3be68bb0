import HereToSlaughter.Auth.Service

/-!
# Whose session a token is

A ledger is kept beside the service: every token that is issued, with the request it was issued on,
and every token whose owner logs out. It says whose session a token stands for at a time: the last
word on the token decides (`holder`). However the calls interleave, what a token is resolved to is
what the ledger said when it was looked up (`authNoted_resolves`), and a token is issued only to
who presents the name and the password of an account, no two of which share a name
(`authNoted_attests`).

The clock is taken not to run backwards.

Reference: `auth/auth.service.ts`.
-/

namespace HereToSlaughter

open Lib

/-! ## The ledger -/

/-- A word on a token. -/
inductive Entry
  | issued (token accountId : String) (expiresAt : Nat) (request : AuthCall)
  | loggedOut (token : String)

/-- Whose session stands under a token hash at a time, by the last word on it. -/
def holder (C : Crypto) (tokenHash : String) (now : Nat) : List Entry → Option String
  | [] => none
  | .issued token accountId expiresAt _ :: ledger =>
    if C.hashSessionToken token = tokenHash then if now < expiresAt then some accountId else none
    else holder C tokenHash now ledger
  | .loggedOut token :: ledger =>
    if C.hashSessionToken token = tokenHash then none else holder C tokenHash now ledger

/-- The token a request brings. -/
def AuthCall.token : AuthCall → String
  | .logout token | .resolveAccount token => token.getD ""
  | _ => ""

/-- The service, with the ledger, newest first, and the registrations. -/
structure NotedAuth where
  auth : Auth := {}
  now : Nat := 0
  ledger : List Entry := []
  registered : List (UserAccount × AuthCall) := []

/-- A call, with what was asked, and the ledger and the time over which its token was looked up. -/
structure NotedAuthCall where
  request : AuthCall
  call : AuthCall := request
  read : Option (List Entry × Nat) := none

namespace NotedAuth

/-- What is written down of a go. -/
def note (k : NotedAuthCall) (drawn : Drawn) (after : AuthCall × Auth) (w : NotedAuth) :
    NotedAuth where
  auth := after.2
  now := drawn.now
  ledger :=
    match after.1 with
    | .sessionStored session =>
      .issued session.token session.accountId session.expiresAt k.request :: w.ledger
    | .logoutRevoked => .loggedOut k.request.token :: w.ledger
    | _ => w.ledger
  registered :=
    match after.1 with
    | .registerStored account => (account, k.request) :: w.registered
    | _ => w.registered

end NotedAuth

namespace NotedAuthCall

/-- What a go makes of the call. -/
def goesOn (drawn : Drawn) (w : NotedAuth) (call' : AuthCall) (k : NotedAuthCall) : NotedAuthCall :=
  { k with
    call := call'
    read :=
      match k.call with
      | .resolveAccount _ => some (w.ledger, drawn.now)
      | _ => k.read }

end NotedAuthCall

/-- The service with its ledger. -/
def authNoted (C : Crypto) : Service NotedAuth NotedAuthCall Drawn where
  start := {}
  begins k := k.request.isRequest = true ∧ k.call = k.request ∧ k.read.isNone
  resume k drawn w :=
    let after := k.call.resume C drawn w.auth
    (k.goesOn drawn w after.1, w.note k drawn after)

/-- Without the ledger, a run of the service with its ledger is one of the service. -/
theorem authService_of_noted {C : Crypto}
    {G : NotedAuth → List NotedAuthCall → NotedAuthCall → Drawn → Prop}
    {c : Calls NotedAuth NotedAuthCall} (h : (authNoted C).Run G c) :
    (authService C).Run (fun _ _ _ _ => True) ⟨c.shared.auth, c.calls.map NotedAuthCall.call⟩ := by
  refine h.map rfl (fun k hk => ?_) (fun _ _ _ => rfl) fun _ _ _ _ _ => trivial
  change k.call.isRequest = true
  exact hk.2.1 ▸ hk.1

/-- The clock does not run backwards. -/
def Timely (w : NotedAuth) (_ : List NotedAuthCall) (_ : NotedAuthCall) (drawn : Drawn) : Prop :=
  w.now ≤ drawn.now

/-! ## What the stores hold -/

/-- The request presents the name of the account, and the password behind its hash. -/
def AuthCall.Attests (C : Crypto) (account : UserAccount) : AuthCall → Prop
  | .register username password =>
    trim username = account.username ∧ ∃ salt, account.passwordHash = C.hash password salt
  | .login username password =>
    trim username = account.username ∧ C.verify account.passwordHash password = true
  | _ => False

/-- The accounts are kept by their ids and have different names, each was registered, the ledger
tells which sessions stand, and who a token was issued to has attested the account. -/
structure NotedAuth.Holds (C : Crypto) (w : NotedAuth) : Prop where
  keyed : ∀ e ∈ w.auth.accountsById.entries, e.2.id = e.1
  usernames : (w.auth.accountsById.values.map UserAccount.username).Nodup
  known : ∀ account ∈ w.auth.accountsById.values, ∃ request : AuthCall,
    (account, request) ∈ w.registered ∧ request.Attests C account ∧
      ∃ username password, request = .register username password
  sessions : ∀ tokenHash now, w.now ≤ now →
    ((w.auth.sessionsByTokenHash.get? tokenHash).filter (now < ·.expiresAt)).map Session.accountId =
      holder C tokenHash now w.ledger
  owned : ∀ session ∈ w.auth.sessionsByTokenHash.values,
    w.auth.accountsById.has session.accountId = true
  attested : ∀ token accountId expiresAt request,
    Entry.issued token accountId expiresAt request ∈ w.ledger →
      ∃ account, w.auth.findById accountId = some account ∧ request.Attests C account

/-- Accounts stay, and what is written down stays written down. -/
structure NotedAuth.Extends (w w' : NotedAuth) : Prop where
  accounts : ∀ accountId account, w.auth.findById accountId = some account →
    w'.auth.findById accountId = some account
  ledger : w.ledger <:+ w'.ledger
  now : w.now ≤ w'.now

/-- The token was looked up, and this is what the ledger said of it. -/
def NotedAuthCall.Read (C : Crypto) (w : NotedAuth) (k : NotedAuthCall) (token : String)
    (accountId : Option String) : Prop :=
  ∃ ledger now, k.read = some (ledger, now) ∧ ledger <:+ w.ledger ∧ now ≤ w.now ∧
    holder C (C.hashSessionToken token) now ledger = accountId

/-- What a call keeps across its await point fits what was asked and what the stores hold. -/
def NotedAuthCall.Fits (C : Crypto) (w : NotedAuth) (k : NotedAuthCall) : Prop :=
  match k.call with
  | .registerLooked username password _ | .registerHashing username password =>
    ∃ name, k.request = .register name password ∧ trim name = username
  | .registerStored account =>
    w.auth.findById account.id = some account ∧ k.request.Attests C account
  | .loginVerifying account password =>
    w.auth.findById account.id = some account ∧
      ∃ name, k.request = .login name password ∧ trim name = account.username
  | .loginLooked password account =>
    ∃ name, k.request = .login name password ∧ ∀ found ∈ account,
      w.auth.findById found.id = some found ∧ found.username = trim name
  | .resolveLooked tokenHash session =>
    ∃ token, k.request = .resolveAccount (some token) ∧ tokenHash = C.hashSessionToken token ∧
      k.Read C w token (session.map Session.accountId) ∧
      ∀ found ∈ session, ∃ account, w.auth.findById found.accountId = some account
  | .resolveFound tokenHash account =>
    ∃ token found, k.request = .resolveAccount (some token) ∧ account = some found ∧
      tokenHash = C.hashSessionToken token ∧ w.auth.findById found.id = some found ∧
      k.Read C w token (some found.id)
  | .resolveRevoked => False
  | .ended (.resolved answer) => ∀ token, token ≠ "" → k.request = .resolveAccount (some token) →
    k.Read C w token (answer.map AuthenticatedAccount.accountId) ∧
      ∀ found ∈ answer, ∃ account, w.auth.findById found.accountId = some account ∧
        account.username = found.username
  | .sessionStored _ | .logoutRevoked | .ended _ => True
  | call => k.request = call

section
variable {C : Crypto} {w w' : NotedAuth} {k : NotedAuthCall}

namespace NotedAuth.Extends

/-- What is remembered of a lookup stays true of it. -/
theorem read (h : w.Extends w') {token : String} {accountId : Option String}
    (hread : k.Read C w token accountId) : k.Read C w' token accountId := by
  obtain ⟨ledger, now, hk, hledger, hnow, hholder⟩ := hread
  exact ⟨ledger, now, hk, hledger.trans h.ledger, Nat.le_trans hnow h.now, hholder⟩

/-- What fits a call fits it later on. -/
theorem fits (h : w.Extends w') (hk : k.Fits C w) : k.Fits C w' := by
  unfold NotedAuthCall.Fits at hk ⊢
  split at hk
  · exact hk
  · exact hk
  · exact ⟨h.accounts _ _ hk.1, hk.2⟩
  · exact ⟨h.accounts _ _ hk.1, hk.2⟩
  · obtain ⟨name, hrequest, hfound⟩ := hk
    exact ⟨name, hrequest,
      fun found hmem => ⟨h.accounts _ _ (hfound found hmem).1, (hfound found hmem).2⟩⟩
  · obtain ⟨token, hrequest, hhash, hread, hfound⟩ := hk
    refine ⟨token, hrequest, hhash, h.read hread, fun found hmem => ?_⟩
    obtain ⟨account, haccount⟩ := hfound found hmem
    exact ⟨account, h.accounts _ _ haccount⟩
  · obtain ⟨token, found, hrequest, hsome, hhash, hfound, hread⟩ := hk
    exact ⟨token, found, hrequest, hsome, hhash, h.accounts _ _ hfound, h.read hread⟩
  · exact hk
  · intro token hne hrequest
    obtain ⟨hread, hfound⟩ := hk token hne hrequest
    refine ⟨h.read hread, fun found hmem => ?_⟩
    obtain ⟨account, haccount, hname⟩ := hfound found hmem
    exact ⟨account, h.accounts _ _ haccount, hname⟩
  · trivial
  · trivial
  · trivial
  · exact hk

end NotedAuth.Extends

end

/-! ## What a go can do -/

/-- What a go of a call can come to. -/
inductive AuthCall.Goes (C : Crypto) (drawn : Drawn) (a : Auth) : AuthCall → AuthCall × Auth → Prop
  | refused (call : AuthCall) (error : AuthError) : Goes C drawn a call (.ended (.threw error), a)
  | looked (username password : String) (hname : trim username ≠ "") :
    Goes C drawn a (.register username password)
      (.registerLooked (trim username) password (a.findByUsername (trim username)), a)
  | free (username password : String) (existing : Option UserAccount) :
    Goes C drawn a (.registerLooked username password existing)
    (.registerHashing username password, a)
  | registers {username password : String} {a' : Auth}
    (h : a.createAccount ⟨drawn.id, username, C.hash password drawn.salt, drawn.now⟩ = .ok a') :
    Goes C drawn a (.registerHashing username password)
      (.registerStored ⟨drawn.id, username, C.hash password drawn.salt, drawn.now⟩, a')
  | opens {call : AuthCall} {account : UserAccount} {a' : Auth}
    (hcall : call = .registerStored account ∨ ∃ password, call = .loginVerifying account password ∧
      C.verify account.passwordHash password = true)
    (h : a.createSession ⟨C.hashSessionToken drawn.token, account.id, drawn.now,
      drawn.now + SESSION_DURATION_MS⟩ = .ok a') :
    Goes C drawn a call (.sessionStored ⟨⟨account.id, account.username⟩, drawn.token,
      drawn.now + SESSION_DURATION_MS⟩, a')
  | found (username password : String) : Goes C drawn a (.login username password)
    (.loginLooked password (a.findByUsername (trim username)), a)
  | verifying (account : UserAccount) (password : String) :
    Goes C drawn a (.loginLooked password (some account)) (.loginVerifying account password, a)
  | opened (session : AuthSession) :
    Goes C drawn a (.sessionStored session) (.ended (.opened session), a)
  | revokes (token : String) : Goes C drawn a (.logout (some token))
    (.logoutRevoked, a.revoke (C.hashSessionToken token))
  | leaves {call : AuthCall} (hcall : call = .logoutRevoked ∨ ∃ token, call = .logout token) :
    Goes C drawn a call (.ended .loggedOut, a)
  | nobody {token : Option String} (h : token.getD "" = "") :
    Goes C drawn a (.resolveAccount token) (.ended (.resolved none), a)
  | reads (token : String) : Goes C drawn a (.resolveAccount (some token))
    (.resolveLooked (C.hashSessionToken token)
      (a.findByTokenHash drawn.now (C.hashSessionToken token)).1,
      (a.findByTokenHash drawn.now (C.hashSessionToken token)).2)
  | unknown (tokenHash : String) :
    Goes C drawn a (.resolveLooked tokenHash none) (.ended (.resolved none), a)
  | owner (tokenHash : String) (session : Session) : Goes C drawn a
    (.resolveLooked tokenHash (some session))
    (.resolveFound tokenHash (a.findById session.accountId), a)
  | orphan (tokenHash : String) : Goes C drawn a (.resolveFound tokenHash none)
    (.resolveRevoked, a.revoke tokenHash)
  | resolves (tokenHash : String) (account : UserAccount) : Goes C drawn a
    (.resolveFound tokenHash (some account))
    (.ended (.resolved (some ⟨account.id, account.username⟩)), a)
  | gone : Goes C drawn a .resolveRevoked (.ended (.resolved none), a)
  | rests (answer : AuthAnswer) : Goes C drawn a (.ended answer) (.ended answer, a)

/-- A token that is not the empty text was sent. -/
theorem some_of_getD_ne {token : Option String} (h : token.getD "" ≠ "") :
    ∃ t, token = some t ∧ token.getD "" = t := by
  cases token with
  | none => exact absurd rfl h
  | some t => exact ⟨t, rfl, rfl⟩

/-- A session is created for an account just stored, or for one whose password was verified. -/
theorem AuthCall.createSession_goes {C : Crypto} {drawn : Drawn} {a : Auth} {call : AuthCall}
    {account : UserAccount}
    (hcall : call = .registerStored account ∨ ∃ password, call = .loginVerifying account password ∧
      C.verify account.passwordHash password = true) :
    call.Goes C drawn a (AuthCall.createSession C drawn account a) := by
  unfold AuthCall.createSession
  dsimp only
  split
  · exact .refused _ _
  · exact .opens hcall ‹_›

/-- Each call goes as the service has it. -/
theorem AuthCall.goes (C : Crypto) (drawn : Drawn) (a : Auth) (call : AuthCall) :
    call.Goes C drawn a (call.resume C drawn a) := by
  cases call with
  | register username password | login username password =>
    simp only [resume, resumeRegister, resumeLogin]
    split
    · exact .refused _ _
    · rename_i name hvalid
      unfold validateCredentials at hvalid
      split at hvalid
      · cases hvalid
      next hgiven =>
        cases hvalid
        first
        | exact .looked _ _ fun hempty => hgiven (.inl hempty)
        | exact .found _ _
  | registerLooked username password existing =>
    simp only [resume, resumeRegister]
    split
    · exact .refused _ _
    · exact .free _ _ _
  | registerHashing username password =>
    simp only [resume, resumeRegister]
    split
    · exact .refused _ _
    · exact .registers ‹_›
  | registerStored account => exact createSession_goes (.inl rfl)
  | loginLooked password account =>
    cases account with
    | none => exact .refused _ _
    | some account => exact .verifying _ _
  | loginVerifying account password =>
    simp only [resume, resumeLogin]
    split
    · exact createSession_goes (.inr ⟨password, rfl, ‹_›⟩)
    · exact .refused _ _
  | sessionStored session => exact .opened _
  | logout token =>
    simp only [resume]
    split
    · exact .leaves (.inr ⟨token, rfl⟩)
    · obtain ⟨t, rfl, -⟩ := some_of_getD_ne ‹_›
      exact .revokes t
  | logoutRevoked => exact .leaves (.inl rfl)
  | resolveAccount token =>
    simp only [resume, resumeResolve]
    split
    · exact .nobody ‹_›
    · obtain ⟨t, rfl, -⟩ := some_of_getD_ne ‹_›
      exact .reads t
  | resolveLooked tokenHash session =>
    cases session with
    | none => exact .unknown _
    | some session => exact .owner _ _
  | resolveFound tokenHash account =>
    cases account with
    | none => exact .orphan _
    | some account => exact .resolves _ _
  | resolveRevoked => exact .gone
  | ended answer => exact .rests _

section
variable {C : Crypto} {w w' : NotedAuth} {k : NotedAuthCall}

/-! ## What a go writes -/

namespace NotedAuth.Holds

/-- An account is found under its own id. -/
theorem findById_eq_some {accountId : String} {account : UserAccount} (h : w.Holds C)
    (hfound : w.auth.findById accountId = some account) :
    account.id = accountId ∧ account ∈ w.auth.accountsById.values :=
  ⟨h.keyed _ (OrderedMap.get?_eq_some.1 hfound),
    List.mem_map_of_mem (f := Prod.snd) (OrderedMap.get?_eq_some.1 hfound)⟩

/-- An account that a name is looked up for is stored under its id. -/
theorem findByUsername {username : String} {account : UserAccount} (h : w.Holds C)
    (hfound : w.auth.findByUsername username = some account) :
    w.auth.findById account.id = some account ∧ account.username = username := by
  obtain ⟨e, he, rfl⟩ := List.mem_map.1 (List.mem_of_find?_eq_some hfound)
  have hname := List.find?_some hfound
  exact ⟨OrderedMap.get?_eq_some.2 (h.keyed e he ▸ he), of_decide_eq_true hname⟩

/-- Time passes. -/
theorem later {now : Nat} (h : w.Holds C) (hnow : w.now ≤ now) : { w with now }.Holds C :=
  ⟨h.keyed, h.usernames, h.known,
    fun tokenHash now' hnow' => h.sessions tokenHash now' (Nat.le_trans hnow hnow'),
    h.owned, h.attested⟩

/-- A session is revoked, as it is written down or as it has expired. -/
theorem revoke {ledger : List Entry} {tokenHash : String} (h : w.Holds C)
    (hsame : ∀ otherHash, otherHash ≠ tokenHash → ∀ now, w.now ≤ now →
      holder C otherHash now ledger = holder C otherHash now w.ledger)
    (hgone : ∀ now, w.now ≤ now → holder C tokenHash now ledger = none)
    (hissued : ∀ token accountId expiresAt request,
      Entry.issued token accountId expiresAt request ∈ ledger →
        Entry.issued token accountId expiresAt request ∈ w.ledger) :
    { w with auth := w.auth.revoke tokenHash, ledger }.Holds C := by
  refine ⟨h.keyed, h.usernames, h.known, fun otherHash now hnow => ?_, fun session hmem => ?_,
    fun _ _ _ _ hmem => h.attested _ _ _ _ (hissued _ _ _ _ hmem)⟩
  · dsimp only [Auth.revoke]
    by_cases heq : otherHash = tokenHash
    · rw [heq, OrderedMap.get?_erase_self, hgone now hnow]
      rfl
    · rw [OrderedMap.get?_erase_of_ne _ heq, hsame _ heq now hnow]
      exact h.sessions otherHash now hnow
  · obtain ⟨e, he, rfl⟩ := List.mem_map.1 hmem
    rw [Auth.revoke, OrderedMap.entries_erase] at he
    exact h.owned e.2 (List.mem_map_of_mem (List.mem_filter.1 he).1)

/-- A token is issued to who has attested the account. -/
theorem createSession {account : UserAccount} {token : String} {expiresAt : Nat}
    {request : AuthCall} {a : Auth} (h : w.Holds C)
    (hfound : w.auth.findById account.id = some account) (hattests : request.Attests C account)
    (hcreated : w.auth.createSession ⟨C.hashSessionToken token, account.id, w.now, expiresAt⟩ =
      .ok a) :
    { w with
      auth := a
      ledger := .issued token account.id expiresAt request :: w.ledger }.Holds C := by
  unfold Auth.createSession at hcreated
  split at hcreated
  · cases hcreated
  · cases hcreated
    rename_i hfresh
    refine ⟨h.keyed, h.usernames, h.known, fun tokenHash now hnow => ?_, fun session hmem => ?_,
      fun token' accountId expiresAt' request' hmem => ?_⟩
    · by_cases heq : C.hashSessionToken token = tokenHash
      · subst heq
        rw [holder, if_pos rfl, OrderedMap.get?_set_self, Option.filter_some]
        split <;> rename_i hlive <;> simp_all
      · rw [holder, if_neg heq, OrderedMap.get?_set_of_ne _ (Ne.symm heq)]
        exact h.sessions tokenHash now hnow
    · obtain ⟨e, he, rfl⟩ := List.mem_map.1 hmem
      obtain hold | heq := OrderedMap.mem_entries_set he
      · exact h.owned e.2 (List.mem_map_of_mem hold)
      · rw [heq]
        exact OrderedMap.has_iff.2 (OrderedMap.mem_keys_of_mem (OrderedMap.get?_eq_some.1 hfound))
    · obtain heq | hold := List.mem_cons.1 hmem
      · cases heq
        exact ⟨account, hfound, hattests⟩
      · exact h.attested _ _ _ _ hold

/-- An account is registered, if its id and its name are new. -/
theorem createAccount {account : UserAccount} {request : AuthCall} {a : Auth} (h : w.Holds C)
    (hattests : request.Attests C account)
    (hrequest : ∃ username password, request = .register username password)
    (hcreated : w.auth.createAccount account = .ok a) :
    { w with auth := a, registered := (account, request) :: w.registered }.Holds C ∧
      w.Extends { w with auth := a, registered := (account, request) :: w.registered } ∧
      a.findById account.id = some account := by
  unfold Auth.createAccount at hcreated
  split at hcreated
  · cases hcreated
  · split at hcreated
    · cases hcreated
    · cases hcreated
      rename_i hid hname
      have hnew : account.id ∉ w.auth.accountsById.keys :=
        fun hmem => hid (OrderedMap.has_iff.2 hmem)
      have hentries := OrderedMap.entries_set_of_notMem hnew account
      have hold : ∀ accountId found, w.auth.findById accountId = some found →
          (w.auth.accountsById.set account.id account).get? accountId = some found :=
        fun accountId found hfound => by
          rw [OrderedMap.get?_set_of_ne]
          · exact hfound
          · rintro rfl
            exact hnew (OrderedMap.mem_keys_of_mem (OrderedMap.get?_eq_some.1 hfound))
      have hvalues : (w.auth.accountsById.set account.id account).values =
          w.auth.accountsById.values ++ [account] := by
        simp only [OrderedMap.values, hentries, List.map_append, List.map_singleton]
      refine ⟨⟨fun e he => ?_, ?_, fun found hmem => ?_, h.sessions, fun session hmem => ?_,
        fun token accountId expiresAt request' hmem => ?_⟩,
        ⟨hold, List.suffix_refl _, Nat.le_refl _⟩, OrderedMap.get?_set_self _ _ _⟩
      · obtain he | rfl := List.mem_append.1 (hentries ▸ he) |>.imp id List.mem_singleton.1
        · exact h.keyed e he
        · rfl
      · rw [hvalues, List.map_append, List.nodup_append]
        refine ⟨h.usernames, List.nodup_singleton _, ?_⟩
        rintro username hmem _ hlast rfl
        obtain ⟨found, hfound, hsame⟩ := List.mem_map.1 hmem
        rw [List.map_singleton, List.mem_singleton] at hlast
        exact hname (List.find?_isSome.2 ⟨found, hfound, decide_eq_true (hsame.trans hlast)⟩)
      · obtain hmem | rfl := List.mem_append.1 (hvalues ▸ hmem) |>.imp id List.mem_singleton.1
        · obtain ⟨request', hregistered, hrest⟩ := h.known found hmem
          exact ⟨request', List.mem_cons_of_mem _ hregistered, hrest⟩
        · exact ⟨request, List.mem_cons_self, hattests, hrequest⟩
      · have howned := h.owned session hmem
        rw [OrderedMap.has_iff, ← OrderedMap.get?_isSome] at howned ⊢
        obtain ⟨found, hfound⟩ := Option.isSome_iff_exists.1 howned
        rw [hold _ _ hfound]
        rfl
      · obtain ⟨found, hfound, hrest⟩ := h.attested _ _ _ _ hmem
        exact ⟨found, hold _ _ hfound, hrest⟩

/-- A token is looked up: its session is removed if it has expired, and what is found is what the
ledger says. -/
theorem findByTokenHash (h : w.Holds C) (tokenHash : String) :
    { w with auth := (w.auth.findByTokenHash w.now tokenHash).2 }.Holds C ∧
      ((w.auth.findByTokenHash w.now tokenHash).1.map Session.accountId =
        holder C tokenHash w.now w.ledger) ∧
      (∀ found ∈ (w.auth.findByTokenHash w.now tokenHash).1,
        ∃ account, w.auth.findById found.accountId = some account) ∧
      (w.auth.findByTokenHash w.now tokenHash).2.accountsById = w.auth.accountsById := by
  have hsession := h.sessions tokenHash
  unfold Auth.findByTokenHash
  cases hget : w.auth.sessionsByTokenHash.get? tokenHash with
  | none =>
    rw [hget] at hsession
    exact ⟨h, hsession w.now (Nat.le_refl _), fun _ hmem => (nomatch hmem), rfl⟩
  | some session =>
    rw [hget] at hsession
    have howned :=
      h.owned session (List.mem_map_of_mem (f := Prod.snd) (OrderedMap.get?_eq_some.1 hget))
    rw [OrderedMap.has_iff, ← OrderedMap.get?_isSome] at howned
    dsimp only
    by_cases hexpired : session.expiresAt ≤ w.now
    · rw [if_pos hexpired]
      have hgone : ∀ now, w.now ≤ now → holder C tokenHash now w.ledger = none := fun now hnow => by
        rw [← hsession now hnow, Option.filter_some, if_neg]
        · rfl
        · simpa using Nat.le_trans hexpired hnow
      exact ⟨h.revoke (fun _ _ _ _ => rfl) hgone fun _ _ _ _ hmem => hmem,
        (hgone w.now (Nat.le_refl _)).symm, fun _ hmem => (nomatch hmem), rfl⟩
    · rw [if_neg hexpired]
      refine ⟨h, ?_, fun found hmem => ?_, rfl⟩
      · rw [← hsession w.now (Nat.le_refl _), Option.filter_some, if_pos]
        simpa using hexpired
      · cases hmem
        exact Option.isSome_iff_exists.1 howned

/-- What a go keeps. -/
theorem goesOn {request call : AuthCall} {read : Option (List Entry × Nat)} {drawn : Drawn}
    {after : AuthCall × Auth} (h : w.Holds C) (hk : NotedAuthCall.Fits C w ⟨request, call, read⟩)
    (htime : w.now ≤ drawn.now) (hgoes : call.Goes C drawn w.auth after) :
    (w.note ⟨request, call, read⟩ drawn after).Holds C ∧
      w.Extends (w.note ⟨request, call, read⟩ drawn after) ∧
      (NotedAuthCall.goesOn drawn w after.1 ⟨request, call, read⟩).Fits C
        (w.note ⟨request, call, read⟩ drawn after) := by
  have hlater : { w with now := drawn.now }.Holds C := h.later htime
  have hpasses : w.Extends { w with now := drawn.now } :=
    ⟨fun _ _ h => h, List.suffix_refl _, htime⟩
  cases hgoes with
  | refused _ error => exact ⟨hlater, hpasses, trivial⟩
  | looked username password _ => exact ⟨hlater, hpasses, username, hk, rfl⟩
  | free => exact ⟨hlater, hpasses, hk⟩
  | @registers username password _ hcreated =>
    obtain ⟨name, hrequest, hname⟩ := hk
    obtain rfl : request = .register name password := hrequest
    have hattests : (AuthCall.register name password).Attests C
        ⟨drawn.id, username, C.hash password drawn.salt, drawn.now⟩ := ⟨hname, drawn.salt, rfl⟩
    obtain ⟨hholds, hextends, hfound⟩ :=
      hlater.createAccount hattests ⟨name, password, rfl⟩ hcreated
    exact ⟨hholds, ⟨hextends.accounts, hextends.ledger, htime⟩, hfound, hattests⟩
  | @opens _ account _ hcall hcreated =>
    have hfound : w.auth.findById account.id = some account ∧ request.Attests C account := by
      obtain rfl | ⟨password, rfl, hverified⟩ := hcall
      · exact hk
      · obtain ⟨hfound, name, hrequest, hname⟩ := hk
        obtain rfl : request = .login name password := hrequest
        exact ⟨hfound, hname, hverified⟩
    refine ⟨hlater.createSession hfound.1 hfound.2 hcreated, ⟨fun _ _ h => ?_, ?_, htime⟩, trivial⟩
    · unfold Auth.createSession at hcreated
      split at hcreated <;> cases hcreated
      exact h
    · exact List.suffix_cons _ _
  | found username password =>
    refine ⟨hlater, hpasses, username, hk, fun account hmem => ?_⟩
    exact h.findByUsername hmem
  | verifying account password =>
    obtain ⟨name, hrequest, hfound⟩ := hk
    obtain ⟨hstored, hname⟩ := hfound account rfl
    exact ⟨hlater, hpasses, hstored, name, hrequest, hname.symm⟩
  | opened => exact ⟨hlater, hpasses, trivial⟩
  | revokes token =>
    obtain rfl : request = .logout (some token) := hk
    refine ⟨hlater.revoke (fun otherHash hne now _ => ?_) (fun now _ => ?_) fun _ _ _ _ hmem => ?_,
      ⟨fun _ _ h => h, List.suffix_cons _ _, htime⟩, trivial⟩
    · rw [holder, if_neg]
      exact Ne.symm hne
    · rw [holder, if_pos]
      rfl
    · exact (List.mem_cons.1 hmem).resolve_left (fun h => by cases h)
  | leaves => exact ⟨hlater, hpasses, trivial⟩
  | nobody hempty =>
    refine ⟨hlater, hpasses, fun token hne hrequest => ?_⟩
    obtain rfl : request = .resolveAccount _ := hk
    cases hrequest
    exact absurd hempty hne
  | reads token =>
    obtain rfl : request = .resolveAccount (some token) := hk
    obtain ⟨hholds, hsession, howned, haccounts⟩ :=
      hlater.findByTokenHash (C.hashSessionToken token)
    have hstays : ∀ accountId account, w.auth.findById accountId = some account →
        (w.auth.findByTokenHash drawn.now (C.hashSessionToken token)).2.findById accountId =
          some account := fun accountId account hfound => by
      rw [Auth.findById, show _ = w.auth.accountsById from haccounts]
      exact hfound
    refine ⟨hholds, ⟨hstays, List.suffix_refl _, htime⟩, token, rfl, rfl,
      ⟨w.ledger, drawn.now, rfl, List.suffix_refl _, Nat.le_refl _, hsession.symm⟩,
        fun found hmem => ?_⟩
    obtain ⟨account, haccount⟩ := howned found hmem
    exact ⟨account, hstays _ _ haccount⟩
  | unknown tokenHash =>
    obtain ⟨token, hrequest, -, hread, -⟩ := hk
    refine ⟨hlater, hpasses, fun token' _ hrequest' => ⟨?_, fun _ hmem => by cases hmem⟩⟩
    cases hrequest.symm.trans hrequest'
    exact hpasses.read hread
  | owner tokenHash session =>
    obtain ⟨token, hrequest, hhash, hread, hfound⟩ := hk
    obtain ⟨account, haccount⟩ := hfound session rfl
    obtain ⟨hid, -⟩ := h.findById_eq_some haccount
    refine ⟨hlater, hpasses, token, account, hrequest, haccount, hhash, ?_, ?_⟩
    · rw [hid]
      exact haccount
    · rw [hid]
      exact hpasses.read hread
  | orphan tokenHash =>
    obtain ⟨_, _, _, hnone, -⟩ := hk
    cases hnone
  | resolves tokenHash account =>
    obtain ⟨token, found, hrequest, hsome, hhash, hfound, hread⟩ := hk
    cases hsome
    refine ⟨hlater, hpasses, fun token' _ hrequest' => ⟨?_, fun answer hmem => ?_⟩⟩
    · cases hrequest.symm.trans hrequest'
      exact hpasses.read hread
    · cases hmem
      exact ⟨account, hfound, rfl⟩
  | gone => exact absurd hk id
  | rests answer => exact ⟨hlater, hpasses, hpasses.fits hk⟩

end NotedAuth.Holds

end

/-! ## Runs -/

section
variable {C : Crypto} {c : Calls NotedAuth NotedAuthCall}

/-- What a run keeps. -/
theorem authNoted_holds (h : (authNoted C).Run Timely c) :
    c.shared.Holds C ∧ ∀ k ∈ c.calls, k.Fits C c.shared := by
  refine h.invariant
    (I := fun w calls => w.Holds C ∧ ∀ k ∈ calls, NotedAuthCall.Fits C w k) ?_ ?_ ?_
  · refine ⟨⟨?_, .nil, ?_, fun _ _ _ => rfl, ?_, ?_⟩, fun _ hk => (nomatch hk)⟩
    · exact fun _ he => (nomatch he)
    · exact fun _ hmem => (nomatch hmem)
    · exact fun _ hmem => (nomatch hmem)
    · exact fun _ _ _ _ hmem => (nomatch hmem)
  · rintro w calls ⟨request, call, read⟩ ⟨hw, hcalls⟩ ⟨hrequest, hcall, -⟩
    obtain rfl : call = request := hcall
    refine ⟨hw, fun k hk => ?_⟩
    obtain hk | hk := List.mem_append.1 hk
    · exact hcalls k hk
    · rw [List.mem_singleton.1 hk]
      cases call with
      | register | login | logout | resolveAccount => rfl
      | _ => cases hrequest
  · rintro w before ⟨request, call, read⟩ after drawn ⟨hw, hcalls⟩ htime
    have hmine := hcalls _ (List.mem_append_right _ List.mem_cons_self)
    obtain ⟨hholds, hextends, hfits⟩ := hw.goesOn hmine htime (call.goes C drawn w.auth)
    refine ⟨hholds, fun k hk => ?_⟩
    obtain hk | hk := List.mem_append.1 hk
    · exact hextends.fits (hcalls k (List.mem_append_left _ hk))
    · obtain rfl | hk := List.mem_cons.1 hk
      · exact hfits
      · exact hextends.fits (hcalls k (List.mem_append_right _ (List.mem_cons_of_mem _ hk)))

/-- However calls interleave, a token is resolved to the account whose session it stood for when it
was looked up: the last word on the token by then was its issue for this account, and it had not
expired. If there was no such word, it is resolved to nobody. What the call has kept of its lookup
(`k.read`) is the ledger as it stood then, and the time. -/
theorem authNoted_resolves (h : (authNoted C).Run Timely c) {k : NotedAuthCall} (hk : k ∈ c.calls)
    {token : String} {answer : Option AuthenticatedAccount} (hne : token ≠ "")
    (hrequest : k.request = .resolveAccount (some token))
    (hcall : k.call = .ended (.resolved answer)) :
    ∃ ledger now, k.read = some (ledger, now) ∧ ledger <:+ c.shared.ledger ∧ now ≤ c.shared.now ∧
      answer.map AuthenticatedAccount.accountId =
        holder C (C.hashSessionToken token) now ledger ∧
      ∀ found ∈ answer, ∃ account, c.shared.auth.findById found.accountId = some account ∧
        account.username = found.username := by
  have hfits := (authNoted_holds h).2 k hk
  rw [NotedAuthCall.Fits, hcall] at hfits
  obtain ⟨⟨ledger, now, hread, hledger, hnow, hholder⟩, hfound⟩ := hfits token hne hrequest
  exact ⟨ledger, now, hread, hledger, hnow, hholder.symm, hfound⟩

/-- A password is its own hash, and so is a token. -/
def plain : Crypto where
  hash password _ := password
  verify passwordHash password := passwordHash = password
  hashSessionToken token := token

/-- Ann registers, is known by her token, and logs out. -/
def annVisits : List (Service.Move NotedAuthCall Drawn) :=
  [.call ⟨.register " ann " "pw", .register " ann " "pw", none⟩,
    .go 0 { now := 1 }, .go 0 { now := 1 }, .go 0 { id := "u1", now := 2 },
    .go 0 { token := "t1", now := 3 }, .go 0 { now := 3 },
    .call ⟨.resolveAccount (some "t1"), .resolveAccount (some "t1"), none⟩,
    .go 1 { now := 4 }, .go 1 { now := 4 }, .go 1 { now := 4 },
    .call ⟨.logout (some "t1"), .logout (some "t1"), none⟩, .go 2 { now := 5 }, .go 2 { now := 5 },
    .call ⟨.resolveAccount (some "t1"), .resolveAccount (some "t1"), none⟩,
    .go 3 { now := 6 }, .go 3 { now := 6 }]

instance (k : NotedAuthCall) : Decidable ((authNoted C).begins k) :=
  inferInstanceAs (Decidable (k.request.isRequest = true ∧ k.call = k.request ∧ k.read.isNone))

instance (w : NotedAuth) (calls : List NotedAuthCall) (k : NotedAuthCall) (drawn : Drawn) :
    Decidable (Timely w calls k drawn) := inferInstanceAs (Decidable (w.now ≤ drawn.now))

/-- Ann registers, is resolved, logs out, and is resolved no more. -/
theorem annVisits_played : (((authNoted plain).play Timely annVisits).any fun c =>
    c.calls.map (fun k => (k.request, k.call)) =
      [(.register " ann " "pw",
          .ended (.opened ⟨⟨"u1", "ann"⟩, "t1", 3 + SESSION_DURATION_MS⟩)),
        (.resolveAccount (some "t1"), .ended (.resolved (some ⟨"u1", "ann"⟩))),
        (.logout (some "t1"), .ended .loggedOut),
        (.resolveAccount (some "t1"), .ended (.resolved none))] ∧
    c.shared.ledger.length = 2) = true := by
  decide +kernel

/-- Ann's token is hers before she logs out, and nobody's afterwards. -/
theorem authNoted_resolves_annVisits : ∃ c, (authNoted plain).Run Timely c ∧
    (∃ k ∈ c.calls, ∃ ledger now, k.read = some (ledger, now) ∧ ledger <:+ c.shared.ledger ∧
      some "u1" = holder plain "t1" now ledger) ∧
    ∃ k ∈ c.calls, ∃ ledger now, k.read = some (ledger, now) ∧ ledger <:+ c.shared.ledger ∧
      none = holder plain "t1" now ledger := by
  obtain ⟨c, hplay, hcalls⟩ := Option.any_eq_true _ _ |>.1 annVisits_played
  have hrun : (authNoted plain).Run Timely c := .of_play hplay
  have hresolved : ∀ answer, ((.resolveAccount (some "t1"), .ended (.resolved answer)) :
      AuthCall × AuthCall) ∈ c.calls.map (fun k => (k.request, k.call)) →
      ∃ k ∈ c.calls, ∃ ledger now, k.read = some (ledger, now) ∧ ledger <:+ c.shared.ledger ∧
        answer.map AuthenticatedAccount.accountId = holder plain "t1" now ledger := by
    intro answer hmem
    obtain ⟨k, hk, heq⟩ := List.mem_map.1 hmem
    obtain ⟨hrequest, hcall⟩ := Prod.mk.inj heq
    obtain ⟨ledger, now, hread, hledger, -, hholder, -⟩ :=
      authNoted_resolves hrun hk (by decide) hrequest hcall
    exact ⟨k, hk, ledger, now, hread, hledger, hholder⟩
  rw [(of_decide_eq_true hcalls).1] at hresolved
  exact ⟨c, hrun, hresolved (some ⟨"u1", "ann"⟩) (by simp), hresolved none (by simp)⟩

/-- However calls interleave, no two accounts share a name, and every token ever issued for an
account was issued to who presented the name and the password that the account was registered
with. -/
theorem authNoted_attests (h : (authNoted C).Run Timely c)
    (hverify : ∀ password salt presented,
      C.verify (C.hash password salt) presented = true ↔ presented = password) :
    (c.shared.auth.accountsById.values.map UserAccount.username).Nodup ∧
    ∀ token accountId expiresAt request,
    .issued token accountId expiresAt request ∈ c.shared.ledger →
      ∃ account username password, c.shared.auth.findById accountId = some account ∧
        (account, .register username password) ∈ c.shared.registered ∧
        ∃ name, trim name = trim username ∧
          (request = .register name password ∨ request = .login name password) := by
  obtain ⟨hholds, -⟩ := authNoted_holds h
  refine ⟨hholds.usernames, fun token accountId expiresAt request hmem => ?_⟩
  obtain ⟨account, hfound, hattests⟩ := hholds.attested _ _ _ _ hmem
  obtain ⟨-, hvalue⟩ := hholds.findById_eq_some hfound
  obtain ⟨_, hregistered, hregisters, username, password, rfl⟩ := hholds.known _ hvalue
  obtain ⟨hname, salt, hhash⟩ := hregisters
  refine ⟨account, username, password, hfound, hregistered, ?_⟩
  cases request with
  | register name presented =>
    obtain ⟨hname', salt', hhash'⟩ := hattests
    have hsame : presented = password :=
      (hverify password salt presented).1
        (hhash ▸ hhash' ▸ (hverify presented salt' presented).2 rfl)
    exact ⟨name, hname'.trans hname.symm, .inl (hsame ▸ rfl)⟩
  | login name presented =>
    obtain ⟨hname', hverified⟩ := hattests
    have hsame := (hverify password salt presented).1 (hhash ▸ hverified)
    exact ⟨name, hname'.trans hname.symm, .inr (hsame ▸ rfl)⟩
  | _ => exact absurd hattests id

/-- Her session was issued to an account that is there. -/
theorem authNoted_attests_annVisits : ∃ c, (authNoted plain).Run Timely c ∧
    c.shared.ledger.length = 2 ∧
    ∀ token accountId expiresAt request,
    .issued token accountId expiresAt request ∈ c.shared.ledger →
      ∃ account, c.shared.auth.findById accountId = some account := by
  obtain ⟨c, hplay, hcalls⟩ := Option.any_eq_true _ _ |>.1 annVisits_played
  have hrun : (authNoted plain).Run Timely c := .of_play hplay
  obtain ⟨-, hissued⟩ := authNoted_attests hrun fun password _ presented =>
    decide_eq_true_iff.trans ⟨Eq.symm, Eq.symm⟩
  refine ⟨c, hrun, (of_decide_eq_true hcalls).2, fun token accountId expiresAt request hmem => ?_⟩
  obtain ⟨account, -, -, hfound, -⟩ := hissued token accountId expiresAt request hmem
  exact ⟨account, hfound⟩

end

end HereToSlaughter
