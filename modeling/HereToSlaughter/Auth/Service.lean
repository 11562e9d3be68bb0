import HereToSlaughter.Lib.Interleaving
import HereToSlaughter.Lib.OrderedMap

/-!
# Accounts and sessions

One service registers accounts, logs them in and out, and tells whose session a browser's token
belongs to. As in the lobby, a call is modelled by the await point it stands at, with the values it
keeps across it, and each operation of the two stores is a single go.

The password hash and the token hash are not of this program; what the calls draw (ids, tokens,
salts, the time) comes from outside.

Reference: `auth/auth.service.ts`, `auth/stores/in-memory-user.repository.ts`,
`auth/stores/in-memory-session.store.ts`.
-/

namespace HereToSlaughter

open Lib

/-! ## The stores -/

/-- `UserAccount`. -/
structure UserAccount where
  id : String
  username : String
  passwordHash : String
  createdAt : Nat
  deriving DecidableEq

/-- `Session`. -/
structure Session where
  tokenHash : String
  accountId : String
  createdAt : Nat
  expiresAt : Nat
  deriving DecidableEq

/-- `AuthenticatedAccount`. -/
structure AuthenticatedAccount where
  accountId : String
  username : String
  deriving DecidableEq

/-- `AuthSession`. -/
structure AuthSession extends AuthenticatedAccount where
  token : String
  expiresAt : Nat
  deriving DecidableEq

/-- The errors a call ends with. -/
inductive AuthError
  | invalidAuthInput
  | invalidCredentials
  | usernameAlreadyExists (username : Option String)
  | accountIdAlreadyExists (accountId : String)
  | sessionTokenHashAlreadyExists
  deriving DecidableEq

/-- `SESSION_DURATION_MS`. -/
def SESSION_DURATION_MS : Nat := 30 * 24 * 60 * 60 * 1000

/-- The two stores. -/
structure Auth where
  accountsById : OrderedMap String UserAccount := .empty
  sessionsByTokenHash : OrderedMap String Session := .empty

namespace Auth

/-- `InMemoryUserRepository.findById`. -/
def findById (accountId : String) (a : Auth) : Option UserAccount := a.accountsById.get? accountId

/-- `InMemoryUserRepository.findByUsername`. -/
def findByUsername (username : String) (a : Auth) : Option UserAccount :=
  a.accountsById.values.find? fun account => account.username = username

/-- `InMemoryUserRepository.create`. -/
def createAccount (account : UserAccount) (a : Auth) : Except AuthError Auth :=
  if a.accountsById.has account.id then .error (.accountIdAlreadyExists account.id)
  else if (a.findByUsername account.username).isSome then
    .error (.usernameAlreadyExists (some account.username))
  else .ok { a with accountsById := a.accountsById.set account.id account }

/-- `InMemorySessionStore.create`. -/
def createSession (session : Session) (a : Auth) : Except AuthError Auth :=
  if a.sessionsByTokenHash.has session.tokenHash then .error .sessionTokenHashAlreadyExists
  else .ok { a with sessionsByTokenHash := a.sessionsByTokenHash.set session.tokenHash session }

/-- `InMemorySessionStore.revoke`. -/
def revoke (tokenHash : String) (a : Auth) : Auth :=
  { a with sessionsByTokenHash := a.sessionsByTokenHash.erase tokenHash }

/-- `InMemorySessionStore.findByTokenHash`: a session that has expired is removed as it is read. -/
def findByTokenHash (now : Nat) (tokenHash : String) (a : Auth) : Option Session × Auth :=
  match a.sessionsByTokenHash.get? tokenHash with
  | none => (none, a)
  | some session =>
    if session.expiresAt ≤ now then (none, a.revoke tokenHash) else (some session, a)

end Auth

/-! ## The calls -/

/-- What `argon2` and `createHash` compute. -/
structure Crypto where
  hash : (password salt : String) → String
  verify : (passwordHash password : String) → Bool
  hashSessionToken : (token : String) → String

/-- What a call is given from outside as it goes on. -/
structure Drawn where
  id : String := ""
  token : String := ""
  salt : String := ""
  now : Nat := 0

/-- What `String.prototype.trim` takes off: white space and line ends. -/
def isTrimmed (c : Char) : Bool :=
  c.toNat ∈ [0x9, 0xA, 0xB, 0xC, 0xD, 0x20, 0xA0, 0x1680, 0x2028, 0x2029, 0x202F, 0x205F, 0x3000,
    0xFEFF] || (0x2000 ≤ c.toNat && c.toNat ≤ 0x200A)

/-- `trim`. -/
def trim (text : String) : String :=
  String.ofList (((text.toList.dropWhile isTrimmed).reverse.dropWhile isTrimmed).reverse)

/-- `validateCredentials`. -/
def validateCredentials (username password : String) : Except AuthError String :=
  if trim username = "" ∨ password = "" then .error .invalidAuthInput else .ok (trim username)

/-- What a call ends with. -/
inductive AuthAnswer
  | opened (session : AuthSession)
  | loggedOut
  | resolved (account : Option AuthenticatedAccount)
  | threw (error : AuthError)
  deriving DecidableEq

/-- A call, by the await point it stands at, with what it keeps across it. -/
inductive AuthCall
  | register (username password : String)
  | registerLooked (username password : String) (existing : Option UserAccount)
  | registerHashing (username password : String)
  | registerStored (account : UserAccount)
  | login (username password : String)
  | loginLooked (password : String) (account : Option UserAccount)
  | loginVerifying (account : UserAccount) (password : String)
  | sessionStored (session : AuthSession)
  | logout (token : Option String)
  | logoutRevoked
  | resolveAccount (token : Option String)
  | resolveLooked (tokenHash : String) (session : Option Session)
  | resolveFound (tokenHash : String) (account : Option UserAccount)
  | resolveRevoked
  | ended (answer : AuthAnswer)
  deriving DecidableEq

namespace AuthCall

/-- The call as it is made. -/
def isRequest : AuthCall → Bool
  | .register .. | .login .. | .logout _ | .resolveAccount _ => true
  | _ => false

/-- `AuthService.createSession`: the token goes to the browser, its hash to the store. -/
def createSession (C : Crypto) (drawn : Drawn) (account : UserAccount) (a : Auth) :
    AuthCall × Auth :=
  let expiresAt := drawn.now + SESSION_DURATION_MS
  match a.createSession ⟨C.hashSessionToken drawn.token, account.id, drawn.now, expiresAt⟩ with
  | .error error => (.ended (.threw error), a)
  | .ok a => (.sessionStored ⟨⟨account.id, account.username⟩, drawn.token, expiresAt⟩, a)

/-- The rest of `register`, from where it stands. -/
def resumeRegister (C : Crypto) (drawn : Drawn) : AuthCall → Auth → AuthCall × Auth
  | .register username password, a =>
    match validateCredentials username password with
    | .error error => (.ended (.threw error), a)
    | .ok username => (.registerLooked username password (a.findByUsername username), a)
  | .registerLooked username password existing, a =>
    -- a username that is taken is refused before the password is hashed
    if existing.isSome then (.ended (.threw (.usernameAlreadyExists none)), a)
    else (.registerHashing username password, a)
  | .registerHashing username password, a =>
    let account : UserAccount := ⟨drawn.id, username, C.hash password drawn.salt, drawn.now⟩
    match a.createAccount account with
    | .error error => (.ended (.threw error), a)
    | .ok a => (.registerStored account, a)
  | .registerStored account, a => createSession C drawn account a
  | call, a => (call, a)

/-- The rest of `login`. -/
def resumeLogin (C : Crypto) (drawn : Drawn) : AuthCall → Auth → AuthCall × Auth
  | .login username password, a =>
    match validateCredentials username password with
    | .error error => (.ended (.threw error), a)
    | .ok username => (.loginLooked password (a.findByUsername username), a)
  | .loginLooked password account, a =>
    match account with
    | none => (.ended (.threw .invalidCredentials), a)
    | some account => (.loginVerifying account password, a)
  | .loginVerifying account password, a =>
    if C.verify account.passwordHash password then createSession C drawn account a
    else (.ended (.threw .invalidCredentials), a)
  | call, a => (call, a)

/-- The rest of `resolveAccount`. No token and an empty one are nobody's. -/
def resumeResolve (C : Crypto) (drawn : Drawn) : AuthCall → Auth → AuthCall × Auth
  | .resolveAccount token, a =>
    if token.getD "" = "" then (.ended (.resolved none), a)
    else
      let tokenHash := C.hashSessionToken (token.getD "")
      let (session, a) := a.findByTokenHash drawn.now tokenHash
      (.resolveLooked tokenHash session, a)
  | .resolveLooked tokenHash session, a =>
    match session with
    | none => (.ended (.resolved none), a)
    | some session => (.resolveFound tokenHash (a.findById session.accountId), a)
  | .resolveFound tokenHash account, a =>
    match account with
    | none => (.resolveRevoked, a.revoke tokenHash)
    | some account => (.ended (.resolved (some ⟨account.id, account.username⟩)), a)
  | .resolveRevoked, a => (.ended (.resolved none), a)
  | call, a => (call, a)

/-- One go of a call, from its await point to the next. -/
def resume (C : Crypto) (call : AuthCall) (drawn : Drawn) (a : Auth) : AuthCall × Auth :=
  match call with
  | .register .. | .registerLooked .. | .registerHashing .. | .registerStored _ =>
    call.resumeRegister C drawn a
  | .login .. | .loginLooked .. | .loginVerifying .. => call.resumeLogin C drawn a
  | .sessionStored session => (.ended (.opened session), a)
  | .logout token =>
    if token.getD "" = "" then (.ended .loggedOut, a)
    else (.logoutRevoked, a.revoke (C.hashSessionToken (token.getD "")))
  | .logoutRevoked => (.ended .loggedOut, a)
  | .resolveAccount _ | .resolveLooked .. | .resolveFound .. | .resolveRevoked =>
    call.resumeResolve C drawn a
  | .ended answer => (.ended answer, a)

end AuthCall

/-- `AuthService`, with the calls that have come in. -/
def authService (C : Crypto) : Service Auth AuthCall Drawn where
  start := {}
  begins call := call.isRequest = true
  resume := AuthCall.resume C

end HereToSlaughter
