/-
**The methods of the plugin `RevocationStatus2020`.**

`getRevocationData`, `revokeCredential` and `activateCredential` run one program of the store in
the retry loop; `checkStatus` asks the status list library.  An attempt of a call is the program run
on the tables with the answers the agent, the library and the driver give during that attempt, so a
call takes a sequence of environments, one for each attempt it may make.

Main definitions:

* `Revocation.PluginOptions` — the options of the constructor;
* `Revocation.setCredentialStatus` — the transaction that `revokeCredential` and
  `activateCredential` share, with their own guards and bits;
* `Revocation.getRevocationData`, `Revocation.revokeCredential`,
  `Revocation.activateCredential` — the methods, as calls on the tables.
-/

import Vckit.RevocationStore
import Vckit.Backoff

set_option relaxedAutoImplicit false
set_option autoImplicit false

namespace Revocation

/-- The options of the plugin that its methods read. -/
structure PluginOptions where
  revocationListPath : Text
  bitStringLength : ℕ
  deriving DecidableEq

/-- The status of a credential. -/
structure CredentialStatus where
  revoked : Bool
  deriving DecidableEq

/-- The `credentialStatus` that `revocationList2020Middleware` writes into a credential. -/
def credentialStatusOf (revocationData : RevocationDataResult) : CredentialStatusEntry where
  id := revocationData.revocationListFullUrl
  type := "RevocationList2020Status".toList
  revocationListIndex := some revocationData.indexCounter
  revocationListCredential := revocationData.revocationListFullUrl

/-! ### Transactions of the methods -/

/-- `checkStatus` of `revocation-list-2020-status.ts`. -/
def checkStatusOf (credential : Credential) : StoreM CredentialStatus := do
  let verified : Bool ← perform (.transmuteCheckStatus credential)
  return { revoked := !verified }

/-- `await context.agent?.execute('dataStoreGetVerifiableCredential', { hash })`, and the test that
it returned a credential. -/
def credentialByHash (hash : Text) (context : Context) : StoreM Credential :=
  if context.agent = false then .throw (JsError.ofMessage "Credential not found".toList)
  else do
    let found : Option Credential ← perform (.dataStoreGetVerifiableCredential hash)
    match found with
    | none => .throw (JsError.ofMessage "Credential not found".toList)
    | some credential => .ret credential

/-- The method `checkStatus`. -/
def checkStatus (hash : Text) (context : Context) : StoreM CredentialStatus := do
  let credential ← credentialByHash hash context
  checkStatusOf credential

/-- `(credential.credentialStatus?.id as string).split(this.revocationListPath)[1]`; the method of
an absent `id` cannot be called. -/
def splitStatusId (revocationListPath : Text) (credential : Credential) :
    Except JsError (Option Text) :=
  match credential.credentialStatus with
  | none =>
      .error ⟨"TypeError".toList, "Cannot read properties of undefined (reading 'split')".toList⟩
  | some entry => .ok (Text.split entry.id revocationListPath)[1]?

/-- The list path of a credential; `if (!revocationListFullUrlPath) { throw … }`. -/
def revocationListFullUrlPathOf (revocationListPath : Text) (credential : Credential) :
    Except JsError Text :=
  match splitStatusId revocationListPath credential with
  | .error e => .error e
  | .ok none => .error (JsError.ofMessage "Revocation list not found".toList)
  | .ok (some []) => .error (JsError.ofMessage "Revocation list not found".toList)
  | .ok (some path) => .ok path

/-- `credential.credentialStatus?.revocationListIndex`. -/
def Credential.revocationListIndex (credential : Credential) : Option ℕ :=
  credential.credentialStatus.bind (·.revocationListIndex)

section Library

variable (lib : VcStatusRl2020)

/-- The transaction of `revokeCredential` and of `activateCredential`: refuse when the status is
already the one asked for, else find the list by path and set the bit. -/
def setCredentialStatus (options : PluginOptions) (alreadySet : Text) (revoked : Bool) (hash : Text)
    (context : Context) : StoreM Unit := do
  let credential ← credentialByHash hash context
  let credentialStatus ← checkStatusOf credential
  if credentialStatus.revoked = revoked then .throw (JsError.ofMessage alreadySet)
  else do
    let revocationListFullUrlPath ←
      Prog.ofExcept (revocationListFullUrlPathOf options.revocationListPath credential)
    lockRevocationList ⟨revocationListFullUrlPath, none⟩
    let revocationList ← getRevocationList revocationListFullUrlPath
    updateRevocationListVC lib
      { context
        revocationList
        index := credential.revocationListIndex
        revoked }

/-- The transaction of `revokeCredential`. -/
def revokeCredentialTransaction (options : PluginOptions) (hash : Text) (context : Context) :
    StoreM Unit :=
  setCredentialStatus lib options "Credential already revoked.".toList true hash context

/-- The transaction of `activateCredential`. -/
def activateCredentialTransaction (options : PluginOptions) (hash : Text) (context : Context) :
    StoreM Unit :=
  setCredentialStatus lib options "Credential already active.".toList false hash context

/-- The transaction of `getRevocationData`; the method first overwrites the path and the length
of its arguments with the plugin's. -/
def getRevocationDataTransaction (options : PluginOptions) (revocationVCIssuer : Text)
    (req : Context) : StoreM RevocationDataResult :=
  issueRevocationData lib
    { revocationListPath := options.revocationListPath
      bitStringLength := options.bitStringLength
      revocationVCIssuer
      req }

/-! ### Calls -/

/-- What the outside world does during one attempt of a call. -/
structure AttemptEnv where
  env : Env
  commitError : Option JsError

/-- Attempt number `k` of a call that runs `program`. -/
def attemptOf {α : Type} (program : StoreM α) (envs : ℕ → AttemptEnv) (k : ℕ) : Attempt Db α where
  callback := Prog.run (serve (envs k).env) program
  commitError := (envs k).commitError

@[simp] theorem callback_attemptOf {α : Type} (program : StoreM α) (envs : ℕ → AttemptEnv) (k : ℕ) :
    (attemptOf program envs k).callback = Prog.run (serve (envs k).env) program := rfl

/-- A call of a method whose transaction is `program`: how the retry loop ends, what the callback
returned, and the tables. -/
def callTransaction {α : Type} (program : StoreM α) (envs : ℕ → AttemptEnv) (db : Db) :
    Except JsError (Option α) × Db :=
  match runTransactionWithExponentialBackoff (attemptOf program envs) defaultMaxRetries
      defaultBaseDelay db with
  | ((.ok (), v), db') => (.ok v.data, db')
  | ((.error e, _), db') => (.error e, db')

/-- `getRevocationData`.  It resolves to `undefined` (`none`) when no attempt assigned `data`. -/
def getRevocationData (options : PluginOptions) (revocationVCIssuer : Text) (req : Context)
    (envs : ℕ → AttemptEnv) (db : Db) : Except JsError (Option RevocationDataResult) × Db :=
  callTransaction (getRevocationDataTransaction lib options revocationVCIssuer req) envs db

/-- A method that resolves to `status` whenever its transaction loop does. -/
def resolveStatus (status : CredentialStatus) :
    Except JsError (Option Unit) × Db → Except JsError CredentialStatus × Db
  | (.ok _, db) => (.ok status, db)
  | (.error e, db) => (.error e, db)

/-- `revokeCredential`. -/
def revokeCredential (options : PluginOptions) (hash : Text) (context : Context)
    (envs : ℕ → AttemptEnv) (db : Db) : Except JsError CredentialStatus × Db :=
  resolveStatus { revoked := true }
    (callTransaction (revokeCredentialTransaction lib options hash context) envs db)

/-- `activateCredential`. -/
def activateCredential (options : PluginOptions) (hash : Text) (context : Context)
    (envs : ℕ → AttemptEnv) (db : Db) : Except JsError CredentialStatus × Db :=
  resolveStatus { revoked := false }
    (callTransaction (activateCredentialTransaction lib options hash context) envs db)

end Library

end Revocation
