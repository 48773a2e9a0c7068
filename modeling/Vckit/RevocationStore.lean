/-
**The methods of `RevocationDataStore`.**

Each method is the program its TypeScript body performs: the operations in the order in which
they are awaited, the branches on their answers, and the `catch` blocks, which wrap every error
that passes through them in a new one.  Nothing is said here about what else runs between two
operations; that is decided by whoever runs the program.

Main definitions:

* `Revocation.RevocationData.advance` — the counters handed out after a row's;
* `Revocation.listPath` — the path a status list is stored and served under;
* `Revocation.upsertRevocationData`, `Revocation.upsertRevocationList`,
  `Revocation.updateRevocationListVC`, `Revocation.issueRevocationData` — the methods that write;
* `Revocation.getRevocationListVC`, `Revocation.getRevocationList` — the methods that read a list
  back by its path.

Main results:

* `Revocation.listPath_inj` — what makes two list paths equal;
* `Revocation.colon_not_mem_listPath` — a list path holds no colon.
-/

import Vckit.RevocationTypes

set_option relaxedAutoImplicit false
set_option autoImplicit false

namespace Revocation

/-! ### Paths -/

/-- The constant start of every list path. -/
def listPathPrefix : Text := "/credentials/status/revocation-list-2020/".toList

/-- `/credentials/status/revocation-list-2020/${did.replaceAll(':', '_')}/${listCounter}`. -/
def listPath (did : Text) (listCounter : ℕ) : Text :=
  listPathPrefix ++ Text.replaceAll ':' '_' did ++ '/' :: Text.ofNat listCounter

/-- **Two list paths are equal** when their counters are, and their issuers are the same up to
colons and underscores. -/
theorem listPath_inj {did did' : Text} {m n : ℕ} :
    listPath did m = listPath did' n ↔
      Text.replaceAll ':' '_' did = Text.replaceAll ':' '_' did' ∧ m = n := by
  have hslash : '/'.isDigit = false := by decide
  rw [listPath, listPath, Text.append_sep_ofNat_inj hslash, List.append_right_inj]

theorem colon_not_mem_listPath (did : Text) (n : ℕ) : ':' ∉ listPath did n := by
  have hpre : ':' ∉ listPathPrefix := by decide
  have hdid : ':' ∉ Text.replaceAll ':' '_' did := Text.not_mem_replaceAll (by decide) did
  have hnum : ':' ∉ Text.ofNat n := Text.not_mem_ofNat (by decide) n
  simp [listPath, hpre, hdid, hnum]

theorem listPath_ne_nil (did : Text) (n : ℕ) : listPath did n ≠ [] := by
  simp [listPath]

/-! ### Locks -/

/-- A caller's context: whether it carries an agent. -/
structure Context where
  agent : Bool
  deriving DecidableEq

/-- `name` of `LockNotSupportedOnGivenDriverError`. -/
def lockNotSupported : Text := "LockNotSupportedOnGivenDriverError".toList

/-- The `catch` of the two lock methods: a driver without locks goes on unlocked. -/
def ignoreLockNotSupported (err : JsError) : StoreM Unit :=
  if err.name = lockNotSupported then .ret () else .throw err

def lockRevocationData (query : DataKey) : StoreM Unit :=
  (perform (.lockData query)).tryCatch ignoreLockNotSupported

def lockRevocationList (query : ListQuery) : StoreM Unit :=
  (perform (.lockList query)).tryCatch ignoreLockNotSupported

/-! ### Counters -/

/-- The counters handed out after those of a loaded row: the next index, or index zero of the next
list when the list is full or another length is asked for. -/
def RevocationData.advance (revocationData : RevocationData) (bitStringLength : ℕ) :
    RevocationData :=
  if bitStringLength ≠ revocationData.bitStringLength ∨
      revocationData.bitStringLength ≤ revocationData.indexCounter + 1 then
    { revocationData with
      listCounter := revocationData.listCounter + 1
      indexCounter := 0
      bitStringLength :=
        if bitStringLength ≠ revocationData.bitStringLength then bitStringLength
        else revocationData.bitStringLength }
  else
    { revocationData with indexCounter := revocationData.indexCounter + 1 }

structure UpsertRevocationDataArgs where
  revocationListUrlPath : Text
  revocationVCIdentifierDid : Text
  bitStringLength : ℕ

def upsertRevocationData (args : UpsertRevocationDataArgs) : StoreM RevocationData := do
  lockRevocationData ⟨args.revocationListUrlPath, args.revocationVCIdentifierDid⟩
  let found : Option RevocationData ← perform
    (.findOneData ⟨args.revocationListUrlPath, args.revocationVCIdentifierDid⟩)
  match found with
  | none =>
      perform (.insertData
        { revocationListUrlPath := args.revocationListUrlPath
          revocationVCIssuer := args.revocationVCIdentifierDid
          bitStringLength := args.bitStringLength })
  | some revocationData =>
      perform (.updateData (revocationData.advance args.bitStringLength))

/-! ### Lists -/

section Library

variable (lib : VcStatusRl2020)

/-- `bitStringLengthOrList` is a length for a new list, or the list itself. -/
def createRevocationListVC (revocationListFullUrlPath : Text)
    (bitStringLengthOrList : ℕ ⊕ RevocationList2020) (revocationVCIssuer : Text)
    (context : Context) : StoreM ListCredential :=
  if context.agent = false then .throw (JsError.ofMessage "Agent not available".toList)
  else do
    let list ← Prog.ofExcept (bitStringLengthOrList.elim lib.createList Except.ok)
    let credentialList ← Prog.ofExcept (lib.createCredential revocationListFullUrlPath list)
    perform
      (.createVerifiableCredential { credentialList with issuer := revocationVCIssuer })

structure UpsertRevocationListArgs where
  revocationListFullUrlPath : Text
  revocationVCIdentifierDid : Text
  revocationVCIssuer : Text
  bitStringLength : ℕ
  revocationListUrlPath : Text
  req : Context

/-- A list created for a path that has none yet. -/
def createRevocationList (args : UpsertRevocationListArgs) : StoreM RevocationList := do
  let revocationListVC ← createRevocationListVC lib
    (args.revocationListUrlPath ++ args.revocationListFullUrlPath) (.inl args.bitStringLength)
    args.revocationVCIssuer args.req
  perform (.insertList
    { revocationListFullUrlPath := args.revocationListFullUrlPath
      revocationVCIssuer := args.revocationVCIdentifierDid
      verifiableCredential := revocationListVC })

def upsertRevocationList (args : UpsertRevocationListArgs) : StoreM RevocationList :=
  Prog.mapError JsError.rewrap do
    lockRevocationList ⟨args.revocationListFullUrlPath, some args.revocationVCIdentifierDid⟩
    let found : Option RevocationList ← perform
      (.findOneList ⟨args.revocationListFullUrlPath, some args.revocationVCIdentifierDid⟩)
    match found with
    | none => createRevocationList lib args
    | some revocationList =>
        if revocationList.revocationListFullUrlPath ≠ args.revocationListFullUrlPath then
          createRevocationList lib args
        else
          -- the loaded entity is saved as it was read
          perform (.updateList revocationList)

def getRevocationListVC (revocationListFullUrlPath : Text) : StoreM ListCredential :=
  Prog.mapError JsError.rewrap do
    let found : Option RevocationList ← perform (.findOneList ⟨revocationListFullUrlPath, none⟩)
    match found with
    | none => .throw (JsError.ofMessage "Revocation List not found".toList)
    | some revocationList => .ret revocationList.verifiableCredential

def getRevocationList (revocationListFullUrlPath : Text) : StoreM RevocationList :=
  Prog.mapError JsError.rewrap do
    let found : Option RevocationList ← perform (.findOneList ⟨revocationListFullUrlPath, none⟩)
    match found with
    | none => .throw (JsError.ofMessage "Revocation List not found".toList)
    | some revocationList => .ret revocationList

structure UpdateRevocationListVCArgs where
  context : Context
  revocationList : RevocationList
  index : Option ℕ
  revoked : Bool

def updateRevocationListVC (args : UpdateRevocationListVCArgs) : StoreM Unit :=
  Prog.mapError JsError.rewrap do
    let vc := args.revocationList.verifiableCredential
    let decoded ← Prog.ofExcept (lib.decodeList vc.encodedList)
    let revocationList2020 ← Prog.ofExcept (lib.setRevoked decoded args.index args.revoked)
    let revocationListVc ←
      createRevocationListVC lib vc.id (.inr revocationList2020) vc.issuer args.context
    let _ ← perform
      (.updateList { args.revocationList with verifiableCredential := revocationListVc })
    return ()

/-! ### Issuing -/

/-- The arguments of `issueRevocationData`.  A path or a length that is missing is empty or
zero, which the code tests alike. -/
structure IRevocationListDataArgs where
  revocationListPath : Text
  bitStringLength : ℕ
  revocationVCIssuer : Text
  req : Context

/-- What a successful allocation returns. -/
structure RevocationDataResult where
  revocationListFullUrl : Text
  indexCounter : ℕ
  deriving DecidableEq

/-- Two entries of one issuer under one base path are equal when their counters are. -/
theorem entry_inj {path did : Text} {m n i j : ℕ} :
    (⟨path ++ listPath did m, i⟩ : RevocationDataResult) = ⟨path ++ listPath did n, j⟩ ↔
      m = n ∧ i = j := by
  rw [RevocationDataResult.mk.injEq, List.append_right_inj, listPath_inj, and_iff_right rfl]

/-- `await req.agent?.execute('didManagerGet', …)` and the access to `.did` of its answer. -/
def revocationVCIdentifier (args : IRevocationListDataArgs) : StoreM Identifier :=
  if args.req.agent = false then
    .throw ⟨"TypeError".toList, "Cannot read properties of undefined (reading 'did')".toList⟩
  else
    (perform (.didManagerGet args.revocationVCIssuer)).tryCatch fun _ =>
      .throw (JsError.ofMessage
        "invalid_argument: credential.issuer must be a DID managed by this agent.".toList)

def issueRevocationData (args : IRevocationListDataArgs) : StoreM RevocationDataResult :=
  Prog.mapError JsError.rewrap
    (if args.revocationListPath = [] then
      .throw (JsError.ofMessage "Revocation List Path not provided".toList)
    else if args.bitStringLength = 0 then
      .throw (JsError.ofMessage "Bit String Length not provided".toList)
    else do
      let identifier ← revocationVCIdentifier args
      let revocationData ← upsertRevocationData
        { revocationListUrlPath := args.revocationListPath
          revocationVCIdentifierDid := identifier.did
          bitStringLength := args.bitStringLength }
      let revocationListFullUrlPath := listPath identifier.did revocationData.listCounter
      let _ ← upsertRevocationList lib
        { revocationListFullUrlPath
          revocationVCIdentifierDid := identifier.did
          revocationVCIssuer := args.revocationVCIssuer
          bitStringLength := args.bitStringLength
          revocationListUrlPath := args.revocationListPath
          req := args.req }
      return {
        revocationListFullUrl := args.revocationListPath ++ revocationListFullUrlPath
        indexCounter := revocationData.indexCounter })

end Library

end Revocation
