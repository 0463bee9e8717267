/-
# The wallet bindings as calls

`py_monero_bind_wallet` (`wallet/py_monero_wallet_bindings.cpp`) binds 137 lambdas on
`MoneroWallet`.  Each takes the arguments of a Python call and invokes one operation of
`monero_wallet`.  This module has one constructor of `WalletCall` for each bound lambda, with
the arguments pybind11 hands to it, one constructor of `CoreCall` for each operation that can
be invoked, with the parameters that operation receives, and `WalletCall.invoke`, which is
the lambda bodies.

The signatures and the default arguments of the core operations are those of the overrides in
`PyMoneroWallet` (`wallet/py_monero_wallet.h`), which is the static type of `self` in the
lambdas.  Six operations have no override there (`get_path`, `stop_syncing`, `tag_accounts`,
`untag_accounts`, `get_account_tags`, `set_account_tag_label`); they stand at the end with
the arguments the lambdas pass.

Overloads of one name get a suffix.  Default arguments of the bindings and of the core are
default arguments of the constructors.  Objects that Python hands over by pointer or by
reference are elements of an arbitrary type `ρ`.
-/
import Mathlib.Tactic.Common

namespace MoneroPython.Wallet

/-! ## 1. The values that are handed over -/

/-- `monero_message_signature_type`. -/
inductive MoneroMessageSignatureType where
  | signWithSpendKey
  | signWithViewKey
deriving DecidableEq

/-- The criteria that `monero_tx_query` declares. -/
structure MoneroTxQuery (ρ : Type) where
  isOutgoing : Option Bool := none
  isIncoming : Option Bool := none
  hashes : List String := []
  hasPaymentId : Option Bool := none
  paymentIds : List String := []
  height : Option UInt64 := none
  minHeight : Option UInt64 := none
  maxHeight : Option UInt64 := none
  includeOutputs : Option Bool := none
  transferQuery : Option ρ := none
  inputQuery : Option ρ := none
  outputQuery : Option ρ := none

/-- The criteria of a `monero_transfer_query`. -/
structure MoneroTransferQuery (ρ : Type) where
  accountIndex : Option UInt32 := none
  incoming : Option Bool := none
  address : Option String := none
  addresses : List String := []
  subaddressIndex : Option UInt32 := none
  subaddressIndices : List UInt32 := []
  destinations : List ρ := []
  hasDestinations : Option Bool := none
  txQuery : Option ρ := none

/-- The criteria of a `monero_output_query`. -/
structure MoneroOutputQuery (ρ : Type) where
  subaddressIndices : List UInt32 := []
  minAmount : Option UInt64 := none
  maxAmount : Option UInt64 := none
  txQuery : Option ρ := none

/-- `monero_tx_set`. -/
structure MoneroTxSet (ρ : Type) where
  txs : List ρ := []
  signedTxHex : Option String := none
  unsignedTxHex : Option String := none
  multisigTxHex : Option String := none

/-- A value that is passed, with its C++ type. -/
inductive Arg (ρ : Type) where
  | u8 (v : UInt8) | u16 (v : UInt16) | u32 (v : UInt32) | u64 (v : UInt64) | int (v : Int32)
  | bool (v : Bool) | str (v : String)
  | optBool (v : Option Bool) | optU64 (v : Option UInt64)
  | u32s (v : List UInt32) | u64s (v : List UInt64) | strs (v : List String)
  | ref (v : ρ) | optRef (v : Option ρ) | refs (v : List ρ)
  | txQuery (v : MoneroTxQuery ρ) | transferQuery (v : MoneroTransferQuery ρ)
  | outputQuery (v : MoneroOutputQuery ρ) | txSet (v : MoneroTxSet ρ)
  | signatureType (v : MoneroMessageSignatureType)

/-- The parameter names of the bindings (`py::arg`) and of the core operations. -/
inductive Param where
  | connection | isTrusted | uri | username | password | proxy | accountIdx | subaddressIdx
  | address | standardAddress | paymentId | integratedAddress | restoreHeight | year | month
  | day | listener | startHeight | syncPeriodInMs | txHashes | includeSubaddresses | tag
  | label | subaddressIndices | txHash | query | accountIndex | subaddressIndex | all
  | outputsHex | keyImages | offset | keyImage | config | relay | txMetadata | tx | txs
  | txMetadatas | txSet | unsignedTxHex | multisigTxHex | signedTxHex | msg | signatureType
  | signature | txKey | message | amount | note | notes | indices | description | index
  | setAddress | setDescription | accountIndices | key | val | numThreads | backgroundMining
  | ignoreBattery | multisigHexes | threshold | refreshAfterImport | signedMultisigTxHex
  | oldPassword | newPassword | path | save | value
deriving DecidableEq

/-! ## 2. The operations of the core -/

/-- A call of an operation of `monero_wallet`, with the value of each parameter. -/
inductive CoreCall (ρ : Type) where
  | isViewOnly
  | setDaemonConnectionUri (uri : String) (username password proxy : String := "") (isTrusted :
      Option Bool := none)
  | setDaemonConnection (connection : Option ρ) (isTrusted : Option Bool := none)
  | getDaemonConnection | isConnectedToDaemon | isDaemonSynced | isDaemonTrusted | isSynced
  | getVersion | getNetworkType | getSeed | getSeedLanguage | getPublicViewKey
  | getPrivateViewKey | getPublicSpendKey | getPrivateSpendKey | getPrimaryAddress
  | getAddress (accountIdx subaddressIdx : UInt32)
  | getAddressIndex (address : String)
  | getIntegratedAddress (standardAddress paymentId : String := "")
  | decodeIntegratedAddress (integratedAddress : String)
  | getHeight | getRestoreHeight
  | setRestoreHeight (restoreHeight : UInt64)
  | getDaemonHeight | getDaemonMaxPeerHeight
  | getHeightByDate (year : UInt16) (month day : UInt8)
  | addListener (listener : ρ)
  | removeListener (listener : ρ)
  | getListeners | sync
  | syncListener (listener : ρ)
  | syncFrom (startHeight : UInt64)
  | syncFromListener (startHeight : UInt64) (listener : ρ)
  | startSyncing (syncPeriodInMs : UInt64 := 10000)
  | scanTxs (txHashes : List String)
  | rescanSpent | rescanBlockchain | getBalance
  | getBalanceAccount (accountIdx : UInt32)
  | getBalanceSubaddress (accountIdx subaddressIdx : UInt32)
  | getUnlockedBalance
  | getUnlockedBalanceAccount (accountIdx : UInt32)
  | getUnlockedBalanceSubaddress (accountIdx subaddressIdx : UInt32)
  | getAccounts
  | getAccountsIncluding (includeSubaddresses : Bool)
  | getAccountsTag (tag : String)
  | getAccountsIncludingTag (includeSubaddresses : Bool) (tag : String)
  | getAccount (accountIdx : UInt32)
  | getAccountIncluding (accountIdx : UInt32) (includeSubaddresses : Bool)
  | createAccount (label : String := "")
  | getSubaddresses (accountIdx : UInt32)
  | getSubaddressesIndices (accountIdx : UInt32) (subaddressIndices : List UInt32)
  | getSubaddress (accountIdx subaddressIdx : UInt32)
  | createSubaddress (accountIdx : UInt32) (label : String := "")
  | setSubaddressLabel (accountIdx subaddressIdx : UInt32) (label : String := "")
  | getTxs
  | getTxsQuery (query : MoneroTxQuery ρ)
  | getTransfers (query : MoneroTransferQuery ρ)
  | getOutputs (query : MoneroOutputQuery ρ)
  | exportOutputs (all : Bool := false)
  | importOutputs (outputsHex : String)
  | exportKeyImages (all : Bool := false)
  | importKeyImages (keyImages : List ρ) (offset : UInt64 := 0)
  | freezeOutput (keyImage : String)
  | thawOutput (keyImage : String)
  | isOutputFrozen (keyImage : String)
  | getDefaultFeePriority
  | createTx (config : ρ)
  | createTxs (config : ρ)
  | sweepUnlocked (config : ρ)
  | sweepOutput (config : ρ)
  | sweepDust (relay : Bool)
  | relayTxMetadata (txMetadata : String)
  | relayTx (tx : ρ)
  | relayTxs (txs : List ρ)
  | relayTxsMetadatas (txMetadatas : List String)
  | describeTxSet (txSet : MoneroTxSet ρ)
  | signTxs (unsignedTxHex : String)
  | submitTxs (signedTxHex : String)
  | signMessage (msg : String) (signatureType : MoneroMessageSignatureType) (accountIdx
      subaddressIdx : UInt32 := 0)
  | verifyMessage (msg address signature : String)
  | getTxKey (txHash : String)
  | checkTxKey (txHash txKey address : String)
  | getTxProof (txHash address message : String)
  | checkTxProof (txHash address message signature : String)
  | getSpendProof (txHash message : String)
  | checkSpendProof (txHash message signature : String)
  | getReserveProofWallet (message : String)
  | getReserveProofAccount (accountIdx : UInt32) (amount : UInt64) (message : String)
  | checkReserveProof (address message signature : String)
  | getTxNote (txHash : String)
  | getTxNotes (txHashes : List String)
  | setTxNote (txHash note : String)
  | setTxNotes (txHashes notes : List String)
  | getAddressBookEntries (indices : List UInt64)
  | addAddressBookEntry (address description : String)
  | editAddressBookEntry (index : UInt64) (setAddress : Bool) (address : String) (setDescription :
      Bool) (description : String)
  | deleteAddressBookEntry (index : UInt64)
  | getPaymentUri (config : ρ)
  | parsePaymentUri (uri : String)
  | getAttribute (key value : String)
  | setAttribute (key val : String)
  | startMining (numThreads : Option UInt64) (backgroundMining ignoreBattery : Option Bool)
  | stopMining | waitForNextBlock | isMultisigImportNeeded | isMultisig | getMultisigInfo
  | prepareMultisig
  | makeMultisig (multisigHexes : List String) (threshold : Int32) (password : String)
  | exchangeMultisigKeys (multisigHexes : List String) (password : String)
  | exportMultisigHex
  | importMultisigHex (multisigHexes : List String) (refreshAfterImport : Bool := true)
  | signMultisigTxHex (multisigTxHex : String)
  | submitMultisigTxHex (signedMultisigTxHex : String)
  | changePassword (oldPassword newPassword : String)
  | moveTo (path password : String)
  | save
  | close (save : Bool := false)
  | isClosed | getPath | stopSyncing
  | tagAccounts (tag : String) (accountIndices : List UInt32)
  | untagAccounts (accountIndices : List UInt32)
  | getAccountTags
  | setAccountTagLabel (tag label : String)

/-- The parameters of a core call, in the order of the operation's signature. -/
def CoreCall.params {ρ : Type} : CoreCall ρ → List (Param × Arg ρ)
  | .setDaemonConnectionUri uri username password proxy isTrusted =>
    [(.uri, .str uri), (.username, .str username), (.password, .str password), (.proxy, .str
     proxy), (.isTrusted, .optBool isTrusted)]
  | .setDaemonConnection connection isTrusted =>
    [(.connection, .optRef connection), (.isTrusted, .optBool isTrusted)]
  | .getAddress accountIdx subaddressIdx =>
    [(.accountIdx, .u32 accountIdx), (.subaddressIdx, .u32 subaddressIdx)]
  | .getAddressIndex address => [(.address, .str address)]
  | .getIntegratedAddress standardAddress paymentId =>
    [(.standardAddress, .str standardAddress), (.paymentId, .str paymentId)]
  | .decodeIntegratedAddress integratedAddress => [(.integratedAddress, .str integratedAddress)]
  | .setRestoreHeight restoreHeight => [(.restoreHeight, .u64 restoreHeight)]
  | .getHeightByDate year month day => [(.year, .u16 year), (.month, .u8 month), (.day, .u8 day)]
  | .addListener listener => [(.listener, .ref listener)]
  | .removeListener listener => [(.listener, .ref listener)]
  | .syncListener listener => [(.listener, .ref listener)]
  | .syncFrom startHeight => [(.startHeight, .u64 startHeight)]
  | .syncFromListener startHeight listener =>
    [(.startHeight, .u64 startHeight), (.listener, .ref listener)]
  | .startSyncing syncPeriodInMs => [(.syncPeriodInMs, .u64 syncPeriodInMs)]
  | .scanTxs txHashes => [(.txHashes, .strs txHashes)]
  | .getBalanceAccount accountIdx => [(.accountIdx, .u32 accountIdx)]
  | .getBalanceSubaddress accountIdx subaddressIdx =>
    [(.accountIdx, .u32 accountIdx), (.subaddressIdx, .u32 subaddressIdx)]
  | .getUnlockedBalanceAccount accountIdx => [(.accountIdx, .u32 accountIdx)]
  | .getUnlockedBalanceSubaddress accountIdx subaddressIdx =>
    [(.accountIdx, .u32 accountIdx), (.subaddressIdx, .u32 subaddressIdx)]
  | .getAccountsIncluding includeSubaddresses =>
    [(.includeSubaddresses, .bool includeSubaddresses)]
  | .getAccountsTag tag => [(.tag, .str tag)]
  | .getAccountsIncludingTag includeSubaddresses tag =>
    [(.includeSubaddresses, .bool includeSubaddresses), (.tag, .str tag)]
  | .getAccount accountIdx => [(.accountIdx, .u32 accountIdx)]
  | .getAccountIncluding accountIdx includeSubaddresses =>
    [(.accountIdx, .u32 accountIdx), (.includeSubaddresses, .bool includeSubaddresses)]
  | .createAccount label => [(.label, .str label)]
  | .getSubaddresses accountIdx => [(.accountIdx, .u32 accountIdx)]
  | .getSubaddressesIndices accountIdx subaddressIndices =>
    [(.accountIdx, .u32 accountIdx), (.subaddressIndices, .u32s subaddressIndices)]
  | .getSubaddress accountIdx subaddressIdx =>
    [(.accountIdx, .u32 accountIdx), (.subaddressIdx, .u32 subaddressIdx)]
  | .createSubaddress accountIdx label => [(.accountIdx, .u32 accountIdx), (.label, .str label)]
  | .setSubaddressLabel accountIdx subaddressIdx label =>
    [(.accountIdx, .u32 accountIdx), (.subaddressIdx, .u32 subaddressIdx), (.label, .str label)]
  | .getTxsQuery query => [(.query, .txQuery query)]
  | .getTransfers query => [(.query, .transferQuery query)]
  | .getOutputs query => [(.query, .outputQuery query)]
  | .exportOutputs all => [(.all, .bool all)]
  | .importOutputs outputsHex => [(.outputsHex, .str outputsHex)]
  | .exportKeyImages all => [(.all, .bool all)]
  | .importKeyImages keyImages offset => [(.keyImages, .refs keyImages), (.offset, .u64 offset)]
  | .freezeOutput keyImage => [(.keyImage, .str keyImage)]
  | .thawOutput keyImage => [(.keyImage, .str keyImage)]
  | .isOutputFrozen keyImage => [(.keyImage, .str keyImage)]
  | .createTx config => [(.config, .ref config)]
  | .createTxs config => [(.config, .ref config)]
  | .sweepUnlocked config => [(.config, .ref config)]
  | .sweepOutput config => [(.config, .ref config)]
  | .sweepDust relay => [(.relay, .bool relay)]
  | .relayTxMetadata txMetadata => [(.txMetadata, .str txMetadata)]
  | .relayTx tx => [(.tx, .ref tx)]
  | .relayTxs txs => [(.txs, .refs txs)]
  | .relayTxsMetadatas txMetadatas => [(.txMetadatas, .strs txMetadatas)]
  | .describeTxSet txSet => [(.txSet, .txSet txSet)]
  | .signTxs unsignedTxHex => [(.unsignedTxHex, .str unsignedTxHex)]
  | .submitTxs signedTxHex => [(.signedTxHex, .str signedTxHex)]
  | .signMessage msg signatureType accountIdx subaddressIdx =>
    [(.msg, .str msg), (.signatureType, .signatureType signatureType), (.accountIdx, .u32
     accountIdx), (.subaddressIdx, .u32 subaddressIdx)]
  | .verifyMessage msg address signature =>
    [(.msg, .str msg), (.address, .str address), (.signature, .str signature)]
  | .getTxKey txHash => [(.txHash, .str txHash)]
  | .checkTxKey txHash txKey address =>
    [(.txHash, .str txHash), (.txKey, .str txKey), (.address, .str address)]
  | .getTxProof txHash address message =>
    [(.txHash, .str txHash), (.address, .str address), (.message, .str message)]
  | .checkTxProof txHash address message signature =>
    [(.txHash, .str txHash), (.address, .str address), (.message, .str message), (.signature, .str
     signature)]
  | .getSpendProof txHash message => [(.txHash, .str txHash), (.message, .str message)]
  | .checkSpendProof txHash message signature =>
    [(.txHash, .str txHash), (.message, .str message), (.signature, .str signature)]
  | .getReserveProofWallet message => [(.message, .str message)]
  | .getReserveProofAccount accountIdx amount message =>
    [(.accountIdx, .u32 accountIdx), (.amount, .u64 amount), (.message, .str message)]
  | .checkReserveProof address message signature =>
    [(.address, .str address), (.message, .str message), (.signature, .str signature)]
  | .getTxNote txHash => [(.txHash, .str txHash)]
  | .getTxNotes txHashes => [(.txHashes, .strs txHashes)]
  | .setTxNote txHash note => [(.txHash, .str txHash), (.note, .str note)]
  | .setTxNotes txHashes notes => [(.txHashes, .strs txHashes), (.notes, .strs notes)]
  | .getAddressBookEntries indices => [(.indices, .u64s indices)]
  | .addAddressBookEntry address description =>
    [(.address, .str address), (.description, .str description)]
  | .editAddressBookEntry index setAddress address setDescription description =>
    [(.index, .u64 index), (.setAddress, .bool setAddress), (.address, .str address),
     (.setDescription, .bool setDescription), (.description, .str description)]
  | .deleteAddressBookEntry index => [(.index, .u64 index)]
  | .getPaymentUri config => [(.config, .ref config)]
  | .parsePaymentUri uri => [(.uri, .str uri)]
  | .getAttribute key value => [(.key, .str key), (.value, .str value)]
  | .setAttribute key val => [(.key, .str key), (.val, .str val)]
  | .startMining numThreads backgroundMining ignoreBattery =>
    [(.numThreads, .optU64 numThreads), (.backgroundMining, .optBool backgroundMining),
     (.ignoreBattery, .optBool ignoreBattery)]
  | .makeMultisig multisigHexes threshold password =>
    [(.multisigHexes, .strs multisigHexes), (.threshold, .int threshold), (.password, .str
     password)]
  | .exchangeMultisigKeys multisigHexes password =>
    [(.multisigHexes, .strs multisigHexes), (.password, .str password)]
  | .importMultisigHex multisigHexes refreshAfterImport =>
    [(.multisigHexes, .strs multisigHexes), (.refreshAfterImport, .bool refreshAfterImport)]
  | .signMultisigTxHex multisigTxHex => [(.multisigTxHex, .str multisigTxHex)]
  | .submitMultisigTxHex signedMultisigTxHex => [(.signedMultisigTxHex, .str signedMultisigTxHex)]
  | .changePassword oldPassword newPassword =>
    [(.oldPassword, .str oldPassword), (.newPassword, .str newPassword)]
  | .moveTo path password => [(.path, .str path), (.password, .str password)]
  | .close doSave => [(.save, .bool doSave)]
  | .tagAccounts tag accountIndices => [(.tag, .str tag), (.accountIndices, .u32s accountIndices)]
  | .untagAccounts accountIndices => [(.accountIndices, .u32s accountIndices)]
  | .setAccountTagLabel tag label => [(.tag, .str tag), (.label, .str label)]
  | _ => []

/-! ## 3. The bound lambdas -/

/-- A call that Python makes on a `MoneroWallet`: the lambda that serves it and its
arguments, with the declared default for each argument the caller leaves out. -/
inductive WalletCall (ρ : Type) where
  | isViewOnly
  | setDaemonConnection (connection : Option ρ) (isTrusted : Option Bool := none)
  | setDaemonConnectionUri (uri : String) (username password proxy : String := "") (isTrusted :
      Option Bool := none)
  | getDaemonConnection | isConnectedToDaemon | isDaemonTrusted | isSynced | getVersion
  | getPath | getNetworkType | getSeed | getSeedLanguage | getPublicViewKey | getPrivateViewKey
  | getPublicSpendKey | getPrivateSpendKey | getPrimaryAddress
  | getAddress (accountIdx subaddressIdx : UInt32)
  | getAddressIndex (address : String)
  | getIntegratedAddress (standardAddress paymentId : String := "")
  | decodeIntegratedAddress (integratedAddress : String)
  | getHeight | getRestoreHeight
  | setRestoreHeight (restoreHeight : UInt64)
  | getDaemonHeight | getDaemonMaxPeerHeight
  | getHeightByDate (year : UInt16) (month day : UInt8)
  | addListener (listener : ρ)
  | removeListener (listener : ρ)
  | getListeners | sync
  | syncListener (listener : ρ)
  | syncFrom (startHeight : UInt64)
  | syncFromListener (startHeight : UInt64) (listener : ρ)
  | startSyncing (syncPeriodInMs : UInt64 := 10000)
  | stopSyncing
  | scanTxs (txHashes : List String)
  | rescanSpent | rescanBlockchain | getBalance
  | getBalanceAccount (accountIdx : UInt32)
  | getBalanceSubaddress (accountIdx subaddressIdx : UInt32)
  | getUnlockedBalance
  | getUnlockedBalanceAccount (accountIdx : UInt32)
  | getUnlockedBalanceSubaddress (accountIdx subaddressIdx : UInt32)
  | getAccounts
  | getAccountsIncluding (includeSubaddresses : Bool)
  | getAccountsTag (tag : String)
  | getAccountsIncludingTag (includeSubaddresses : Bool) (tag : String)
  | getAccount (accountIdx : UInt32)
  | getAccountIncluding (accountIdx : UInt32) (includeSubaddresses : Bool)
  | createAccount (label : String := "")
  | getSubaddress (accountIdx subaddressIdx : UInt32)
  | getSubaddresses (accountIdx : UInt32)
  | getSubaddressesIndices (accountIdx : UInt32) (subaddressIndices : List UInt32)
  | createSubaddress (accountIdx : UInt32) (label : String := "")
  | setSubaddressLabel (accountIdx subaddressIdx : UInt32) (label : String := "")
  | getTx (txHash : String)
  | getTxs
  | getTxsQuery (query : MoneroTxQuery ρ)
  | getTxsHashes (txHashes : List String)
  | getTransfersQuery (query : MoneroTransferQuery ρ)
  | getTransfers
  | getTransfersAccount (accountIndex : UInt32)
  | getTransfersSubaddress (accountIndex subaddressIndex : UInt32)
  | getOutputsQuery (query : MoneroOutputQuery ρ)
  | getOutputs
  | exportOutputs (all : Bool := false)
  | importOutputs (outputsHex : String)
  | exportKeyImages (all : Bool := false)
  | importKeyImages (keyImages : List ρ) (offset : UInt64 := 0)
  | getNewKeyImagesFromLastImport
  | freezeOutput (keyImage : String)
  | thawOutput (keyImage : String)
  | isOutputFrozen (keyImage : String)
  | getDefaultFeePriority
  | createTx (config : ρ)
  | createTxs (config : ρ)
  | sweepUnlocked (config : ρ)
  | sweepOutput (config : ρ)
  | sweepDust (relay : Bool := false)
  | relayTxMetadata (txMetadata : String)
  | relayTx (tx : ρ)
  | relayTxs (txs : List ρ)
  | relayTxsMetadatas (txMetadatas : List String)
  | describeTxSet (txSet : MoneroTxSet ρ)
  | describeUnsignedTxSet (unsignedTxHex : String)
  | describeMultisigTxSet (multisigTxHex : String)
  | signTxs (unsignedTxHex : String)
  | submitTxs (signedTxHex : String)
  | signMessage (msg : String) (signatureType : MoneroMessageSignatureType) (accountIdx
      subaddressIdx : UInt32 := 0)
  | verifyMessage (msg address signature : String)
  | getTxKey (txHash : String)
  | checkTxKey (txHash txKey address : String)
  | getTxProof (txHash address : String) (message : String := "")
  | checkTxProof (txHash address message signature : String)
  | getSpendProof (txHash : String) (message : String := "")
  | checkSpendProof (txHash message signature : String)
  | getReserveProofWallet (message : String)
  | getReserveProofAccount (accountIdx : UInt32) (amount : UInt64) (message : String)
  | checkReserveProof (address message signature : String)
  | getTxNote (txHash : String)
  | getTxNotes (txHashes : List String)
  | setTxNote (txHash note : String)
  | setTxNotes (txHashes notes : List String)
  | getAddressBookEntriesIndices (indices : List UInt64)
  | getAddressBookEntries
  | addAddressBookEntry (address description : String)
  | editAddressBookEntry (index : UInt64) (setAddress : Bool) (address : String) (setDescription :
      Bool) (description : String)
  | deleteAddressBookEntry (index : UInt64)
  | tagAccounts (tag : String) (accountIndices : List UInt32)
  | untagAccounts (accountIndices : List UInt32)
  | getAccountTags
  | setAccountTagLabel (tag label : String)
  | setAccountLabel (accountIdx : UInt32) (label : String)
  | getPaymentUri (config : ρ)
  | parsePaymentUri (uri : String)
  | getAttribute (key : String)
  | setAttribute (key val : String)
  | startMining (numThreads : Option UInt64 := none) (backgroundMining ignoreBattery : Option Bool
      := none)
  | stopMining | waitForNextBlock | isMultisigImportNeeded | isMultisig | getMultisigInfo
  | prepareMultisig
  | makeMultisig (multisigHexes : List String) (threshold : Int32) (password : String)
  | exchangeMultisigKeys (multisigHexes : List String) (password : String)
  | exportMultisigHex
  | importMultisigHex (multisigHexes : List String) (refreshAfterImport : Bool := true)
  | signMultisigTxHex (multisigTxHex : String)
  | submitMultisigTxHex (signedMultisigTxHex : String)
  | changePassword (oldPassword newPassword : String)
  | moveTo (path password : String)
  | save
  | close (save : Bool := false)
  | isClosed

/-- The arguments of a call under their `py::arg` names. -/
def WalletCall.args {ρ : Type} : WalletCall ρ → List (Param × Arg ρ)
  | .setDaemonConnection connection isTrusted =>
    [(.connection, .optRef connection), (.isTrusted, .optBool isTrusted)]
  | .setDaemonConnectionUri uri username password proxy isTrusted =>
    [(.uri, .str uri), (.username, .str username), (.password, .str password), (.proxy, .str
     proxy), (.isTrusted, .optBool isTrusted)]
  | .getAddress accountIdx subaddressIdx =>
    [(.accountIdx, .u32 accountIdx), (.subaddressIdx, .u32 subaddressIdx)]
  | .getAddressIndex address => [(.address, .str address)]
  | .getIntegratedAddress standardAddress paymentId =>
    [(.standardAddress, .str standardAddress), (.paymentId, .str paymentId)]
  | .decodeIntegratedAddress integratedAddress => [(.integratedAddress, .str integratedAddress)]
  | .setRestoreHeight restoreHeight => [(.restoreHeight, .u64 restoreHeight)]
  | .getHeightByDate year month day => [(.year, .u16 year), (.month, .u8 month), (.day, .u8 day)]
  | .addListener listener => [(.listener, .ref listener)]
  | .removeListener listener => [(.listener, .ref listener)]
  | .syncListener listener => [(.listener, .ref listener)]
  | .syncFrom startHeight => [(.startHeight, .u64 startHeight)]
  | .syncFromListener startHeight listener =>
    [(.startHeight, .u64 startHeight), (.listener, .ref listener)]
  | .startSyncing syncPeriodInMs => [(.syncPeriodInMs, .u64 syncPeriodInMs)]
  | .scanTxs txHashes => [(.txHashes, .strs txHashes)]
  | .getBalanceAccount accountIdx => [(.accountIdx, .u32 accountIdx)]
  | .getBalanceSubaddress accountIdx subaddressIdx =>
    [(.accountIdx, .u32 accountIdx), (.subaddressIdx, .u32 subaddressIdx)]
  | .getUnlockedBalanceAccount accountIdx => [(.accountIdx, .u32 accountIdx)]
  | .getUnlockedBalanceSubaddress accountIdx subaddressIdx =>
    [(.accountIdx, .u32 accountIdx), (.subaddressIdx, .u32 subaddressIdx)]
  | .getAccountsIncluding includeSubaddresses =>
    [(.includeSubaddresses, .bool includeSubaddresses)]
  | .getAccountsTag tag => [(.tag, .str tag)]
  | .getAccountsIncludingTag includeSubaddresses tag =>
    [(.includeSubaddresses, .bool includeSubaddresses), (.tag, .str tag)]
  | .getAccount accountIdx => [(.accountIdx, .u32 accountIdx)]
  | .getAccountIncluding accountIdx includeSubaddresses =>
    [(.accountIdx, .u32 accountIdx), (.includeSubaddresses, .bool includeSubaddresses)]
  | .createAccount label => [(.label, .str label)]
  | .getSubaddress accountIdx subaddressIdx =>
    [(.accountIdx, .u32 accountIdx), (.subaddressIdx, .u32 subaddressIdx)]
  | .getSubaddresses accountIdx => [(.accountIdx, .u32 accountIdx)]
  | .getSubaddressesIndices accountIdx subaddressIndices =>
    [(.accountIdx, .u32 accountIdx), (.subaddressIndices, .u32s subaddressIndices)]
  | .createSubaddress accountIdx label => [(.accountIdx, .u32 accountIdx), (.label, .str label)]
  | .setSubaddressLabel accountIdx subaddressIdx label =>
    [(.accountIdx, .u32 accountIdx), (.subaddressIdx, .u32 subaddressIdx), (.label, .str label)]
  | .getTx txHash => [(.txHash, .str txHash)]
  | .getTxsQuery query => [(.query, .txQuery query)]
  | .getTxsHashes txHashes => [(.txHashes, .strs txHashes)]
  | .getTransfersQuery query => [(.query, .transferQuery query)]
  | .getTransfersAccount accountIndex => [(.accountIndex, .u32 accountIndex)]
  | .getTransfersSubaddress accountIndex subaddressIndex =>
    [(.accountIndex, .u32 accountIndex), (.subaddressIndex, .u32 subaddressIndex)]
  | .getOutputsQuery query => [(.query, .outputQuery query)]
  | .exportOutputs all => [(.all, .bool all)]
  | .importOutputs outputsHex => [(.outputsHex, .str outputsHex)]
  | .exportKeyImages all => [(.all, .bool all)]
  | .importKeyImages keyImages offset => [(.keyImages, .refs keyImages), (.offset, .u64 offset)]
  | .freezeOutput keyImage => [(.keyImage, .str keyImage)]
  | .thawOutput keyImage => [(.keyImage, .str keyImage)]
  | .isOutputFrozen keyImage => [(.keyImage, .str keyImage)]
  | .createTx config => [(.config, .ref config)]
  | .createTxs config => [(.config, .ref config)]
  | .sweepUnlocked config => [(.config, .ref config)]
  | .sweepOutput config => [(.config, .ref config)]
  | .sweepDust relay => [(.relay, .bool relay)]
  | .relayTxMetadata txMetadata => [(.txMetadata, .str txMetadata)]
  | .relayTx tx => [(.tx, .ref tx)]
  | .relayTxs txs => [(.txs, .refs txs)]
  | .relayTxsMetadatas txMetadatas => [(.txMetadatas, .strs txMetadatas)]
  | .describeTxSet txSet => [(.txSet, .txSet txSet)]
  | .describeUnsignedTxSet unsignedTxHex => [(.unsignedTxHex, .str unsignedTxHex)]
  | .describeMultisigTxSet multisigTxHex => [(.multisigTxHex, .str multisigTxHex)]
  | .signTxs unsignedTxHex => [(.unsignedTxHex, .str unsignedTxHex)]
  | .submitTxs signedTxHex => [(.signedTxHex, .str signedTxHex)]
  | .signMessage msg signatureType accountIdx subaddressIdx =>
    [(.msg, .str msg), (.signatureType, .signatureType signatureType), (.accountIdx, .u32
     accountIdx), (.subaddressIdx, .u32 subaddressIdx)]
  | .verifyMessage msg address signature =>
    [(.msg, .str msg), (.address, .str address), (.signature, .str signature)]
  | .getTxKey txHash => [(.txHash, .str txHash)]
  | .checkTxKey txHash txKey address =>
    [(.txHash, .str txHash), (.txKey, .str txKey), (.address, .str address)]
  | .getTxProof txHash address message =>
    [(.txHash, .str txHash), (.address, .str address), (.message, .str message)]
  | .checkTxProof txHash address message signature =>
    [(.txHash, .str txHash), (.address, .str address), (.message, .str message), (.signature, .str
     signature)]
  | .getSpendProof txHash message => [(.txHash, .str txHash), (.message, .str message)]
  | .checkSpendProof txHash message signature =>
    [(.txHash, .str txHash), (.message, .str message), (.signature, .str signature)]
  | .getReserveProofWallet message => [(.message, .str message)]
  | .getReserveProofAccount accountIdx amount message =>
    [(.accountIdx, .u32 accountIdx), (.amount, .u64 amount), (.message, .str message)]
  | .checkReserveProof address message signature =>
    [(.address, .str address), (.message, .str message), (.signature, .str signature)]
  | .getTxNote txHash => [(.txHash, .str txHash)]
  | .getTxNotes txHashes => [(.txHashes, .strs txHashes)]
  | .setTxNote txHash note => [(.txHash, .str txHash), (.note, .str note)]
  | .setTxNotes txHashes notes => [(.txHashes, .strs txHashes), (.notes, .strs notes)]
  | .getAddressBookEntriesIndices indices => [(.indices, .u64s indices)]
  | .addAddressBookEntry address description =>
    [(.address, .str address), (.description, .str description)]
  | .editAddressBookEntry index setAddress address setDescription description =>
    [(.index, .u64 index), (.setAddress, .bool setAddress), (.address, .str address),
     (.setDescription, .bool setDescription), (.description, .str description)]
  | .deleteAddressBookEntry index => [(.index, .u64 index)]
  | .tagAccounts tag accountIndices => [(.tag, .str tag), (.accountIndices, .u32s accountIndices)]
  | .untagAccounts accountIndices => [(.accountIndices, .u32s accountIndices)]
  | .setAccountTagLabel tag label => [(.tag, .str tag), (.label, .str label)]
  | .setAccountLabel accountIdx label => [(.accountIdx, .u32 accountIdx), (.label, .str label)]
  | .getPaymentUri config => [(.config, .ref config)]
  | .parsePaymentUri uri => [(.uri, .str uri)]
  | .getAttribute key => [(.key, .str key)]
  | .setAttribute key val => [(.key, .str key), (.val, .str val)]
  | .startMining numThreads backgroundMining ignoreBattery =>
    [(.numThreads, .optU64 numThreads), (.backgroundMining, .optBool backgroundMining),
     (.ignoreBattery, .optBool ignoreBattery)]
  | .makeMultisig multisigHexes threshold password =>
    [(.multisigHexes, .strs multisigHexes), (.threshold, .int threshold), (.password, .str
     password)]
  | .exchangeMultisigKeys multisigHexes password =>
    [(.multisigHexes, .strs multisigHexes), (.password, .str password)]
  | .importMultisigHex multisigHexes refreshAfterImport =>
    [(.multisigHexes, .strs multisigHexes), (.refreshAfterImport, .bool refreshAfterImport)]
  | .signMultisigTxHex multisigTxHex => [(.multisigTxHex, .str multisigTxHex)]
  | .submitMultisigTxHex signedMultisigTxHex => [(.signedMultisigTxHex, .str signedMultisigTxHex)]
  | .changePassword oldPassword newPassword =>
    [(.oldPassword, .str oldPassword), (.newPassword, .str newPassword)]
  | .moveTo path password => [(.path, .str path), (.password, .str password)]
  | .close doSave => [(.save, .bool doSave)]
  | _ => []

/-- The lambda bodies: the core operation that a call invokes.  `get_txs` with a query or with
hashes reaches it through `PyMoneroUtils::get_and_sort_txs`. -/
def WalletCall.invoke {ρ : Type} : WalletCall ρ → CoreCall ρ
  | .isViewOnly => .isViewOnly
  | .setDaemonConnection connection _isTrusted => .setDaemonConnection connection
  | .setDaemonConnectionUri uri username password proxy _isTrusted =>
    .setDaemonConnectionUri uri username password proxy
  | .getDaemonConnection => .getDaemonConnection
  | .isConnectedToDaemon => .isConnectedToDaemon
  | .isDaemonTrusted => .isDaemonTrusted
  | .isSynced => .isSynced
  | .getVersion => .getVersion
  | .getPath => .getPath
  | .getNetworkType => .getNetworkType
  | .getSeed => .getSeed
  | .getSeedLanguage => .getSeedLanguage
  | .getPublicViewKey => .getPublicViewKey
  | .getPrivateViewKey => .getPrivateViewKey
  | .getPublicSpendKey => .getPublicSpendKey
  | .getPrivateSpendKey => .getPrivateSpendKey
  | .getPrimaryAddress => .getPrimaryAddress
  | .getAddress accountIdx subaddressIdx => .getAddress accountIdx subaddressIdx
  | .getAddressIndex address => .getAddressIndex address
  | .getIntegratedAddress standardAddress paymentId =>
    .getIntegratedAddress standardAddress paymentId
  | .decodeIntegratedAddress integratedAddress => .decodeIntegratedAddress integratedAddress
  | .getHeight => .getHeight
  | .getRestoreHeight => .getRestoreHeight
  | .setRestoreHeight restoreHeight => .setRestoreHeight restoreHeight
  | .getDaemonHeight => .getDaemonHeight
  | .getDaemonMaxPeerHeight => .getDaemonMaxPeerHeight
  | .getHeightByDate year month day => .getHeightByDate year month day
  | .addListener listener => .addListener listener
  | .removeListener listener => .removeListener listener
  | .getListeners => .getListeners
  | .sync => .sync
  | .syncListener listener => .syncListener listener
  | .syncFrom startHeight => .syncFrom startHeight
  | .syncFromListener startHeight listener => .syncFromListener startHeight listener
  | .startSyncing syncPeriodInMs => .startSyncing syncPeriodInMs
  | .stopSyncing => .stopSyncing
  | .scanTxs txHashes => .scanTxs txHashes
  | .rescanSpent => .rescanSpent
  | .rescanBlockchain => .rescanBlockchain
  | .getBalance => .getBalance
  | .getBalanceAccount accountIdx => .getBalanceAccount accountIdx
  | .getBalanceSubaddress accountIdx subaddressIdx =>
    .getBalanceSubaddress accountIdx subaddressIdx
  | .getUnlockedBalance => .getUnlockedBalance
  | .getUnlockedBalanceAccount accountIdx => .getUnlockedBalanceAccount accountIdx
  | .getUnlockedBalanceSubaddress accountIdx subaddressIdx =>
    .getUnlockedBalanceSubaddress accountIdx subaddressIdx
  | .getAccounts => .getAccounts
  | .getAccountsIncluding includeSubaddresses => .getAccountsIncluding includeSubaddresses
  | .getAccountsTag tag => .getAccountsTag tag
  | .getAccountsIncludingTag includeSubaddresses tag =>
    .getAccountsIncludingTag includeSubaddresses tag
  | .getAccount accountIdx => .getAccount accountIdx
  | .getAccountIncluding accountIdx includeSubaddresses =>
    .getAccountIncluding accountIdx includeSubaddresses
  | .createAccount label => .createAccount label
  | .getSubaddress accountIdx subaddressIdx => .getSubaddressesIndices accountIdx [subaddressIdx]
  | .getSubaddresses accountIdx => .getSubaddresses accountIdx
  | .getSubaddressesIndices accountIdx subaddressIndices =>
    .getSubaddressesIndices accountIdx subaddressIndices
  | .createSubaddress accountIdx label => .createSubaddress accountIdx label
  | .setSubaddressLabel accountIdx subaddressIdx label =>
    .setSubaddressLabel accountIdx subaddressIdx label
  | .getTx txHash => .getTxsQuery { hashes := [txHash] }
  | .getTxs => .getTxs
  | .getTxsQuery query => .getTxsQuery query
  | .getTxsHashes txHashes => .getTxsQuery { hashes := txHashes }
  | .getTransfersQuery query => .getTransfers query
  | .getTransfers => .getTransfers {}
  | .getTransfersAccount accountIndex => .getTransfers { accountIndex := some accountIndex }
  | .getTransfersSubaddress accountIndex subaddressIndex =>
    .getTransfers { accountIndex := some accountIndex, subaddressIndex := some subaddressIndex }
  | .getOutputsQuery query => .getOutputs query
  | .getOutputs => .getOutputs {}
  | .exportOutputs all => .exportOutputs all
  | .importOutputs outputsHex => .importOutputs outputsHex
  | .exportKeyImages all => .exportKeyImages all
  | .importKeyImages keyImages _offset => .importKeyImages keyImages
  | .getNewKeyImagesFromLastImport => .exportKeyImages false
  | .freezeOutput keyImage => .freezeOutput keyImage
  | .thawOutput keyImage => .thawOutput keyImage
  | .isOutputFrozen keyImage => .isOutputFrozen keyImage
  | .getDefaultFeePriority => .getDefaultFeePriority
  | .createTx config => .createTx config
  | .createTxs config => .createTxs config
  | .sweepUnlocked config => .sweepUnlocked config
  | .sweepOutput config => .sweepOutput config
  | .sweepDust relay => .sweepDust relay
  | .relayTxMetadata txMetadata => .relayTxMetadata txMetadata
  | .relayTx tx => .relayTx tx
  | .relayTxs txs => .relayTxs txs
  | .relayTxsMetadatas txMetadatas => .relayTxsMetadatas txMetadatas
  | .describeTxSet txSet => .describeTxSet txSet
  | .describeUnsignedTxSet unsignedTxHex =>
    .describeTxSet { unsignedTxHex := some unsignedTxHex }
  | .describeMultisigTxSet multisigTxHex =>
    .describeTxSet { multisigTxHex := some multisigTxHex }
  | .signTxs unsignedTxHex => .signTxs unsignedTxHex
  | .submitTxs signedTxHex => .submitTxs signedTxHex
  | .signMessage msg signatureType accountIdx subaddressIdx =>
    .signMessage msg signatureType accountIdx subaddressIdx
  | .verifyMessage msg address signature => .verifyMessage msg address signature
  | .getTxKey txHash => .getTxKey txHash
  | .checkTxKey txHash txKey address => .checkTxKey txHash txKey address
  | .getTxProof txHash address message => .getTxProof txHash address message
  | .checkTxProof txHash address message signature =>
    .checkTxProof txHash address message signature
  | .getSpendProof txHash message => .getSpendProof txHash message
  | .checkSpendProof txHash message signature => .checkSpendProof txHash message signature
  | .getReserveProofWallet message => .getReserveProofWallet message
  | .getReserveProofAccount accountIdx amount message =>
    .getReserveProofAccount accountIdx amount message
  | .checkReserveProof address message signature => .checkReserveProof address message signature
  | .getTxNote txHash => .getTxNote txHash
  | .getTxNotes txHashes => .getTxNotes txHashes
  | .setTxNote txHash note => .setTxNote txHash note
  | .setTxNotes txHashes notes => .setTxNotes txHashes notes
  | .getAddressBookEntriesIndices indices => .getAddressBookEntries indices
  | .getAddressBookEntries => .getAddressBookEntries []
  | .addAddressBookEntry address description => .addAddressBookEntry address description
  | .editAddressBookEntry index setAddress address setDescription description =>
    .editAddressBookEntry index setAddress address setDescription description
  | .deleteAddressBookEntry index => .deleteAddressBookEntry index
  | .tagAccounts tag accountIndices => .tagAccounts tag accountIndices
  | .untagAccounts accountIndices => .untagAccounts accountIndices
  | .getAccountTags => .getAccountTags
  | .setAccountTagLabel tag label => .setAccountTagLabel tag label
  | .setAccountLabel accountIdx label => .setSubaddressLabel accountIdx 0 label
  | .getPaymentUri config => .getPaymentUri config
  | .parsePaymentUri uri => .parsePaymentUri uri
  | .getAttribute key => .getAttribute key ""
  | .setAttribute key val => .setAttribute key val
  | .startMining numThreads backgroundMining ignoreBattery =>
    .startMining numThreads backgroundMining ignoreBattery
  | .stopMining => .stopMining
  | .waitForNextBlock => .waitForNextBlock
  | .isMultisigImportNeeded => .isMultisigImportNeeded
  | .isMultisig => .isMultisig
  | .getMultisigInfo => .getMultisigInfo
  | .prepareMultisig => .prepareMultisig
  | .makeMultisig multisigHexes threshold password =>
    .makeMultisig multisigHexes threshold password
  | .exchangeMultisigKeys multisigHexes password => .exchangeMultisigKeys multisigHexes password
  | .exportMultisigHex => .exportMultisigHex
  | .importMultisigHex multisigHexes refreshAfterImport =>
    .importMultisigHex multisigHexes refreshAfterImport
  | .signMultisigTxHex multisigTxHex => .signMultisigTxHex multisigTxHex
  | .submitMultisigTxHex signedMultisigTxHex => .submitMultisigTxHex signedMultisigTxHex
  | .changePassword oldPassword newPassword => .changePassword oldPassword newPassword
  | .moveTo path password => .moveTo path password
  | .save => .save
  | .close doSave => .close doSave
  | .isClosed => .isClosed

end MoneroPython.Wallet
