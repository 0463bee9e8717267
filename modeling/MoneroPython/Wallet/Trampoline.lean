/-
# The trampolines

A Python class may derive from `MoneroWallet` or `MoneroWalletListener` and override methods.
When C++ code calls a virtual method on an instance of such a class, the method of
`PyMoneroWallet` or `PyMoneroWalletListener` (`wallet/py_monero_wallet.h`) runs.  Each is one
statement `PYBIND11_OVERRIDE(ret, base, name, args...)`: look the Python method `name` up, call
it with `args` and convert its result to `ret`, or call the method of the base class when Python
has none of that name.

`CoreCall.signature` is what the methods declare and `CoreCall.body` is their statements.  A
trampoline is transparent when the override gets the arguments of the C++ caller and the caller
gets the result of the override.  `transparent_dispatch_iff` says where that fails: both forms of
`set_daemon_connection` and `import_multisig_hex` leave their last argument out, and `get_attribute`
takes the text that an override returns for its `bool`, which it is not, and never writes its
reference parameter.
-/
import MoneroPython.Errors.Exceptions
import MoneroPython.Wallet.Calls

namespace MoneroPython.Wallet

open MoneroPython.Errors

/-! ## 1. Virtual methods -/

/-- The virtual methods that the trampolines override.  Overloads share a name. -/
inductive Method where
  | isViewOnly | setDaemonConnection | getDaemonConnection | isConnectedToDaemon | isDaemonSynced
  | isDaemonTrusted | isSynced | getVersion | getNetworkType | getSeed | getSeedLanguage
  | getPublicViewKey | getPrivateViewKey | getPublicSpendKey | getPrivateSpendKey
  | getPrimaryAddress | getAddress | getAddressIndex | getIntegratedAddress
  | decodeIntegratedAddress | getHeight | getRestoreHeight | setRestoreHeight | getDaemonHeight
  | getDaemonMaxPeerHeight | getHeightByDate | addListener | removeListener | getListeners | sync
  | startSyncing | scanTxs | rescanSpent | rescanBlockchain | getBalance | getUnlockedBalance
  | getAccounts | getAccount | createAccount | getSubaddresses | getSubaddress | createSubaddress
  | setSubaddressLabel | getTxs | getTransfers | getOutputs | exportOutputs | importOutputs
  | exportKeyImages | importKeyImages | freezeOutput | thawOutput | isOutputFrozen
  | getDefaultFeePriority | createTx | createTxs | sweepUnlocked | sweepOutput | sweepDust | relayTx
  | relayTxs | describeTxSet | signTxs | submitTxs | signMessage | verifyMessage | getTxKey
  | checkTxKey | getTxProof | checkTxProof | getSpendProof | checkSpendProof | getReserveProofWallet
  | getReserveProofAccount | checkReserveProof | getTxNote | getTxNotes | setTxNote | setTxNotes
  | getAddressBookEntries | addAddressBookEntry | editAddressBookEntry | deleteAddressBookEntry
  | getPaymentUri | parsePaymentUri | getAttribute | setAttribute | startMining | stopMining
  | waitForNextBlock | isMultisigImportNeeded | isMultisig | getMultisigInfo | prepareMultisig
  | makeMultisig | exchangeMultisigKeys | exportMultisigHex | importMultisigHex | signMultisigTxHex
  | submitMultisigTxHex | changePassword | moveTo | save | close | isClosed | onSyncProgress
  | onNewBlock | onBalancesChanged | onOutputReceived | onOutputSpent
deriving DecidableEq

/-- The types that these methods return.  A plural is a vector, and the listeners are a set. -/
inductive CppType where
  | bool | void | moneroRpcConnection | moneroVersion | moneroNetworkType | string
  | moneroSubaddress | moneroIntegratedAddress | uint64 | moneroWalletListeners | moneroSyncResult
  | moneroAccounts | moneroAccount | moneroSubaddresses | moneroTxWallets | moneroTransfers
  | moneroOutputWallets | int | moneroKeyImageExportResult | moneroKeyImageImportResult
  | moneroTxPriority | moneroTxWallet | strings | moneroTxSet | moneroMessageSignatureResult
  | moneroCheckTx | moneroCheckReserve | moneroAddressBookEntries | moneroTxConfig
  | moneroMultisigInfo | moneroMultisigInitResult | moneroMultisigSignResult
deriving DecidableEq

/-- A virtual method as its trampoline declares it. -/
structure Signature where
  ret : CppType
  name : Method

/-- A statement `PYBIND11_OVERRIDE(ret, base, name, args...)`. -/
structure OverrideStmt (α : Type) where
  ret : CppType
  name : Method
  args : List α

variable {ρ : Type}

/-- The method of `PyMoneroWallet` that a call reaches, if the class overrides it. -/
def CoreCall.signature : CoreCall ρ → Option Signature
  | .isViewOnly => some ⟨.bool, .isViewOnly⟩
  | .setDaemonConnectionUri _ _ _ _ _ | .setDaemonConnection _ _ =>
    some ⟨.void, .setDaemonConnection⟩
  | .getDaemonConnection => some ⟨.moneroRpcConnection, .getDaemonConnection⟩
  | .isConnectedToDaemon => some ⟨.bool, .isConnectedToDaemon⟩
  | .isDaemonSynced => some ⟨.bool, .isDaemonSynced⟩
  | .isDaemonTrusted => some ⟨.bool, .isDaemonTrusted⟩
  | .isSynced => some ⟨.bool, .isSynced⟩
  | .getVersion => some ⟨.moneroVersion, .getVersion⟩
  | .getNetworkType => some ⟨.moneroNetworkType, .getNetworkType⟩
  | .getSeed => some ⟨.string, .getSeed⟩
  | .getSeedLanguage => some ⟨.string, .getSeedLanguage⟩
  | .getPublicViewKey => some ⟨.string, .getPublicViewKey⟩
  | .getPrivateViewKey => some ⟨.string, .getPrivateViewKey⟩
  | .getPublicSpendKey => some ⟨.string, .getPublicSpendKey⟩
  | .getPrivateSpendKey => some ⟨.string, .getPrivateSpendKey⟩
  | .getPrimaryAddress => some ⟨.string, .getPrimaryAddress⟩
  | .getAddress _ _ => some ⟨.string, .getAddress⟩
  | .getAddressIndex _ => some ⟨.moneroSubaddress, .getAddressIndex⟩
  | .getIntegratedAddress _ _ => some ⟨.moneroIntegratedAddress, .getIntegratedAddress⟩
  | .decodeIntegratedAddress _ => some ⟨.moneroIntegratedAddress, .decodeIntegratedAddress⟩
  | .getHeight => some ⟨.uint64, .getHeight⟩
  | .getRestoreHeight => some ⟨.uint64, .getRestoreHeight⟩
  | .setRestoreHeight _ => some ⟨.void, .setRestoreHeight⟩
  | .getDaemonHeight => some ⟨.uint64, .getDaemonHeight⟩
  | .getDaemonMaxPeerHeight => some ⟨.uint64, .getDaemonMaxPeerHeight⟩
  | .getHeightByDate _ _ _ => some ⟨.uint64, .getHeightByDate⟩
  | .addListener _ => some ⟨.void, .addListener⟩
  | .removeListener _ => some ⟨.void, .removeListener⟩
  | .getListeners => some ⟨.moneroWalletListeners, .getListeners⟩
  | .sync | .syncListener _ | .syncFrom _ | .syncFromListener _ _ => some ⟨.moneroSyncResult, .sync⟩
  | .startSyncing _ => some ⟨.void, .startSyncing⟩
  | .scanTxs _ => some ⟨.void, .scanTxs⟩
  | .rescanSpent => some ⟨.void, .rescanSpent⟩
  | .rescanBlockchain => some ⟨.void, .rescanBlockchain⟩
  | .getBalance | .getBalanceAccount _ | .getBalanceSubaddress _ _ => some ⟨.uint64, .getBalance⟩
  | .getUnlockedBalance | .getUnlockedBalanceAccount _ | .getUnlockedBalanceSubaddress _ _ =>
    some ⟨.uint64, .getUnlockedBalance⟩
  | .getAccounts | .getAccountsIncluding _ | .getAccountsTag _ | .getAccountsIncludingTag _ _ =>
    some ⟨.moneroAccounts, .getAccounts⟩
  | .getAccount _ | .getAccountIncluding _ _ => some ⟨.moneroAccount, .getAccount⟩
  | .createAccount _ => some ⟨.moneroAccount, .createAccount⟩
  | .getSubaddresses _ | .getSubaddressesIndices _ _ => some ⟨.moneroSubaddresses, .getSubaddresses⟩
  | .getSubaddress _ _ => some ⟨.moneroSubaddress, .getSubaddress⟩
  | .createSubaddress _ _ => some ⟨.moneroSubaddress, .createSubaddress⟩
  | .setSubaddressLabel _ _ _ => some ⟨.void, .setSubaddressLabel⟩
  | .getTxs | .getTxsQuery _ => some ⟨.moneroTxWallets, .getTxs⟩
  | .getTransfers _ => some ⟨.moneroTransfers, .getTransfers⟩
  | .getOutputs _ => some ⟨.moneroOutputWallets, .getOutputs⟩
  | .exportOutputs _ => some ⟨.string, .exportOutputs⟩
  | .importOutputs _ => some ⟨.int, .importOutputs⟩
  | .exportKeyImages _ => some ⟨.moneroKeyImageExportResult, .exportKeyImages⟩
  | .importKeyImages _ _ => some ⟨.moneroKeyImageImportResult, .importKeyImages⟩
  | .freezeOutput _ => some ⟨.void, .freezeOutput⟩
  | .thawOutput _ => some ⟨.void, .thawOutput⟩
  | .isOutputFrozen _ => some ⟨.bool, .isOutputFrozen⟩
  | .getDefaultFeePriority => some ⟨.moneroTxPriority, .getDefaultFeePriority⟩
  | .createTx _ => some ⟨.moneroTxWallet, .createTx⟩
  | .createTxs _ => some ⟨.moneroTxWallets, .createTxs⟩
  | .sweepUnlocked _ => some ⟨.moneroTxWallets, .sweepUnlocked⟩
  | .sweepOutput _ => some ⟨.moneroTxWallet, .sweepOutput⟩
  | .sweepDust _ => some ⟨.moneroTxWallets, .sweepDust⟩
  | .relayTxMetadata _ | .relayTx _ => some ⟨.string, .relayTx⟩
  | .relayTxs _ | .relayTxsMetadatas _ => some ⟨.strings, .relayTxs⟩
  | .describeTxSet _ => some ⟨.moneroTxSet, .describeTxSet⟩
  | .signTxs _ => some ⟨.moneroTxSet, .signTxs⟩
  | .submitTxs _ => some ⟨.strings, .submitTxs⟩
  | .signMessage _ _ _ _ => some ⟨.string, .signMessage⟩
  | .verifyMessage _ _ _ => some ⟨.moneroMessageSignatureResult, .verifyMessage⟩
  | .getTxKey _ => some ⟨.string, .getTxKey⟩
  | .checkTxKey _ _ _ => some ⟨.moneroCheckTx, .checkTxKey⟩
  | .getTxProof _ _ _ => some ⟨.string, .getTxProof⟩
  | .checkTxProof _ _ _ _ => some ⟨.moneroCheckTx, .checkTxProof⟩
  | .getSpendProof _ _ => some ⟨.string, .getSpendProof⟩
  | .checkSpendProof _ _ _ => some ⟨.bool, .checkSpendProof⟩
  | .getReserveProofWallet _ => some ⟨.string, .getReserveProofWallet⟩
  | .getReserveProofAccount _ _ _ => some ⟨.string, .getReserveProofAccount⟩
  | .checkReserveProof _ _ _ => some ⟨.moneroCheckReserve, .checkReserveProof⟩
  | .getTxNote _ => some ⟨.string, .getTxNote⟩
  | .getTxNotes _ => some ⟨.strings, .getTxNotes⟩
  | .setTxNote _ _ => some ⟨.void, .setTxNote⟩
  | .setTxNotes _ _ => some ⟨.void, .setTxNotes⟩
  | .getAddressBookEntries _ => some ⟨.moneroAddressBookEntries, .getAddressBookEntries⟩
  | .addAddressBookEntry _ _ => some ⟨.uint64, .addAddressBookEntry⟩
  | .editAddressBookEntry _ _ _ _ _ => some ⟨.void, .editAddressBookEntry⟩
  | .deleteAddressBookEntry _ => some ⟨.void, .deleteAddressBookEntry⟩
  | .getPaymentUri _ => some ⟨.string, .getPaymentUri⟩
  | .parsePaymentUri _ => some ⟨.moneroTxConfig, .parsePaymentUri⟩
  | .getAttribute _ _ => some ⟨.bool, .getAttribute⟩
  | .setAttribute _ _ => some ⟨.void, .setAttribute⟩
  | .startMining _ _ _ => some ⟨.void, .startMining⟩
  | .stopMining => some ⟨.void, .stopMining⟩
  | .waitForNextBlock => some ⟨.uint64, .waitForNextBlock⟩
  | .isMultisigImportNeeded => some ⟨.bool, .isMultisigImportNeeded⟩
  | .isMultisig => some ⟨.bool, .isMultisig⟩
  | .getMultisigInfo => some ⟨.moneroMultisigInfo, .getMultisigInfo⟩
  | .prepareMultisig => some ⟨.string, .prepareMultisig⟩
  | .makeMultisig _ _ _ => some ⟨.string, .makeMultisig⟩
  | .exchangeMultisigKeys _ _ => some ⟨.moneroMultisigInitResult, .exchangeMultisigKeys⟩
  | .exportMultisigHex => some ⟨.string, .exportMultisigHex⟩
  | .importMultisigHex _ _ => some ⟨.int, .importMultisigHex⟩
  | .signMultisigTxHex _ => some ⟨.moneroMultisigSignResult, .signMultisigTxHex⟩
  | .submitMultisigTxHex _ => some ⟨.strings, .submitMultisigTxHex⟩
  | .changePassword _ _ => some ⟨.void, .changePassword⟩
  | .moveTo _ _ => some ⟨.void, .moveTo⟩
  | .save => some ⟨.void, .save⟩
  | .close _ => some ⟨.void, .close⟩
  | .isClosed => some ⟨.bool, .isClosed⟩
  | _ => none

/-- The bodies of the methods of `PyMoneroWallet`. -/
def CoreCall.body : CoreCall ρ → Option (OverrideStmt (Arg ρ))
  | .isViewOnly => some ⟨.bool, .isViewOnly, []⟩
  | .setDaemonConnectionUri uri username password proxy _isTrusted =>
    some ⟨.void, .setDaemonConnection, [.str uri, .str username, .str password, .str proxy]⟩
  | .setDaemonConnection connection _isTrusted =>
    some ⟨.void, .setDaemonConnection, [.optRef connection]⟩
  | .getDaemonConnection => some ⟨.moneroRpcConnection, .getDaemonConnection, []⟩
  | .isConnectedToDaemon => some ⟨.bool, .isConnectedToDaemon, []⟩
  | .isDaemonSynced => some ⟨.bool, .isDaemonSynced, []⟩
  | .isDaemonTrusted => some ⟨.bool, .isDaemonTrusted, []⟩
  | .isSynced => some ⟨.bool, .isSynced, []⟩
  | .getVersion => some ⟨.moneroVersion, .getVersion, []⟩
  | .getNetworkType => some ⟨.moneroNetworkType, .getNetworkType, []⟩
  | .getSeed => some ⟨.string, .getSeed, []⟩
  | .getSeedLanguage => some ⟨.string, .getSeedLanguage, []⟩
  | .getPublicViewKey => some ⟨.string, .getPublicViewKey, []⟩
  | .getPrivateViewKey => some ⟨.string, .getPrivateViewKey, []⟩
  | .getPublicSpendKey => some ⟨.string, .getPublicSpendKey, []⟩
  | .getPrivateSpendKey => some ⟨.string, .getPrivateSpendKey, []⟩
  | .getPrimaryAddress => some ⟨.string, .getPrimaryAddress, []⟩
  | .getAddress accountIdx subaddressIdx =>
    some ⟨.string, .getAddress, [.u32 accountIdx, .u32 subaddressIdx]⟩
  | .getAddressIndex address => some ⟨.moneroSubaddress, .getAddressIndex, [.str address]⟩
  | .getIntegratedAddress standardAddress paymentId =>
    some ⟨.moneroIntegratedAddress, .getIntegratedAddress, [.str standardAddress, .str paymentId]⟩
  | .decodeIntegratedAddress integratedAddress =>
    some ⟨.moneroIntegratedAddress, .decodeIntegratedAddress, [.str integratedAddress]⟩
  | .getHeight => some ⟨.uint64, .getHeight, []⟩
  | .getRestoreHeight => some ⟨.uint64, .getRestoreHeight, []⟩
  | .setRestoreHeight restoreHeight => some ⟨.void, .setRestoreHeight, [.u64 restoreHeight]⟩
  | .getDaemonHeight => some ⟨.uint64, .getDaemonHeight, []⟩
  | .getDaemonMaxPeerHeight => some ⟨.uint64, .getDaemonMaxPeerHeight, []⟩
  | .getHeightByDate year month day =>
    some ⟨.uint64, .getHeightByDate, [.u16 year, .u8 month, .u8 day]⟩
  | .addListener listener => some ⟨.void, .addListener, [.ref listener]⟩
  | .removeListener listener => some ⟨.void, .removeListener, [.ref listener]⟩
  | .getListeners => some ⟨.moneroWalletListeners, .getListeners, []⟩
  | .sync => some ⟨.moneroSyncResult, .sync, []⟩
  | .syncListener listener => some ⟨.moneroSyncResult, .sync, [.ref listener]⟩
  | .syncFrom startHeight => some ⟨.moneroSyncResult, .sync, [.u64 startHeight]⟩
  | .syncFromListener startHeight listener =>
    some ⟨.moneroSyncResult, .sync, [.u64 startHeight, .ref listener]⟩
  | .startSyncing syncPeriodInMs => some ⟨.void, .startSyncing, [.u64 syncPeriodInMs]⟩
  | .scanTxs txHashes => some ⟨.void, .scanTxs, [.strs txHashes]⟩
  | .rescanSpent => some ⟨.void, .rescanSpent, []⟩
  | .rescanBlockchain => some ⟨.void, .rescanBlockchain, []⟩
  | .getBalance => some ⟨.uint64, .getBalance, []⟩
  | .getBalanceAccount accountIdx => some ⟨.uint64, .getBalance, [.u32 accountIdx]⟩
  | .getBalanceSubaddress accountIdx subaddressIdx =>
    some ⟨.uint64, .getBalance, [.u32 accountIdx, .u32 subaddressIdx]⟩
  | .getUnlockedBalance => some ⟨.uint64, .getUnlockedBalance, []⟩
  | .getUnlockedBalanceAccount accountIdx => some ⟨.uint64, .getUnlockedBalance, [.u32 accountIdx]⟩
  | .getUnlockedBalanceSubaddress accountIdx subaddressIdx =>
    some ⟨.uint64, .getUnlockedBalance, [.u32 accountIdx, .u32 subaddressIdx]⟩
  | .getAccounts => some ⟨.moneroAccounts, .getAccounts, []⟩
  | .getAccountsIncluding includeSubaddresses =>
    some ⟨.moneroAccounts, .getAccounts, [.bool includeSubaddresses]⟩
  | .getAccountsTag tag => some ⟨.moneroAccounts, .getAccounts, [.str tag]⟩
  | .getAccountsIncludingTag includeSubaddresses tag =>
    some ⟨.moneroAccounts, .getAccounts, [.bool includeSubaddresses, .str tag]⟩
  | .getAccount accountIdx => some ⟨.moneroAccount, .getAccount, [.u32 accountIdx]⟩
  | .getAccountIncluding accountIdx includeSubaddresses =>
    some ⟨.moneroAccount, .getAccount, [.u32 accountIdx, .bool includeSubaddresses]⟩
  | .createAccount label => some ⟨.moneroAccount, .createAccount, [.str label]⟩
  | .getSubaddresses accountIdx => some ⟨.moneroSubaddresses, .getSubaddresses, [.u32 accountIdx]⟩
  | .getSubaddressesIndices accountIdx subaddressIndices =>
    some ⟨.moneroSubaddresses, .getSubaddresses, [.u32 accountIdx, .u32s subaddressIndices]⟩
  | .getSubaddress accountIdx subaddressIdx =>
    some ⟨.moneroSubaddress, .getSubaddress, [.u32 accountIdx, .u32 subaddressIdx]⟩
  | .createSubaddress accountIdx label =>
    some ⟨.moneroSubaddress, .createSubaddress, [.u32 accountIdx, .str label]⟩
  | .setSubaddressLabel accountIdx subaddressIdx label =>
    some ⟨.void, .setSubaddressLabel, [.u32 accountIdx, .u32 subaddressIdx, .str label]⟩
  | .getTxs => some ⟨.moneroTxWallets, .getTxs, []⟩
  | .getTxsQuery query => some ⟨.moneroTxWallets, .getTxs, [.txQuery query]⟩
  | .getTransfers query => some ⟨.moneroTransfers, .getTransfers, [.transferQuery query]⟩
  | .getOutputs query => some ⟨.moneroOutputWallets, .getOutputs, [.outputQuery query]⟩
  | .exportOutputs all => some ⟨.string, .exportOutputs, [.bool all]⟩
  | .importOutputs outputsHex => some ⟨.int, .importOutputs, [.str outputsHex]⟩
  | .exportKeyImages all => some ⟨.moneroKeyImageExportResult, .exportKeyImages, [.bool all]⟩
  | .importKeyImages keyImages offset =>
    some ⟨.moneroKeyImageImportResult, .importKeyImages, [.refs keyImages, .u64 offset]⟩
  | .freezeOutput keyImage => some ⟨.void, .freezeOutput, [.str keyImage]⟩
  | .thawOutput keyImage => some ⟨.void, .thawOutput, [.str keyImage]⟩
  | .isOutputFrozen keyImage => some ⟨.bool, .isOutputFrozen, [.str keyImage]⟩
  | .getDefaultFeePriority => some ⟨.moneroTxPriority, .getDefaultFeePriority, []⟩
  | .createTx config => some ⟨.moneroTxWallet, .createTx, [.ref config]⟩
  | .createTxs config => some ⟨.moneroTxWallets, .createTxs, [.ref config]⟩
  | .sweepUnlocked config => some ⟨.moneroTxWallets, .sweepUnlocked, [.ref config]⟩
  | .sweepOutput config => some ⟨.moneroTxWallet, .sweepOutput, [.ref config]⟩
  | .sweepDust relay => some ⟨.moneroTxWallets, .sweepDust, [.bool relay]⟩
  | .relayTxMetadata txMetadata => some ⟨.string, .relayTx, [.str txMetadata]⟩
  | .relayTx tx => some ⟨.string, .relayTx, [.ref tx]⟩
  | .relayTxs txs => some ⟨.strings, .relayTxs, [.refs txs]⟩
  | .relayTxsMetadatas txMetadatas => some ⟨.strings, .relayTxs, [.strs txMetadatas]⟩
  | .describeTxSet txSet => some ⟨.moneroTxSet, .describeTxSet, [.txSet txSet]⟩
  | .signTxs unsignedTxHex => some ⟨.moneroTxSet, .signTxs, [.str unsignedTxHex]⟩
  | .submitTxs signedTxHex => some ⟨.strings, .submitTxs, [.str signedTxHex]⟩
  | .signMessage msg signatureType accountIdx subaddressIdx =>
    some ⟨.string, .signMessage,
      [.str msg, .signatureType signatureType, .u32 accountIdx, .u32 subaddressIdx]⟩
  | .verifyMessage msg address signature =>
    some ⟨.moneroMessageSignatureResult, .verifyMessage, [.str msg, .str address, .str signature]⟩
  | .getTxKey txHash => some ⟨.string, .getTxKey, [.str txHash]⟩
  | .checkTxKey txHash txKey address =>
    some ⟨.moneroCheckTx, .checkTxKey, [.str txHash, .str txKey, .str address]⟩
  | .getTxProof txHash address message =>
    some ⟨.string, .getTxProof, [.str txHash, .str address, .str message]⟩
  | .checkTxProof txHash address message signature =>
    some ⟨.moneroCheckTx, .checkTxProof, [.str txHash, .str address, .str message, .str signature]⟩
  | .getSpendProof txHash message => some ⟨.string, .getSpendProof, [.str txHash, .str message]⟩
  | .checkSpendProof txHash message signature =>
    some ⟨.bool, .checkSpendProof, [.str txHash, .str message, .str signature]⟩
  | .getReserveProofWallet message => some ⟨.string, .getReserveProofWallet, [.str message]⟩
  | .getReserveProofAccount accountIdx amount message =>
    some ⟨.string, .getReserveProofAccount, [.u32 accountIdx, .u64 amount, .str message]⟩
  | .checkReserveProof address message signature =>
    some ⟨.moneroCheckReserve, .checkReserveProof, [.str address, .str message, .str signature]⟩
  | .getTxNote txHash => some ⟨.string, .getTxNote, [.str txHash]⟩
  | .getTxNotes txHashes => some ⟨.strings, .getTxNotes, [.strs txHashes]⟩
  | .setTxNote txHash note => some ⟨.void, .setTxNote, [.str txHash, .str note]⟩
  | .setTxNotes txHashes notes => some ⟨.void, .setTxNotes, [.strs txHashes, .strs notes]⟩
  | .getAddressBookEntries indices =>
    some ⟨.moneroAddressBookEntries, .getAddressBookEntries, [.u64s indices]⟩
  | .addAddressBookEntry address description =>
    some ⟨.uint64, .addAddressBookEntry, [.str address, .str description]⟩
  | .editAddressBookEntry index setAddress address setDescription description =>
    some ⟨.void, .editAddressBookEntry,
      [.u64 index, .bool setAddress, .str address, .bool setDescription, .str description]⟩
  | .deleteAddressBookEntry index => some ⟨.void, .deleteAddressBookEntry, [.u64 index]⟩
  | .getPaymentUri config => some ⟨.string, .getPaymentUri, [.ref config]⟩
  | .parsePaymentUri uri => some ⟨.moneroTxConfig, .parsePaymentUri, [.str uri]⟩
  | .getAttribute key value => some ⟨.bool, .getAttribute, [.str key, .str value]⟩
  | .setAttribute key val => some ⟨.void, .setAttribute, [.str key, .str val]⟩
  | .startMining numThreads backgroundMining ignoreBattery =>
    some ⟨.void, .startMining,
      [.optU64 numThreads, .optBool backgroundMining, .optBool ignoreBattery]⟩
  | .stopMining => some ⟨.void, .stopMining, []⟩
  | .waitForNextBlock => some ⟨.uint64, .waitForNextBlock, []⟩
  | .isMultisigImportNeeded => some ⟨.bool, .isMultisigImportNeeded, []⟩
  | .isMultisig => some ⟨.bool, .isMultisig, []⟩
  | .getMultisigInfo => some ⟨.moneroMultisigInfo, .getMultisigInfo, []⟩
  | .prepareMultisig => some ⟨.string, .prepareMultisig, []⟩
  | .makeMultisig multisigHexes threshold password =>
    some ⟨.string, .makeMultisig, [.strs multisigHexes, .int threshold, .str password]⟩
  | .exchangeMultisigKeys multisigHexes password =>
    some ⟨.moneroMultisigInitResult, .exchangeMultisigKeys, [.strs multisigHexes, .str password]⟩
  | .exportMultisigHex => some ⟨.string, .exportMultisigHex, []⟩
  | .importMultisigHex multisigHexes _refreshAfterImport =>
    some ⟨.int, .importMultisigHex, [.strs multisigHexes]⟩
  | .signMultisigTxHex multisigTxHex =>
    some ⟨.moneroMultisigSignResult, .signMultisigTxHex, [.str multisigTxHex]⟩
  | .submitMultisigTxHex signedMultisigTxHex =>
    some ⟨.strings, .submitMultisigTxHex, [.str signedMultisigTxHex]⟩
  | .changePassword oldPassword newPassword =>
    some ⟨.void, .changePassword, [.str oldPassword, .str newPassword]⟩
  | .moveTo path password => some ⟨.void, .moveTo, [.str path, .str password]⟩
  | .save => some ⟨.void, .save, []⟩
  | .close doSave => some ⟨.void, .close, [.bool doSave]⟩
  | .isClosed => some ⟨.bool, .isClosed, []⟩
  | _ => none

/-- A call of a virtual method of `monero_wallet_listener`. -/
inductive ListenerCall (ρ : Type) where
  | onSyncProgress (height startHeight endHeight : UInt64) (percentDone : Float) (message : String)
  | onNewBlock (height : UInt64)
  | onBalancesChanged (newBalance newUnlockedBalance : UInt64)
  | onOutputReceived (output : ρ)
  | onOutputSpent (output : ρ)

/-- A value that C++ passes to a virtual method. -/
inductive Passed (ρ : Type) where
  | arg (v : Arg ρ)
  | double (v : Float)

/-- The arguments in the order of the signature. -/
def ListenerCall.args : ListenerCall ρ → List (Passed ρ)
  | .onSyncProgress height startHeight endHeight percentDone message =>
    [.arg (.u64 height), .arg (.u64 startHeight), .arg (.u64 endHeight), .double percentDone,
     .arg (.str message)]
  | .onNewBlock height => [.arg (.u64 height)]
  | .onBalancesChanged newBalance newUnlockedBalance =>
    [.arg (.u64 newBalance), .arg (.u64 newUnlockedBalance)]
  | .onOutputReceived output => [.arg (.ref output)]
  | .onOutputSpent output => [.arg (.ref output)]

def ListenerCall.signature : ListenerCall ρ → Signature
  | .onSyncProgress _ _ _ _ _ => ⟨.void, .onSyncProgress⟩
  | .onNewBlock _ => ⟨.void, .onNewBlock⟩
  | .onBalancesChanged _ _ => ⟨.void, .onBalancesChanged⟩
  | .onOutputReceived _ => ⟨.void, .onOutputReceived⟩
  | .onOutputSpent _ => ⟨.void, .onOutputSpent⟩

/-- The bodies of the methods of `PyMoneroWalletListener`. -/
def ListenerCall.body : ListenerCall ρ → OverrideStmt (Passed ρ)
  | .onSyncProgress height startHeight endHeight percentDone message =>
    ⟨.void, .onSyncProgress,
      [.arg (.u64 height), .arg (.u64 startHeight), .arg (.u64 endHeight), .double percentDone,
       .arg (.str message)]⟩
  | .onNewBlock height => ⟨.void, .onNewBlock, [.arg (.u64 height)]⟩
  | .onBalancesChanged newBalance newUnlockedBalance =>
    ⟨.void, .onBalancesChanged, [.arg (.u64 newBalance), .arg (.u64 newUnlockedBalance)]⟩
  | .onOutputReceived output => ⟨.void, .onOutputReceived, [.arg (.ref output)]⟩
  | .onOutputSpent output => ⟨.void, .onOutputSpent, [.arg (.ref output)]⟩

/-- A call that C++ code makes on an instance of either class. -/
inductive VirtualCall (ρ : Type) where
  | wallet (call : CoreCall ρ)
  | listener (call : ListenerCall ρ)

namespace VirtualCall

def signature : VirtualCall ρ → Option Signature
  | .wallet call => call.signature
  | .listener call => some call.signature

/-- What the caller passes. -/
def args : VirtualCall ρ → List (Passed ρ)
  | .wallet call => call.params.map fun param => .arg param.2
  | .listener call => call.args

def body : VirtualCall ρ → Option (OverrideStmt (Passed ρ))
  | .wallet call => call.body.map fun stmt => ⟨stmt.ret, stmt.name, stmt.args.map .arg⟩
  | .listener call => some call.body

/-- The content of the parameter that the method takes by reference to return a result in. -/
def out : VirtualCall ρ → Option String
  | .wallet (.getAttribute _ value) => some value
  | _ => none

end VirtualCall

/-! ## 2. Calling them

`σ` is the state of the world that Python code may read and change, `π` are the Python objects
an override may return, and `γ` the values that they are converted to. -/

/-- A Python method: the arguments it gets, and the object it returns or the exception it
raises. -/
abbrev PyMethod (ρ σ π : Type) := List (Passed ρ) → σ → Except PyException π × σ

/-- The methods that the class of an instance defines in Python. -/
abbrev PyInstance (ρ σ π : Type) := Method → Option (PyMethod ρ σ π)

/-- What pybind11 does with the outcome of an override: the conversion to a declared type, the
`str` object of a text, and the `what()` of an exception on its way through C++. -/
structure Pybind (π γ : Type) where
  cast : CppType → π → Except CppException γ
  str : String → π
  what : PyException → String

/-- What the C++ caller of a virtual method obtains: the result, the content of the reference
parameter afterwards, the Python methods that were called on the way with their arguments, and
the state of the world. -/
structure Obtained (ρ σ γ : Type) where
  result : Except CppException γ
  out : Option String
  calls : List (Method × List (Passed ρ))
  world : σ

variable {σ π γ : Type}

/-- The outcome of an override in C++. -/
def Pybind.receive (py : Pybind π γ) (ret : CppType) : Except PyException π → Except CppException γ
  | .ok o => py.cast ret o
  | .error e => .error (.pythonError e (py.what e))

/-- A call of a virtual method.  `base` is the method of the base class. -/
def VirtualCall.dispatch (py : Pybind π γ)
    (base : VirtualCall ρ → List (Passed ρ) → σ → Obtained ρ σ γ) (self : PyInstance ρ σ π)
    (call : VirtualCall ρ) (world : σ) : Obtained ρ σ γ :=
  match call.body with
  | none => base call call.args world
  | some stmt =>
    match self stmt.name with
    | none => base call stmt.args world
    | some override =>
      let (answer, world) := override stmt.args world
      { result := py.receive stmt.ret answer
        out := call.out
        calls := [(stmt.name, stmt.args)]
        world }

/-! ## 3. Transparency -/

/-- The answer of an override is a text that belongs into the reference parameter. -/
def VirtualCall.AnswersText (py : Pybind π γ) (call : VirtualCall ρ)
    (answer : Except PyException π) : Prop :=
  call.out ≠ none ∧ ∃ text, answer = .ok (py.str text)

/-- The override is called once with what the caller passes, and the caller obtains what it
answers: the converted result, or for `get_attribute` its text in the reference parameter and a
result. -/
structure VirtualCall.Transparent (py : Pybind π γ) (sig : Signature) (override : PyMethod ρ σ π)
    (call : VirtualCall ρ) (world : σ) (obtained : Obtained ρ σ γ) : Prop where
  called : obtained.calls = [(sig.name, call.args)]
  world_eq : obtained.world = (override call.args world).2
  result_eq : ¬ call.AnswersText py (override call.args world).1 →
    obtained.result = py.receive sig.ret (override call.args world).1
  out_eq : ∀ text, call.out ≠ none → (override call.args world).1 = .ok (py.str text) →
    obtained.out = some text ∧ ∃ r, obtained.result = .ok r

/-- The methods that leave an argument out. -/
def VirtualCall.Drops : VirtualCall ρ → Prop
  | .wallet (.setDaemonConnectionUri _ _ _ _ _) => True
  | .wallet (.setDaemonConnection _ _) => True
  | .wallet (.importMultisigHex _ _) => True
  | _ => False

/-- Where a trampoline is declared, its statement has the declared type and name. -/
theorem VirtualCall.exists_body {call : VirtualCall ρ} {sig : Signature}
    (hsig : call.signature = some sig) :
    ∃ args, call.body = some ⟨sig.ret, sig.name, args⟩ := by
  cases call with
  | wallet call => cases call <;> cases hsig <;> exact ⟨_, rfl⟩
  | listener call => cases call <;> cases hsig <;> exact ⟨_, rfl⟩

/-- The statement passes everything that the caller passes, unless the method drops an
argument. -/
theorem VirtualCall.body_args {call : VirtualCall ρ} (hkeep : ¬ call.Drops)
    {stmt : OverrideStmt (Passed ρ)} (hbody : call.body = some stmt) : stmt.args = call.args := by
  cases call with
  | wallet call =>
    cases call <;> cases hbody <;> first | rfl | exact absurd trivial hkeep
  | listener call => cases call <;> cases hbody <;> rfl

/-- A method that drops an argument passes fewer than it gets. -/
theorem VirtualCall.body_args_lt {call : VirtualCall ρ} (hdrop : call.Drops)
    {stmt : OverrideStmt (Passed ρ)} (hbody : call.body = some stmt) :
    stmt.args.length < call.args.length := by
  cases call with
  | wallet call =>
    cases call
    case setDaemonConnectionUri =>
      cases hbody
      exact Nat.lt_succ_self _
    case setDaemonConnection =>
      cases hbody
      exact Nat.lt_succ_self _
    case importMultisigHex =>
      cases hbody
      exact Nat.lt_succ_self _
    all_goals exact hdrop.elim
  | listener call => exact hdrop.elim

/-- A statement finds the override of the declared name and calls it. -/
theorem VirtualCall.dispatch_override (py : Pybind π γ)
    (base : VirtualCall ρ → List (Passed ρ) → σ → Obtained ρ σ γ) {self : PyInstance ρ σ π}
    {call : VirtualCall ρ} {sig : Signature} {args : List (Passed ρ)}
    {override : PyMethod ρ σ π} (hbody : call.body = some ⟨sig.ret, sig.name, args⟩)
    (hself : self sig.name = some override) (world : σ) :
    call.dispatch py base self world =
      { result := py.receive sig.ret (override args world).1
        out := call.out
        calls := [(sig.name, args)]
        world := (override args world).2 } := by
  simp only [dispatch, hbody, hself]

/-- The only method with a reference parameter is declared to return a `bool`. -/
theorem VirtualCall.ret_of_out {call : VirtualCall ρ} {sig : Signature}
    (hsig : call.signature = some sig) (hout : call.out ≠ none) : sig.ret = .bool := by
  cases call with
  | wallet call =>
    cases call
    case getAttribute =>
      cases hsig
      rfl
    all_goals exact absurd rfl hout
  | listener call => exact absurd rfl hout

/-- **Trampoline transparency.**  An override that C++ code reaches through a trampoline is
called with all arguments and answers the caller, unless the method drops an argument, or it is
`get_attribute` and the override returns a text.  pybind11 converts no text to `bool`. -/
theorem VirtualCall.transparent_dispatch_iff (py : Pybind π γ)
    (base : VirtualCall ρ → List (Passed ρ) → σ → Obtained ρ σ γ) (self : PyInstance ρ σ π)
    {call : VirtualCall ρ} {sig : Signature} (hsig : call.signature = some sig)
    {override : PyMethod ρ σ π} (hself : self sig.name = some override)
    (hbool : ∀ text, ∃ e, py.cast .bool (py.str text) = .error e) (world : σ) :
    call.Transparent py sig override world (call.dispatch py base self world) ↔
      ¬ call.Drops ∧ ¬ call.AnswersText py (override call.args world).1 := by
  obtain ⟨args, hbody⟩ := exists_body hsig
  rw [dispatch_override py base hbody hself world]
  constructor
  · intro htrans
    have hcalled := htrans.called
    simp only [List.cons.injEq, Prod.mk.injEq, true_and, and_true] at hcalled
    refine ⟨?_, ?_⟩
    · intro hdrop
      have hlt := body_args_lt hdrop hbody
      rw [hcalled] at hlt
      exact absurd hlt (Nat.lt_irrefl _)
    · rintro ⟨hout, text, hanswer⟩
      obtain ⟨-, r, hr⟩ := htrans.out_eq text hout hanswer
      obtain ⟨e, he⟩ := hbool text
      rw [ret_of_out hsig hout, hcalled, hanswer, Pybind.receive, he] at hr
      cases hr
  · rintro ⟨hkeep, hnotext⟩
    have hargs : args = call.args := body_args hkeep hbody
    subst hargs
    exact
      { called := rfl
        world_eq := rfl
        result_eq := fun _ => rfl
        out_eq := fun text hout hanswer => absurd ⟨hout, text, hanswer⟩ hnotext }

/-! ### A small Python world

One override that returns a fixed text, in a world without state. -/

/-- Texts are converted to themselves, and to no `bool`. -/
def textPybind : Pybind String String where
  cast ret text :=
    if ret = .bool then .error (.stdException (.other "cast_error") text) else .ok text
  str text := text
  what _ := ""

def noBase (_ : VirtualCall ℕ) (_ : List (Passed ℕ)) (_ : Unit) : Obtained ℕ Unit String where
  result := .ok ""
  out := none
  calls := []
  world := ()

/-- An override that returns `text`. -/
def returning (text : String) : PyMethod ℕ Unit String := fun _ world => (.ok text, world)

/-- An instance whose class overrides the method `name` alone. -/
def overriding (name : Method) (override : PyMethod ℕ Unit String) : PyInstance ℕ Unit String :=
  fun name' => if name' = name then some override else none

/-- The instance at a call of `get_address`. -/
theorem VirtualCall.transparent_dispatch_iff_getAddress :
    VirtualCall.Transparent textPybind ⟨.string, .getAddress⟩ (returning "4A")
        (.wallet (.getAddress 0 1)) ()
        (VirtualCall.dispatch textPybind noBase (overriding .getAddress (returning "4A"))
          (.wallet (.getAddress 0 1)) ()) ↔
      ¬ VirtualCall.Drops (.wallet (.getAddress 0 1) : VirtualCall ℕ) ∧
        ¬ VirtualCall.AnswersText textPybind (.wallet (.getAddress 0 1) : VirtualCall ℕ)
          (returning "4A" (VirtualCall.args (.wallet (.getAddress 0 1))) ()).1 :=
  VirtualCall.transparent_dispatch_iff textPybind noBase
    (overriding .getAddress (returning "4A")) rfl rfl (fun _ => ⟨_, rfl⟩) ()

/-- `import_multisig_hex(hexes, false)` from C++: the override is called with the hexes alone. -/
theorem importMultisigHex_drops_refresh :
    ¬ VirtualCall.Transparent textPybind ⟨.int, .importMultisigHex⟩ (returning "0")
      (.wallet (.importMultisigHex ["aa"] false)) ()
      (VirtualCall.dispatch textPybind noBase (overriding .importMultisigHex (returning "0"))
        (.wallet (.importMultisigHex ["aa"] false)) ()) := by
  intro htrans
  have hargs := (Prod.mk.inj (List.cons.inj htrans.called).1).2
  exact absurd (congrArg List.length hargs) (by decide)

end MoneroPython.Wallet
