/-
# The daemon bindings as calls

`py_monero_bind_daemon` (`daemon/py_monero_daemon_bindings.cpp`) binds 69 lambdas on
`MoneroDaemon`, and `PyMoneroDaemon` (`daemon/py_monero_daemon.h`) declares trampolines for the
operations that they invoke.  One constructor of `DaemonCall` stands for each bound lambda, with
the arguments that pybind11 hands to it.  The parameters of a lambda are those of its operation, so
`CoreCall` has the same constructors, and one more for `remove_listeners`, which is not bound.

`DaemonCall.invoke` are the lambda bodies, `CoreCall.body` are the statements of the trampolines.
Overloads of one name get a suffix; the defaults are those of the bindings.
-/
import Mathlib.Tactic.Common

namespace MoneroPython.Daemon

/-! ## 1. Calls from Python -/

/-- A value that is passed, with its C++ type. -/
inductive Arg (ρ : Type) where
  | u64 (v : UInt64) | int (v : Int32) | bool (v : Bool) | str (v : String)
  | optBool (v : Option Bool) | optInt (v : Option Int32) | optU32 (v : Option UInt32)
  | optU64 (v : Option UInt64) | optStr (v : Option String)
  | u64s (v : List UInt64) | strs (v : List String)
  | ref (v : ρ) | optRef (v : Option ρ) | refs (v : List ρ)

/-- A call of a binding, with its arguments. -/
inductive DaemonCall (ρ : Type) where
  | addListener (listener : ρ)
  | removeListener (listener : ρ)
  | getListeners | getVersion | isTrusted | getHeight
  | getBlockHash (height : UInt64)
  | getBlockTemplate (walletAddress : String) (reserveSize : Option Int32 := none)
  | getLastBlockHeader
  | getBlockHeaderByHash (hash : String)
  | getBlockHeaderByHeight (height : UInt64)
  | getBlockHeadersByRange (startHeight endHeight : UInt64)
  | getBlockByHash (hash : String)
  | getBlocksByHash (blockHashes : List String) (startHeight : UInt64) (prune : Bool)
  | getBlockByHeight (height : UInt64)
  | getBlocksByHeight (heights : List UInt64)
  | getBlocksByRange (startHeight endHeight : Option UInt64)
  | getBlocksByRangeChunked (startHeight endHeight : Option UInt64)
      (maxChunkSize : Option UInt64 := none)
  | getBlockHashes (blockHashes : List String) (startHeight : UInt64)
  | getTx (txHash : String) (prune : Bool := false)
  | getTxs (txHashes : List String) (prune : Bool := false)
  | getTxHex (txHash : String) (prune : Bool := false)
  | getTxHexes (txHashes : List String) (prune : Bool := false)
  | getMinerTxSum (height numBlocks : UInt64)
  | getFeeEstimate (graceBlocks : UInt64 := 0)
  | submitTxHex (txHex : String) (doNotRelay : Bool := false)
  | relayTxByHash (txHash : String)
  | relayTxsByHash (txHashes : List String)
  | getTxPool | getTxPoolHashes | getTxPoolBacklog | getTxPoolStats | flushTxPool
  | flushTxPoolHashes (hashes : List String)
  | flushTxPoolHash (hash : String)
  | getKeyImageSpentStatus (keyImage : String)
  | getKeyImageSpentStatuses (keyImages : List String)
  | getOutputs (outputs : List ρ)
  | getOutputHistogram (amounts : List UInt64) (minCount maxCount : Option Int32)
      (isUnlocked : Option Bool) (recentCutoff : Option Int32)
  | getOutputDistribution (amounts : List UInt64) (isCumulative : Option Bool := none)
      (startHeight endHeight : Option UInt64 := none)
  | getInfo | getSyncInfo | getHardForkInfo | getAltChains | getAltBlockHashes | getDownloadLimit
  | setDownloadLimit (limit : Int32)
  | resetDownloadLimit | getUploadLimit
  | setUploadLimit (limit : Int32)
  | resetUploadLimit | getPeers | getKnownPeers
  | setOutgoingPeerLimit (limit : Int32)
  | setIncomingPeerLimit (limit : Int32)
  | getPeerBans
  | setPeerBans (bans : List ρ)
  | setPeerBan (ban : Option ρ)
  | startMining (address : String) (numThreads : Option UInt64)
      (isBackground ignoreBattery : Option Bool)
  | stopMining | getMiningStatus
  | generateBlocks (walletAddress : String) (numBlocks : UInt64)
      (prevBlockHash : Option String := none) (startingNonce : Option UInt32 := none)
  | submitBlock (blockBlob : String)
  | submitBlocks (blockBlobs : List String)
  | pruneBlockchain (check : Bool)
  | checkForUpdate
  | downloadUpdate (path : String := "")
  | stop | waitForNextBlockHeader

variable {ρ : Type}

/-- The arguments in the order of the binding. -/
def DaemonCall.args : DaemonCall ρ → List (Arg ρ)
  | .addListener listener => [.ref listener]
  | .removeListener listener => [.ref listener]
  | .getBlockHash height => [.u64 height]
  | .getBlockTemplate walletAddress reserveSize => [.str walletAddress, .optInt reserveSize]
  | .getBlockHeaderByHash hash => [.str hash]
  | .getBlockHeaderByHeight height => [.u64 height]
  | .getBlockHeadersByRange startHeight endHeight => [.u64 startHeight, .u64 endHeight]
  | .getBlockByHash hash => [.str hash]
  | .getBlocksByHash blockHashes startHeight prune =>
    [.strs blockHashes, .u64 startHeight, .bool prune]
  | .getBlockByHeight height => [.u64 height]
  | .getBlocksByHeight heights => [.u64s heights]
  | .getBlocksByRange startHeight endHeight => [.optU64 startHeight, .optU64 endHeight]
  | .getBlocksByRangeChunked startHeight endHeight maxChunkSize =>
    [.optU64 startHeight, .optU64 endHeight, .optU64 maxChunkSize]
  | .getBlockHashes blockHashes startHeight => [.strs blockHashes, .u64 startHeight]
  | .getTx txHash prune => [.str txHash, .bool prune]
  | .getTxs txHashes prune => [.strs txHashes, .bool prune]
  | .getTxHex txHash prune => [.str txHash, .bool prune]
  | .getTxHexes txHashes prune => [.strs txHashes, .bool prune]
  | .getMinerTxSum height numBlocks => [.u64 height, .u64 numBlocks]
  | .getFeeEstimate graceBlocks => [.u64 graceBlocks]
  | .submitTxHex txHex doNotRelay => [.str txHex, .bool doNotRelay]
  | .relayTxByHash txHash => [.str txHash]
  | .relayTxsByHash txHashes => [.strs txHashes]
  | .flushTxPoolHashes hashes => [.strs hashes]
  | .flushTxPoolHash hash => [.str hash]
  | .getKeyImageSpentStatus keyImage => [.str keyImage]
  | .getKeyImageSpentStatuses keyImages => [.strs keyImages]
  | .getOutputs outputs => [.refs outputs]
  | .getOutputHistogram amounts minCount maxCount isUnlocked recentCutoff =>
    [.u64s amounts, .optInt minCount, .optInt maxCount, .optBool isUnlocked, .optInt recentCutoff]
  | .getOutputDistribution amounts isCumulative startHeight endHeight =>
    [.u64s amounts, .optBool isCumulative, .optU64 startHeight, .optU64 endHeight]
  | .setDownloadLimit limit => [.int limit]
  | .setUploadLimit limit => [.int limit]
  | .setOutgoingPeerLimit limit => [.int limit]
  | .setIncomingPeerLimit limit => [.int limit]
  | .setPeerBans bans => [.refs bans]
  | .setPeerBan ban => [.optRef ban]
  | .startMining address numThreads isBackground ignoreBattery =>
    [.str address, .optU64 numThreads, .optBool isBackground, .optBool ignoreBattery]
  | .generateBlocks walletAddress numBlocks prevBlockHash startingNonce =>
    [.str walletAddress, .u64 numBlocks, .optStr prevBlockHash, .optU32 startingNonce]
  | .submitBlock blockBlob => [.str blockBlob]
  | .submitBlocks blockBlobs => [.strs blockBlobs]
  | .pruneBlockchain check => [.bool check]
  | .downloadUpdate path => [.str path]
  | _ => []

/-! ## 2. Operations of the core -/

/-- A call of an operation of `monero_daemon`, with the value of each parameter. -/
inductive CoreCall (ρ : Type) where
  | addListener (listener : ρ)
  | removeListener (listener : ρ)
  | getListeners | getVersion | isTrusted | getHeight
  | getBlockHash (height : UInt64)
  | getBlockTemplate (walletAddress : String) (reserveSize : Option Int32)
  | getLastBlockHeader
  | getBlockHeaderByHash (hash : String)
  | getBlockHeaderByHeight (height : UInt64)
  | getBlockHeadersByRange (startHeight endHeight : UInt64)
  | getBlockByHash (hash : String)
  | getBlocksByHash (blockHashes : List String) (startHeight : UInt64) (prune : Bool)
  | getBlockByHeight (height : UInt64)
  | getBlocksByHeight (heights : List UInt64)
  | getBlocksByRange (startHeight endHeight : Option UInt64)
  | getBlocksByRangeChunked (startHeight endHeight : Option UInt64) (maxChunkSize : Option UInt64)
  | getBlockHashes (blockHashes : List String) (startHeight : UInt64)
  | getTx (txHash : String) (prune : Bool)
  | getTxs (txHashes : List String) (prune : Bool)
  | getTxHex (txHash : String) (prune : Bool)
  | getTxHexes (txHashes : List String) (prune : Bool)
  | getMinerTxSum (height numBlocks : UInt64)
  | getFeeEstimate (graceBlocks : UInt64)
  | submitTxHex (txHex : String) (doNotRelay : Bool)
  | relayTxByHash (txHash : String)
  | relayTxsByHash (txHashes : List String)
  | getTxPool | getTxPoolHashes | getTxPoolBacklog | getTxPoolStats | flushTxPool
  | flushTxPoolHashes (hashes : List String)
  | flushTxPoolHash (hash : String)
  | getKeyImageSpentStatus (keyImage : String)
  | getKeyImageSpentStatuses (keyImages : List String)
  | getOutputs (outputs : List ρ)
  | getOutputHistogram (amounts : List UInt64) (minCount maxCount : Option Int32)
      (isUnlocked : Option Bool) (recentCutoff : Option Int32)
  | getOutputDistribution (amounts : List UInt64) (isCumulative : Option Bool)
      (startHeight endHeight : Option UInt64)
  | getInfo | getSyncInfo | getHardForkInfo | getAltChains | getAltBlockHashes | getDownloadLimit
  | setDownloadLimit (limit : Int32)
  | resetDownloadLimit | getUploadLimit
  | setUploadLimit (limit : Int32)
  | resetUploadLimit | getPeers | getKnownPeers
  | setOutgoingPeerLimit (limit : Int32)
  | setIncomingPeerLimit (limit : Int32)
  | getPeerBans
  | setPeerBans (bans : List ρ)
  | setPeerBan (ban : Option ρ)
  | startMining (address : String) (numThreads : Option UInt64)
      (isBackground ignoreBattery : Option Bool)
  | stopMining | getMiningStatus
  | generateBlocks (walletAddress : String) (numBlocks : UInt64) (prevBlockHash : Option String)
      (startingNonce : Option UInt32)
  | submitBlock (blockBlob : String)
  | submitBlocks (blockBlobs : List String)
  | pruneBlockchain (check : Bool)
  | checkForUpdate
  | downloadUpdate (path : String)
  | stop | waitForNextBlockHeader
  | removeListeners

/-- The lambda bodies. -/
def DaemonCall.invoke : DaemonCall ρ → CoreCall ρ
  | .addListener listener => .addListener listener
  | .removeListener listener => .removeListener listener
  | .getListeners => .getListeners
  | .getVersion => .getVersion
  | .isTrusted => .isTrusted
  | .getHeight => .getHeight
  | .getBlockHash height => .getBlockHash height
  | .getBlockTemplate walletAddress reserveSize => .getBlockTemplate walletAddress reserveSize
  | .getLastBlockHeader => .getLastBlockHeader
  | .getBlockHeaderByHash hash => .getBlockHeaderByHash hash
  | .getBlockHeaderByHeight height => .getBlockHeaderByHeight height
  | .getBlockHeadersByRange startHeight endHeight =>
    .getBlockHeadersByRange startHeight endHeight
  | .getBlockByHash hash => .getBlockByHash hash
  | .getBlocksByHash blockHashes startHeight prune =>
    .getBlocksByHash blockHashes startHeight prune
  | .getBlockByHeight height => .getBlockByHeight height
  | .getBlocksByHeight heights => .getBlocksByHeight heights
  | .getBlocksByRange startHeight endHeight => .getBlocksByRange startHeight endHeight
  | .getBlocksByRangeChunked startHeight endHeight maxChunkSize =>
    .getBlocksByRangeChunked startHeight endHeight maxChunkSize
  | .getBlockHashes blockHashes startHeight => .getBlockHashes blockHashes startHeight
  | .getTx txHash prune => .getTx txHash prune
  | .getTxs txHashes prune => .getTxs txHashes prune
  | .getTxHex txHash prune => .getTxHex txHash prune
  | .getTxHexes txHashes prune => .getTxHexes txHashes prune
  | .getMinerTxSum height numBlocks => .getMinerTxSum height numBlocks
  | .getFeeEstimate graceBlocks => .getFeeEstimate graceBlocks
  | .submitTxHex txHex doNotRelay => .submitTxHex txHex doNotRelay
  | .relayTxByHash txHash => .relayTxByHash txHash
  | .relayTxsByHash txHashes => .relayTxsByHash txHashes
  | .getTxPool => .getTxPool
  | .getTxPoolHashes => .getTxPoolHashes
  | .getTxPoolBacklog => .getTxPoolBacklog
  | .getTxPoolStats => .getTxPoolStats
  | .flushTxPool => .flushTxPool
  | .flushTxPoolHashes hashes => .flushTxPoolHashes hashes
  | .flushTxPoolHash hash => .flushTxPoolHash hash
  | .getKeyImageSpentStatus keyImage => .getKeyImageSpentStatus keyImage
  | .getKeyImageSpentStatuses keyImages => .getKeyImageSpentStatuses keyImages
  | .getOutputs outputs => .getOutputs outputs
  | .getOutputHistogram amounts minCount maxCount isUnlocked recentCutoff =>
    .getOutputHistogram amounts minCount maxCount isUnlocked recentCutoff
  | .getOutputDistribution amounts isCumulative startHeight endHeight =>
    .getOutputDistribution amounts isCumulative startHeight endHeight
  | .getInfo => .getInfo
  | .getSyncInfo => .getSyncInfo
  | .getHardForkInfo => .getHardForkInfo
  | .getAltChains => .getAltChains
  | .getAltBlockHashes => .getAltBlockHashes
  | .getDownloadLimit => .getDownloadLimit
  | .setDownloadLimit limit => .setDownloadLimit limit
  | .resetDownloadLimit => .resetDownloadLimit
  | .getUploadLimit => .getUploadLimit
  | .setUploadLimit limit => .setUploadLimit limit
  | .resetUploadLimit => .resetUploadLimit
  | .getPeers => .getPeers
  | .getKnownPeers => .getKnownPeers
  | .setOutgoingPeerLimit limit => .setOutgoingPeerLimit limit
  | .setIncomingPeerLimit limit => .setIncomingPeerLimit limit
  | .getPeerBans => .getPeerBans
  | .setPeerBans bans => .setPeerBans bans
  | .setPeerBan ban => .setPeerBan ban
  | .startMining address numThreads isBackground ignoreBattery =>
    .startMining address numThreads isBackground ignoreBattery
  | .stopMining => .stopMining
  | .getMiningStatus => .getMiningStatus
  | .generateBlocks walletAddress numBlocks prevBlockHash startingNonce =>
    .generateBlocks walletAddress numBlocks prevBlockHash startingNonce
  | .submitBlock blockBlob => .submitBlock blockBlob
  | .submitBlocks blockBlobs => .submitBlocks blockBlobs
  | .pruneBlockchain check => .pruneBlockchain check
  | .checkForUpdate => .checkForUpdate
  | .downloadUpdate path => .downloadUpdate path
  | .stop => .stop
  | .waitForNextBlockHeader => .waitForNextBlockHeader

/-! ## 3. Trampolines -/

/-- The virtual methods that the trampolines override. -/
inductive Method where
  | addListener | removeListener | getListeners | removeListeners | getVersion | isTrusted
  | getHeight | getBlockHash | getBlockTemplate | getLastBlockHeader | getBlockHeaderByHash
  | getBlockHeaderByHeight | getBlockHeadersByRange | getBlockByHash | getBlocksByHash
  | getBlockByHeight | getBlocksByHeight | getBlocksByRange | getBlocksByRangeChunked
  | getBlockHashes | getTx | getTxs | getTxHex | getTxHexes | getMinerTxSum | getFeeEstimate
  | submitTxHex | relayTxByHash | relayTxsByHash | getTxPool | getTxPoolHashes | getTxPoolBacklog
  | getTxPoolStats | flushTxPool | getKeyImageSpentStatus | getKeyImageSpentStatuses | getOutputs
  | getOutputHistogram | getOutputDistribution | getInfo | getSyncInfo | getHardForkInfo
  | getAltChains | getAltBlockHashes | getDownloadLimit | setDownloadLimit | resetDownloadLimit
  | getUploadLimit | setUploadLimit | resetUploadLimit | getPeers | getKnownPeers
  | setOutgoingPeerLimit | setIncomingPeerLimit | getPeerBans | setPeerBans | setPeerBan
  | startMining | stopMining | getMiningStatus | generateBlocks | submitBlock | submitBlocks
  | pruneBlockchain | checkForUpdate | downloadUpdate | stop | waitForNextBlockHeader
  | onBlockHeader
deriving DecidableEq

/-- The types that these methods return.  A plural is a vector, and the listeners are a set. -/
inductive CppType where
  | void | moneroDaemonListeners | moneroVersion | bool | uint64 | string | moneroBlockTemplate
  | moneroBlockHeader | moneroBlockHeaders | moneroBlock | moneroBlocks | strings | moneroTx
  | moneroTxs | optString | moneroMinerTxSum | moneroFeeEstimate | moneroSubmitTxResult
  | moneroTxBacklogEntries | moneroTxPoolStats | moneroKeyImageSpentStatus
  | moneroKeyImageSpentStatuses | moneroOutputs | moneroOutputHistogramEntries
  | moneroOutputDistributionEntries | moneroDaemonInfo | moneroDaemonSyncInfo | moneroHardForkInfo
  | moneroAltChains | int | moneroPeers | moneroBans | moneroMiningStatus
  | moneroGenerateBlocksResult | moneroPruneResult | moneroDaemonUpdateCheckResult
  | moneroDaemonUpdateDownloadResult
deriving DecidableEq

/-- A virtual method as its trampoline declares it. -/
structure Signature where
  ret : CppType
  name : Method

/-- A statement `PYBIND11_OVERRIDE(ret, base, name, args...)`. -/
structure OverrideStmt (ρ : Type) where
  ret : CppType
  name : Method
  args : List (Arg ρ)

def CoreCall.signature : CoreCall ρ → Signature
  | .addListener _ => ⟨.void, .addListener⟩
  | .removeListener _ => ⟨.void, .removeListener⟩
  | .getListeners => ⟨.moneroDaemonListeners, .getListeners⟩
  | .getVersion => ⟨.moneroVersion, .getVersion⟩
  | .isTrusted => ⟨.bool, .isTrusted⟩
  | .getHeight => ⟨.uint64, .getHeight⟩
  | .getBlockHash _ => ⟨.string, .getBlockHash⟩
  | .getBlockTemplate _ _ => ⟨.moneroBlockTemplate, .getBlockTemplate⟩
  | .getLastBlockHeader => ⟨.moneroBlockHeader, .getLastBlockHeader⟩
  | .getBlockHeaderByHash _ => ⟨.moneroBlockHeader, .getBlockHeaderByHash⟩
  | .getBlockHeaderByHeight _ => ⟨.moneroBlockHeader, .getBlockHeaderByHeight⟩
  | .getBlockHeadersByRange _ _ => ⟨.moneroBlockHeaders, .getBlockHeadersByRange⟩
  | .getBlockByHash _ => ⟨.moneroBlock, .getBlockByHash⟩
  | .getBlocksByHash _ _ _ => ⟨.moneroBlocks, .getBlocksByHash⟩
  | .getBlockByHeight _ => ⟨.moneroBlock, .getBlockByHeight⟩
  | .getBlocksByHeight _ => ⟨.moneroBlocks, .getBlocksByHeight⟩
  | .getBlocksByRange _ _ => ⟨.moneroBlocks, .getBlocksByRange⟩
  | .getBlocksByRangeChunked _ _ _ => ⟨.moneroBlocks, .getBlocksByRangeChunked⟩
  | .getBlockHashes _ _ => ⟨.strings, .getBlockHashes⟩
  | .getTx _ _ => ⟨.moneroTx, .getTx⟩
  | .getTxs _ _ => ⟨.moneroTxs, .getTxs⟩
  | .getTxHex _ _ => ⟨.optString, .getTxHex⟩
  | .getTxHexes _ _ => ⟨.strings, .getTxHexes⟩
  | .getMinerTxSum _ _ => ⟨.moneroMinerTxSum, .getMinerTxSum⟩
  | .getFeeEstimate _ => ⟨.moneroFeeEstimate, .getFeeEstimate⟩
  | .submitTxHex _ _ => ⟨.moneroSubmitTxResult, .submitTxHex⟩
  | .relayTxByHash _ => ⟨.void, .relayTxByHash⟩
  | .relayTxsByHash _ => ⟨.void, .relayTxsByHash⟩
  | .getTxPool => ⟨.moneroTxs, .getTxPool⟩
  | .getTxPoolHashes => ⟨.strings, .getTxPoolHashes⟩
  | .getTxPoolBacklog => ⟨.moneroTxBacklogEntries, .getTxPoolBacklog⟩
  | .getTxPoolStats => ⟨.moneroTxPoolStats, .getTxPoolStats⟩
  | .flushTxPool | .flushTxPoolHashes _ | .flushTxPoolHash _ => ⟨.void, .flushTxPool⟩
  | .getKeyImageSpentStatus _ => ⟨.moneroKeyImageSpentStatus, .getKeyImageSpentStatus⟩
  | .getKeyImageSpentStatuses _ => ⟨.moneroKeyImageSpentStatuses, .getKeyImageSpentStatuses⟩
  | .getOutputs _ => ⟨.moneroOutputs, .getOutputs⟩
  | .getOutputHistogram _ _ _ _ _ => ⟨.moneroOutputHistogramEntries, .getOutputHistogram⟩
  | .getOutputDistribution _ _ _ _ => ⟨.moneroOutputDistributionEntries, .getOutputDistribution⟩
  | .getInfo => ⟨.moneroDaemonInfo, .getInfo⟩
  | .getSyncInfo => ⟨.moneroDaemonSyncInfo, .getSyncInfo⟩
  | .getHardForkInfo => ⟨.moneroHardForkInfo, .getHardForkInfo⟩
  | .getAltChains => ⟨.moneroAltChains, .getAltChains⟩
  | .getAltBlockHashes => ⟨.strings, .getAltBlockHashes⟩
  | .getDownloadLimit => ⟨.int, .getDownloadLimit⟩
  | .setDownloadLimit _ => ⟨.int, .setDownloadLimit⟩
  | .resetDownloadLimit => ⟨.int, .resetDownloadLimit⟩
  | .getUploadLimit => ⟨.int, .getUploadLimit⟩
  | .setUploadLimit _ => ⟨.int, .setUploadLimit⟩
  | .resetUploadLimit => ⟨.int, .resetUploadLimit⟩
  | .getPeers => ⟨.moneroPeers, .getPeers⟩
  | .getKnownPeers => ⟨.moneroPeers, .getKnownPeers⟩
  | .setOutgoingPeerLimit _ => ⟨.void, .setOutgoingPeerLimit⟩
  | .setIncomingPeerLimit _ => ⟨.void, .setIncomingPeerLimit⟩
  | .getPeerBans => ⟨.moneroBans, .getPeerBans⟩
  | .setPeerBans _ => ⟨.void, .setPeerBans⟩
  | .setPeerBan _ => ⟨.void, .setPeerBan⟩
  | .startMining _ _ _ _ => ⟨.void, .startMining⟩
  | .stopMining => ⟨.void, .stopMining⟩
  | .getMiningStatus => ⟨.moneroMiningStatus, .getMiningStatus⟩
  | .generateBlocks _ _ _ _ => ⟨.moneroGenerateBlocksResult, .generateBlocks⟩
  | .submitBlock _ => ⟨.void, .submitBlock⟩
  | .submitBlocks _ => ⟨.void, .submitBlocks⟩
  | .pruneBlockchain _ => ⟨.moneroPruneResult, .pruneBlockchain⟩
  | .checkForUpdate => ⟨.moneroDaemonUpdateCheckResult, .checkForUpdate⟩
  | .downloadUpdate _ => ⟨.moneroDaemonUpdateDownloadResult, .downloadUpdate⟩
  | .stop => ⟨.void, .stop⟩
  | .waitForNextBlockHeader => ⟨.moneroBlockHeader, .waitForNextBlockHeader⟩
  | .removeListeners => ⟨.void, .removeListeners⟩

/-- The bodies of the methods of `PyMoneroDaemon`. -/
def CoreCall.body : CoreCall ρ → OverrideStmt ρ
  | .addListener listener => ⟨.void, .addListener, [.ref listener]⟩
  | .removeListener listener => ⟨.void, .removeListener, [.ref listener]⟩
  | .getListeners => ⟨.moneroDaemonListeners, .getListeners, []⟩
  | .getVersion => ⟨.moneroVersion, .getVersion, []⟩
  | .isTrusted => ⟨.bool, .isTrusted, []⟩
  | .getHeight => ⟨.uint64, .getHeight, []⟩
  | .getBlockHash height => ⟨.string, .getBlockHash, [.u64 height]⟩
  | .getBlockTemplate walletAddress reserveSize =>
    ⟨.moneroBlockTemplate, .getBlockTemplate, [.str walletAddress, .optInt reserveSize]⟩
  | .getLastBlockHeader => ⟨.moneroBlockHeader, .getLastBlockHeader, []⟩
  | .getBlockHeaderByHash hash => ⟨.moneroBlockHeader, .getBlockHeaderByHash, [.str hash]⟩
  | .getBlockHeaderByHeight height =>
    ⟨.moneroBlockHeader, .getBlockHeaderByHeight, [.u64 height]⟩
  | .getBlockHeadersByRange startHeight endHeight =>
    ⟨.moneroBlockHeaders, .getBlockHeadersByRange, [.u64 startHeight, .u64 endHeight]⟩
  | .getBlockByHash hash => ⟨.moneroBlock, .getBlockByHash, [.str hash]⟩
  | .getBlocksByHash blockHashes startHeight prune =>
    ⟨.moneroBlocks, .getBlocksByHash, [.strs blockHashes, .u64 startHeight, .bool prune]⟩
  | .getBlockByHeight height => ⟨.moneroBlock, .getBlockByHeight, [.u64 height]⟩
  | .getBlocksByHeight heights => ⟨.moneroBlocks, .getBlocksByHeight, [.u64s heights]⟩
  | .getBlocksByRange startHeight endHeight =>
    ⟨.moneroBlocks, .getBlocksByRange, [.optU64 startHeight, .optU64 endHeight]⟩
  | .getBlocksByRangeChunked startHeight endHeight maxChunkSize =>
    ⟨.moneroBlocks, .getBlocksByRangeChunked, [.optU64 startHeight, .optU64 endHeight,
      .optU64 maxChunkSize]⟩
  | .getBlockHashes blockHashes startHeight =>
    ⟨.strings, .getBlockHashes, [.strs blockHashes, .u64 startHeight]⟩
  | .getTx txHash prune => ⟨.moneroTx, .getTx, [.str txHash, .bool prune]⟩
  | .getTxs txHashes prune => ⟨.moneroTxs, .getTxs, [.strs txHashes, .bool prune]⟩
  | .getTxHex txHash prune => ⟨.optString, .getTxHex, [.str txHash, .bool prune]⟩
  | .getTxHexes txHashes prune => ⟨.strings, .getTxHexes, [.strs txHashes, .bool prune]⟩
  | .getMinerTxSum height numBlocks =>
    ⟨.moneroMinerTxSum, .getMinerTxSum, [.u64 height, .u64 numBlocks]⟩
  | .getFeeEstimate graceBlocks => ⟨.moneroFeeEstimate, .getFeeEstimate, [.u64 graceBlocks]⟩
  | .submitTxHex txHex doNotRelay =>
    ⟨.moneroSubmitTxResult, .submitTxHex, [.str txHex, .bool doNotRelay]⟩
  | .relayTxByHash txHash => ⟨.void, .relayTxByHash, [.str txHash]⟩
  | .relayTxsByHash txHashes => ⟨.void, .relayTxsByHash, [.strs txHashes]⟩
  | .getTxPool => ⟨.moneroTxs, .getTxPool, []⟩
  | .getTxPoolHashes => ⟨.strings, .getTxPoolHashes, []⟩
  | .getTxPoolBacklog => ⟨.moneroTxBacklogEntries, .getTxPoolBacklog, []⟩
  | .getTxPoolStats => ⟨.moneroTxPoolStats, .getTxPoolStats, []⟩
  | .flushTxPool => ⟨.void, .flushTxPool, []⟩
  | .flushTxPoolHashes hashes => ⟨.void, .flushTxPool, [.strs hashes]⟩
  | .flushTxPoolHash hash => ⟨.void, .flushTxPool, [.str hash]⟩
  | .getKeyImageSpentStatus keyImage =>
    ⟨.moneroKeyImageSpentStatus, .getKeyImageSpentStatus, [.str keyImage]⟩
  | .getKeyImageSpentStatuses keyImages =>
    ⟨.moneroKeyImageSpentStatuses, .getKeyImageSpentStatuses, [.strs keyImages]⟩
  | .getOutputs outputs => ⟨.moneroOutputs, .getOutputs, [.refs outputs]⟩
  | .getOutputHistogram amounts minCount maxCount isUnlocked recentCutoff =>
    ⟨.moneroOutputHistogramEntries, .getOutputHistogram, [.u64s amounts, .optInt minCount,
      .optInt maxCount, .optBool isUnlocked, .optInt recentCutoff]⟩
  | .getOutputDistribution amounts isCumulative startHeight endHeight =>
    ⟨.moneroOutputDistributionEntries, .getOutputDistribution, [.u64s amounts,
      .optBool isCumulative, .optU64 startHeight, .optU64 endHeight]⟩
  | .getInfo => ⟨.moneroDaemonInfo, .getInfo, []⟩
  | .getSyncInfo => ⟨.moneroDaemonSyncInfo, .getSyncInfo, []⟩
  | .getHardForkInfo => ⟨.moneroHardForkInfo, .getHardForkInfo, []⟩
  | .getAltChains => ⟨.moneroAltChains, .getAltChains, []⟩
  | .getAltBlockHashes => ⟨.strings, .getAltBlockHashes, []⟩
  | .getDownloadLimit => ⟨.int, .getDownloadLimit, []⟩
  | .setDownloadLimit limit => ⟨.int, .setDownloadLimit, [.int limit]⟩
  | .resetDownloadLimit => ⟨.int, .resetDownloadLimit, []⟩
  | .getUploadLimit => ⟨.int, .getUploadLimit, []⟩
  | .setUploadLimit limit => ⟨.int, .setUploadLimit, [.int limit]⟩
  | .resetUploadLimit => ⟨.int, .resetUploadLimit, []⟩
  | .getPeers => ⟨.moneroPeers, .getPeers, []⟩
  | .getKnownPeers => ⟨.moneroPeers, .getKnownPeers, []⟩
  | .setOutgoingPeerLimit limit => ⟨.void, .setOutgoingPeerLimit, [.int limit]⟩
  | .setIncomingPeerLimit limit => ⟨.void, .setIncomingPeerLimit, [.int limit]⟩
  | .getPeerBans => ⟨.moneroBans, .getPeerBans, []⟩
  | .setPeerBans bans => ⟨.void, .setPeerBans, [.refs bans]⟩
  | .setPeerBan ban => ⟨.void, .setPeerBan, [.optRef ban]⟩
  | .startMining address numThreads isBackground ignoreBattery =>
    ⟨.void, .startMining, [.str address, .optU64 numThreads, .optBool isBackground,
      .optBool ignoreBattery]⟩
  | .stopMining => ⟨.void, .stopMining, []⟩
  | .getMiningStatus => ⟨.moneroMiningStatus, .getMiningStatus, []⟩
  | .generateBlocks walletAddress numBlocks prevBlockHash startingNonce =>
    ⟨.moneroGenerateBlocksResult, .generateBlocks, [.str walletAddress, .u64 numBlocks,
      .optStr prevBlockHash, .optU32 startingNonce]⟩
  | .submitBlock blockBlob => ⟨.void, .submitBlock, [.str blockBlob]⟩
  | .submitBlocks blockBlobs => ⟨.void, .submitBlocks, [.strs blockBlobs]⟩
  | .pruneBlockchain check => ⟨.moneroPruneResult, .pruneBlockchain, [.bool check]⟩
  | .checkForUpdate => ⟨.moneroDaemonUpdateCheckResult, .checkForUpdate, []⟩
  | .downloadUpdate path => ⟨.moneroDaemonUpdateDownloadResult, .downloadUpdate, [.str path]⟩
  | .stop => ⟨.void, .stop, []⟩
  | .waitForNextBlockHeader => ⟨.moneroBlockHeader, .waitForNextBlockHeader, []⟩
  | .removeListeners => ⟨.void, .removeListeners, []⟩

/-! ## 4. Listeners -/

/-- A call of a bound operation of `MoneroDaemon` or of `MoneroDaemonListener`, whose only one is
`on_block_header`. -/
inductive BoundCall (ρ : Type) where
  | daemon (call : DaemonCall ρ)
  | onBlockHeader (header : Option ρ)

def BoundCall.args : BoundCall ρ → List (Arg ρ)
  | .daemon call => call.args
  | .onBlockHeader header => [.optRef header]

def BoundCall.signature : BoundCall ρ → Signature
  | .daemon call => call.invoke.signature
  | .onBlockHeader _ => ⟨.void, .onBlockHeader⟩

/-- The statement of the trampoline that overrides the operation. -/
def BoundCall.body : BoundCall ρ → OverrideStmt ρ
  | .daemon call => call.invoke.body
  | .onBlockHeader header => ⟨.void, .onBlockHeader, [.optRef header]⟩

end MoneroPython.Daemon
