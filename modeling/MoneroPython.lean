import MoneroPython.Query.Links
import MoneroPython.Errors.Exceptions
import MoneroPython.Wallet.Transparency
import MoneroPython.Wallet.Errors
import MoneroPython.Lib.Assoc
import MoneroPython.Lib.Json
import MoneroPython.Lib.Strto
import MoneroPython.Rpc.Convert
import MoneroPython.Rpc.Ptree
import MoneroPython.Rpc.Response
import MoneroPython.Wallet.Txs
import MoneroPython.Lib.Utf16
import MoneroPython.Rpc.Params
import MoneroPython.Wallet.Trampoline
import MoneroPython.Query.Relink
import MoneroPython.Rpc.Resend
import MoneroPython.Wallet.Overrides
import MoneroPython.Wallet.TxConfig
import MoneroPython.Lib.Accumulate
import MoneroPython.Wallet.Amounts
import MoneroPython.Rpc.Loads
import MoneroPython.Rpc.RoundTrip
import MoneroPython.Lib.InterpreterLock
import MoneroPython.Wallet.EndToEnd
import MoneroPython.Daemon.Calls
import MoneroPython.Daemon.EndToEnd
import MoneroPython.Threads.Guards
import MoneroPython.Dispatch.Casters
import MoneroPython.Dispatch.Overloads
import MoneroPython.Lib.RefCount
import MoneroPython.Query.Lifetime
import MoneroPython.Dispatch.PassOn
import MoneroPython.Lib.RawPointers
import MoneroPython.Listeners.Registration
import MoneroPython.Wallet.SharedDestinations
