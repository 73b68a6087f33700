import CkbScripts.Lib.Book
import CkbScripts.Lib.CheckedSum
import CkbScripts.Lib.Exchange
import CkbScripts.Lib.LeadingRun
import CkbScripts.Lib.LittleEndian
import CkbScripts.Lib.Outcome
import CkbScripts.Lib.PrefixCodec
import CkbScripts.Lib.Threshold
import CkbScripts.Chain
import CkbScripts.Vm
import CkbScripts.Wire
import CkbScripts.Sudt
import CkbScripts.SudtLedger
import CkbScripts.SudtBook
import CkbScripts.SudtMobility
import CkbScripts.SudtSpec
import CkbScripts.SudtOwner
import CkbScripts.SimpleLock
import CkbScripts.Timelock
import CkbScripts.Sdk
import CkbScripts.Wallet
import CkbScripts.Cli
import CkbScripts.DeployScript
import CkbScripts.Deploy
import CkbScripts.Spend
import CkbScripts.SudtMint
import CkbScripts.SudtSelect
import CkbScripts.SudtBalance
import CkbScripts.Capacity
import CkbScripts.SudtTransfer
import CkbScripts.SpendFee
import CkbScripts.SpendFrame
import CkbScripts.CodeDeps
import CkbScripts.LockFlow
import CkbScripts.TimelockDraft
import CkbScripts.FrozenIdl
import CkbScripts.Verification
import CkbScripts.LockLedger
import CkbScripts.SudtIssuance
import CkbScripts.Lib.Effects
import CkbScripts.Lib.Hex
import CkbScripts.Main
import CkbScripts.Submission
import CkbScripts.Session
import CkbScripts.Keygen
