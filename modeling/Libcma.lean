import Libcma.Lib.Exec
import Libcma.Lib.Alike
import Libcma.Lib.Stage
import Libcma.Lib.Keeps
import Libcma.Lib.Run
import Libcma.Lib.Table
import Libcma.Lib.Slots
import Libcma.Lib.Book
import Libcma.Lib.Cells
import Libcma.Lib.Solidity
import Libcma.Lib.Hex
import Libcma.Lib.FromChars
import Libcma.Types
import Libcma.Amount
import Libcma.AmountObjects
import Libcma.Ledger.Base
import Libcma.Ledger.Args
import Libcma.Ledger.Basic
import Libcma.Ledger.Codes
import Libcma.Ledger.BasicSteps
import Libcma.Ledger.BasicConservation
import Libcma.Ledger.BasicRetrieve
import Libcma.Memory.State
import Libcma.Memory.Assets
import Libcma.Memory.Accounts
import Libcma.Memory.Balances
import Libcma.Memory.Codes
import Libcma.Memory.Store
import Libcma.Memory.Writes
import Libcma.Memory.Kept
import Libcma.Memory.Room
import Libcma.Memory.Drive
import Libcma.Memory.Registry
import Libcma.Memory.Retrieve
import Libcma.Memory.Calls
import Libcma.Memory.Steps
import Libcma.Memory.Books
import Libcma.Memory.Reserve
import Libcma.Memory.Runs
import Libcma.Memory.Counters
import Libcma.Memory.Conservation
import Libcma.Memory.Atomicity
import Libcma.Memory.Pointers
import Libcma.Memory.History
import Libcma.Memory.Layout
import Libcma.Memory.Holdings
import Libcma.Memory.Residue
import Libcma.Memory.Records
import Libcma.Memory.Isolation
import Libcma.Memory.Removal
import Libcma.Memory.Identity
import Libcma.Memory.BaseAsset
import Libcma.Memory.Limits
import Libcma.Memory.Capacity
import Libcma.Memory.Mirrors
import Libcma.Memory.Parallel
import Libcma.Memory.Reset
import Libcma.Memory.Sizes
import Libcma.Agreement
import Libcma.AccountTypes
import Libcma.NonFungible
import Libcma.Overflow
import Libcma.Retrievals
import Libcma.Api
import Libcma.Parser.Abi
import Libcma.Parser.Input
import Libcma.Parser.Batch
import Libcma.Parser.Decode
import Libcma.Parser.Lists
import Libcma.Parser.Frame
import Libcma.Parser.Standard
import Libcma.Parser.Canonical
import Libcma.Parser.Put
import Libcma.Parser.Voucher
import Libcma.Parser.Putting
import Libcma.Parser.Encodes
import Libcma.Parser.VoucherSize
import Libcma.Parser.VoucherRead
import Libcma.Parser.VoucherExact
import Libcma.Parser.Auto
import Libcma.Parser.Inspect
import Libcma.Parser.Grammar
import Libcma.Parser.Requests
import Libcma.Parser.InspectExact
import Libcma.Parser.ExecLayer
import Libcma.Parser.Rejections
import Libcma.DriveReader
import Libcma.Lib.HashTree
import Libcma.Memory.Typed
import Libcma.Merkle.Pristine
import Libcma.Merkle.CompleteTree
import Libcma.Merkle.Pushes
import Libcma.Merkle.Proof
import Libcma.Merkle.TreeProofs
import Libcma.Merkle.Binding
import Libcma.Merkle.Slices
import Libcma.Merkle.TreeHash
import Libcma.Merkle.DriveTree
import Libcma.Lib.Custody
import Libcma.Lib.Orders
import Libcma.Lib.Named
import Libcma.Lib.Returns
import Libcma.Wallet.App
import Libcma.Wallet.Holdings
import Libcma.Wallet.Calls
import Libcma.Wallet.Vouchers
import Libcma.Wallet.Requests
import Libcma.Wallet.Service
import Libcma.Wallet.Canonical
import Libcma.Wallet.Exits
import Libcma.Wallet.Withdrawals
import Libcma.Wallet.Guarantees
