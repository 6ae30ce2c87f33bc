import ChainClient.Channel.Escrow
import ChainClient.Client.ConfigText
import ChainClient.Client.Facade
import ChainClient.Client.Query
import ChainClient.Client.Transaction
import ChainClient.Evm.SignedTx
import ChainClient.Node.Script
import ChainClient.Rpc.Address
import ChainClient.Rpc.Client
import ChainClient.Proofs.Json.Order
import ChainClient.Proofs.Text.Digits
import ChainClient.Proofs.Text.Utf8
import ChainClient.Proofs.Text.Pieces
import ChainClient.Proofs.Text.LetterCase
import ChainClient.Proofs.Json.StringToken
import ChainClient.Proofs.Json.Integer
import ChainClient.Proofs.Json.Plain
import ChainClient.Proofs.Json.Token
import ChainClient.Proofs.Json.Assembly
import ChainClient.Proofs.Coin.Decimal
import ChainClient.Proofs.Coin.Text
import ChainClient.Proofs.Coin.Notation
import ChainClient.Proofs.Coin.Lists
import ChainClient.Proofs.Encoding.Bech32.Checksum
import ChainClient.Proofs.Encoding.Bech32.Regrouping
import ChainClient.Proofs.Json.Faithful
import ChainClient.Proofs.Encoding.Base64
import ChainClient.Proofs.Encoding.Hex
import ChainClient.Proofs.Encoding.Bech32.Text
import ChainClient.Proofs.Address.Text
import ChainClient.Proofs.Encoding.Bech32.Canonical
import ChainClient.Proofs.Address.Canonical
import ChainClient.Proofs.Codec.Scalars
import ChainClient.Proofs.Codec.Messages
import ChainClient.Proofs.Codec.Records
import ChainClient.Proofs.Codec.RoundTrip
import ChainClient.Proofs.Outcome
import ChainClient.Proofs.Json.Contents
import ChainClient.Proofs.Json.Sourced
import ChainClient.Proofs.Codec.FreeForm
import ChainClient.Proofs.Codec.Lookup
import ChainClient.Proofs.Codec.Assembled
import ChainClient.Proofs.Codec.Registered
import ChainClient.Proofs.Codec.Enveloped
import ChainClient.Proofs.Codec.Parts
import ChainClient.Proofs.Wallet.Keyring
import ChainClient.Proofs.Client.Operation
import ChainClient.Proofs.Client.Arguments
import ChainClient.Proofs.Client.Queries
import ChainClient.Proofs.Client.Transaction
import ChainClient.Proofs.Client.Traffic
import ChainClient.Proofs.Client.SignedBroadcast
import ChainClient.Proofs.Client.Submission
import ChainClient.Proofs.Client.Delivery
import ChainClient.Proofs.Client.Worth
import ChainClient.Proofs.Client.Sender
import ChainClient.Proofs.Client.KnownTypes
import ChainClient.Proofs.Number.Rounding
import ChainClient.Proofs.Number.Shortest
import ChainClient.Proofs.Number.DoubleText
import ChainClient.Proofs.Json.Printing
import ChainClient.Proofs.Tx.SignDocument
import ChainClient.Proofs.Tx.Outcome
import ChainClient.Proofs.Rpc.Answer
import ChainClient.Proofs.Rpc.Broadcast
import ChainClient.Proofs.Number.Exact
import ChainClient.Proofs.Client.Settings
import ChainClient.Proofs.Tx.Gas
import ChainClient.Proofs.Coin.Price
import ChainClient.Proofs.Tx.Fee
import ChainClient.Proofs.Client.EventFilter
import ChainClient.Proofs.Text.Words
import ChainClient.Proofs.Client.Payments
import ChainClient.Proofs.Channel.Escrow
import ChainClient.Proofs.Client.TxHash
import ChainClient.Proofs.Client.ValidatorList
import ChainClient.Proofs.Channel.Height
import ChainClient.Proofs.Client.Timeout
import ChainClient.Proofs.Encoding.Bech32.Inverse
import ChainClient.Proofs.Json.Reordered
import ChainClient.Proofs.Tx.FieldOrder
import ChainClient.Proofs.Json.Offered
import ChainClient.Proofs.Client.ContractQueries
