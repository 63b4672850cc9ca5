import SentinelPlatform.Scale.Codec
import SentinelPlatform.Scale.Compound
import SentinelPlatform.Scale.Nested
import SentinelPlatform.Scale.Primitive
import SentinelPlatform.StateMachine.Run
import SentinelPlatform.StateMachine.Trace
import SentinelPlatform.StateMachine.Simulation
import SentinelPlatform.StateMachine.Log
import SentinelPlatform.StateMachine.Switch
import SentinelPlatform.StateMachine.Inert
import SentinelPlatform.Frame.StorageMap
import SentinelPlatform.Frame.BoundedVec
import SentinelPlatform.Frame.InverseIndex
import SentinelPlatform.Frame.ListEdits
import SentinelPlatform.Frame.Dispatch
import SentinelPlatform.Frame.Fallible
import SentinelPlatform.Frame.Bookkeeping
import SentinelPlatform.Frame.Grouping
import SentinelPlatform.Scbc.Types
import SentinelPlatform.Scbc.Dispatchables
import SentinelPlatform.Scbc.Effects
import SentinelPlatform.Scbc.Number
import SentinelPlatform.Scbc.Registration
import SentinelPlatform.Scbc.Rating
import SentinelPlatform.Scbc.Labelling
import SentinelPlatform.Scbc.AuditTrail
import SentinelPlatform.Scbc.Threshold
import SentinelPlatform.Scbc.Reordering
import SentinelPlatform.Scbc.UniqueId
import SentinelPlatform.Scbc.Encoding
import SentinelPlatform.Scbc.Extrinsics
import SentinelPlatform.Scbc.History
import SentinelPlatform.Scbc.Answers
import SentinelPlatform.Collectibles.Types
import SentinelPlatform.Collectibles.Dispatchables
import SentinelPlatform.Collectibles.Effects
import SentinelPlatform.Collectibles.Ownership
import SentinelPlatform.Collectibles.Consent
import SentinelPlatform.Collectibles.Purchase
import SentinelPlatform.Collectibles.Registry
import SentinelPlatform.Collectibles.Accounts
import SentinelPlatform.Collectibles.History
import SentinelPlatform.Collectibles.Minting
import SentinelPlatform.ValidatorSet.Pallet
import SentinelPlatform.ValidatorSet.Effects
import SentinelPlatform.ValidatorSet.Rotation
import SentinelPlatform.ValidatorSet.Floor
import SentinelPlatform.ValidatorSet.Membership
import SentinelPlatform.Runtime.Calls
import SentinelPlatform.Client.Records
import SentinelPlatform.Client.StoredRecords
import SentinelPlatform.Client.Calls
import SentinelPlatform.Client.ReportSpam
import SentinelPlatform.Client.SpamExtrinsic
import SentinelPlatform.Client.HumanRecord
import SentinelPlatform.Client.RuntimeCall
import SentinelPlatform.Client.CallerData
import SentinelPlatform.Client.Platform
import SentinelPlatform.Client.RuntimeCallCodec
import SentinelPlatform.Client.Proposals
import SentinelPlatform.Client.Council
import SentinelPlatform.Client.Voting
import SentinelPlatform.Client.RecentCalls
