import AzureProvisioning.Account.Finder
import AzureProvisioning.Group.Finder
import AzureProvisioning.Memory
import AzureProvisioning.Program.Transcript
import AzureProvisioning.Provider.Operations
import AzureProvisioning.Rest.Client
import AzureProvisioning.Proofs.Program
import AzureProvisioning.Proofs.Region
import AzureProvisioning.Proofs.Values
import AzureProvisioning.Proofs.Attributes
import AzureProvisioning.Proofs.Account.Attributes
import AzureProvisioning.Proofs.Account.Locations
import AzureProvisioning.Proofs.Region.Delta
import AzureProvisioning.Proofs.Region.Spelling
import AzureProvisioning.Proofs.Account.Regions
import AzureProvisioning.Proofs.Plan
import AzureProvisioning.Proofs.Account.Changes
import AzureProvisioning.Proofs.Account.Convergence
import AzureProvisioning.Proofs.Memory
import AzureProvisioning.Proofs.Account.Hydration
import AzureProvisioning.Proofs.Account.Update
import AzureProvisioning.Proofs.ArmId
import AzureProvisioning.Proofs.ArmId.Spelling
import AzureProvisioning.Proofs.Identity
import AzureProvisioning.Proofs.Account.Comparison
import AzureProvisioning.Proofs.Group.Attributes
import AzureProvisioning.Proofs.Provider.Reading
import AzureProvisioning.Proofs.Account.Creation
import AzureProvisioning.Proofs.Group.Creation
import AzureProvisioning.Proofs.Provider.Creation
import AzureProvisioning.Proofs.Account.Recovery
import AzureProvisioning.Proofs.Group.Recovery
import AzureProvisioning.Proofs.Provider.Attempts
import AzureProvisioning.Proofs.Provider.Recovery
import AzureProvisioning.Proofs.Steadiness
import AzureProvisioning.Proofs.Provider.Steadiness
import AzureProvisioning.Proofs.Provider.Refusal
import AzureProvisioning.Proofs.Provider.Stranding
import AzureProvisioning.Proofs.Account.Safety
import AzureProvisioning.Proofs.Provider.Addressing
import AzureProvisioning.Proofs.Rest.Sending
import AzureProvisioning.Proofs.Rest.Paging
import AzureProvisioning.Proofs.Rest.Polling
import AzureProvisioning.Proofs.Rest.Changing
import AzureProvisioning.Proofs.Rest.Deletion
import AzureProvisioning.Proofs.Rest.Creation
import AzureProvisioning.Proofs.Provider.Contract
import AzureProvisioning.Proofs.Provider.Isolation
import AzureProvisioning.Proofs.Json.Spelling
import AzureProvisioning.Proofs.Wire.RoundTrip
import AzureProvisioning.Proofs.Coherence
import AzureProvisioning.Proofs.Provider.Refreshing
import AzureProvisioning.Proofs.Rest.Url.Percent
import AzureProvisioning.Proofs.Rest.Url.Segments
import AzureProvisioning.Proofs.Rest.Url.Endpoint
import AzureProvisioning.Proofs.Rest.Targets
import AzureProvisioning.Proofs.Rest.Directing
import AzureProvisioning.Proofs.Provider.Targets
import AzureProvisioning.Proofs.Ascii
import AzureProvisioning.Proofs.Provider.Finding
import AzureProvisioning.Proofs.Account.Flags
import AzureProvisioning.Proofs.Plan.Spelling
import AzureProvisioning.Proofs.Account.Spelling
import AzureProvisioning.Proofs.Group.Spelling
import AzureProvisioning.Proofs.Provider.Planning
import AzureProvisioning.Proofs.Interference
import AzureProvisioning.Proofs.Provider.Interference
import AzureProvisioning.Proofs.Account.Requirements
import AzureProvisioning.Proofs.Provider.Asking
import AzureProvisioning.Proofs.Provider.Removal
import AzureProvisioning.Proofs.Provider.Reporting
import AzureProvisioning.Proofs.Provider.Requirements
import AzureProvisioning.Proofs.Provider.RegionNames
import AzureProvisioning.Proofs.Values.Equality
import AzureProvisioning.Proofs.Plan.Differences
import AzureProvisioning.Proofs.Schema.Conformance
import AzureProvisioning.Proofs.Provider.Decoding
import AzureProvisioning.Proofs.StableOrder
import AzureProvisioning.Proofs.Account.Splitting
import AzureProvisioning.Proofs.Schema.Defects
import AzureProvisioning.Proofs.Provider.Canonical
import AzureProvisioning.Proofs.Provider.Crowding
import AzureProvisioning.Proofs.Values.Orders
import AzureProvisioning.Proofs.Schema.Orders
import AzureProvisioning.Proofs.Schema.Answers
import AzureProvisioning.Proofs.Plan.Orders
import AzureProvisioning.Proofs.Settings
import AzureProvisioning.Proofs.Provider.EmptyNames
import AzureProvisioning.Proofs.Rest.Chains
import AzureProvisioning.Proofs.Rest.Endless
