import OpcodeRecovery.Opcode.Table
import OpcodeRecovery.Token
import OpcodeRecovery.Number.Layout
import OpcodeRecovery.Instruction
import OpcodeRecovery.Pattern.Generated
import OpcodeRecovery.Body.Search
import OpcodeRecovery.Body.CallSite
import OpcodeRecovery.Method.Declared
import OpcodeRecovery.Method.History
import OpcodeRecovery.Journal
import OpcodeRecovery.Proofs.CallSites
import OpcodeRecovery.Proofs.Search
import OpcodeRecovery.Proofs.Shapes
import OpcodeRecovery.Proofs.Imitation
import OpcodeRecovery.Proofs.Independence
import OpcodeRecovery.Proofs.Priority
import OpcodeRecovery.Proofs.GraphHistory
import OpcodeRecovery.Proofs.Renaming
import OpcodeRecovery.Proofs.Resolution
import OpcodeRecovery.Proofs.Exclusion
import OpcodeRecovery.Proofs.Ambiguity
import OpcodeRecovery.Proofs.Batches
import OpcodeRecovery.Proofs.Strictness
import OpcodeRecovery.Proofs.Families
import OpcodeRecovery.Proofs.CallCounts
import OpcodeRecovery.Proofs.ArgumentsField
import OpcodeRecovery.Proofs.Surroundings
import OpcodeRecovery.Proofs.Silence
import OpcodeRecovery.Proofs.Positions
import OpcodeRecovery.Proofs.Comparisons
import OpcodeRecovery.Proofs.Weakening
import OpcodeRecovery.Proofs.Callees
import OpcodeRecovery.Proofs.OpcodeMap
import OpcodeRecovery.Proofs.Mnemonics
import OpcodeRecovery.Proofs.Descriptions
import OpcodeRecovery.Proofs.Listings
import OpcodeRecovery.Proofs.Records
import OpcodeRecovery.Proofs.Accesses
import OpcodeRecovery.Proofs.Bounds
import OpcodeRecovery.Proofs.NumberValues
import OpcodeRecovery.Proofs.Equality
import OpcodeRecovery.Proofs.FlagForms
import OpcodeRecovery.Proofs.Templates
