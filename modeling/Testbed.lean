import Testbed.Main
import Testbed.Rehearsal.Bench
import Testbed.Proofs.Flags
import Testbed.Proofs.Growth
import Testbed.Proofs.Moves
import Testbed.Proofs.Removals
import Testbed.Proofs.Opening
import Testbed.Proofs.TeardownPlan
import Testbed.Proofs.Stages
import Testbed.Proofs.ProvisioningPlan
import Testbed.Proofs.Ledger
import Testbed.Proofs.Lives
import Testbed.Proofs.Lockstep
import Testbed.Proofs.StopTiming
import Testbed.Proofs.TeardownOutcome
import Testbed.Proofs.Acts
import Testbed.Proofs.Discipline
import Testbed.Proofs.Transcripts
import Testbed.Proofs.Compensation
import Testbed.Proofs.Faults
import Testbed.Proofs.Handles
import Testbed.Proofs.Validation
import Testbed.Proofs.Causes
import Testbed.Proofs.Interruption
import Testbed.Proofs.Completeness
import Testbed.Proofs.Success
import Testbed.Proofs.Resumption
import Testbed.Proofs.ClosingSave
import Testbed.Proofs.WellFormed
import Testbed.Proofs.BestEffort
import Testbed.Proofs.Results
import Testbed.Proofs.WrittenJson
import Testbed.Proofs.FileTrees
import Testbed.Proofs.SavedState
import Testbed.Proofs.Seals
import Testbed.Proofs.Intent
import Testbed.Proofs.Questions
import Testbed.Proofs.ReadOnly
import Testbed.Proofs.Bookkeeping
import Testbed.Proofs.WrittenStrings
import Testbed.Proofs.WrittenValues
import Testbed.Proofs.WrittenLines
import Testbed.Proofs.OpenTables
import Testbed.Proofs.TomlLayout
import Testbed.Proofs.WrittenTables
import Testbed.Proofs.IntegerRange
import Testbed.Proofs.TomlRecords
import Testbed.Proofs.ConfigNumbers
import Testbed.Proofs.ConfigRoundTrip
import Testbed.Proofs.NameMaps
import Testbed.Proofs.Syncing
import Testbed.Proofs.Registries
import Testbed.Stop.Race
import Testbed.Proofs.StopChannels
import Testbed.Proofs.StopSubscribers
import Testbed.Proofs.StopRace
import Testbed.Cli.Site
import Testbed.Cli.Sharing
import Testbed.Proofs.Sites
import Testbed.Proofs.Deeds
import Testbed.Proofs.Sharing
import Testbed.Proofs.Substitution
import Testbed.Proofs.LogCollection
import Testbed.Proofs.Shapes
import Testbed.Proofs.Fields
import Testbed.Proofs.ConfigShapes
import Testbed.Proofs.ConfigFields
import Testbed.Proofs.ExitCodes
import Testbed.Proofs.HealthChecks
import Testbed.State.Break
import Testbed.Cli.Break
import Testbed.Proofs.Replacements
import Testbed.Proofs.StarterConfigs
import Testbed.Proofs.Routes
import Testbed.Proofs.SoundTrees
import Testbed.Proofs.NewDirectories
import Testbed.Proofs.SteadyPaths
import Testbed.Proofs.AtomicSaves
import Testbed.Proofs.PathComponents
import Testbed.Proofs.Isolation
import Testbed.Proofs.PrintedLines
import Testbed.Proofs.PrintedRefs
