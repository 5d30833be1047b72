import Astro.LabelledRuns
import Astro.ObservedRuns
import Astro.InsertionDict
import Astro.StoreCommands
import Astro.MethodBodies
import Astro.PythonText
import Astro.JsonValues
import Astro.JsonText
import Astro.JsonTextWeight
import Astro.JsonTextRoundTrip
import Astro.TextSubstitution
import Astro.TemplateChunks
import Astro.KeyedSorting
import Astro.Placeholders
import Astro.ShellText
import Astro.QuotedText
import Astro.YamlScalars
import Astro.YamlBlocks
import Astro.ShellSettings
import Astro.JobPaths
import Astro.RelativePaths
import Astro.RequestModels
import Astro.HostNames
import Astro.ServerState
import Astro.RepositorySite
import Astro.TelemetryHandler
import Astro.TelemetryFold
import Astro.TelemetryRaces
import Astro.IpxePipeline
import Astro.CustomIsoHandler
import Astro.ServerHandlers
import Astro.ServerSteps
import Astro.LifecycleOrder
import Astro.TelemetryAttribution
import Astro.ProvisioningOrder
import Astro.BootingTruth
import Astro.BuildRaces
import Astro.StagingRuns
import Astro.StagingVisibility
import Astro.NodeInventory
import Astro.SeedRendering
import Astro.RepositoryTemplates
import Astro.SimultaneousRendering
import Astro.Ipv6Pairs
import Astro.IrrelevantDevices
import Astro.DiskFilter
import Astro.RaidPairs
import Astro.DiskSelection
import Astro.AnsibleInventory
import Astro.FileServing
import Astro.HttpMethods
import Astro.PhoneHomeOutcomes
import Astro.RejectedHooks
import Astro.ResponseCount
import Astro.RangedResponses
import Astro.ChunkedDownloads
import Astro.FailedDownloads
import Astro.HeadAgreement
import Astro.ReadConfinement
import Astro.SequentialRuns
import Astro.InvisiblePolling
import Astro.JobDirectories
import Astro.SeedIsolation
import Astro.WriteConfinement
import Astro.JobUrls
import Astro.KernelCommandLine
import Astro.NetmaskLengths
import Astro.RenderedValues
import Astro.StageNetworks
import Astro.NetplanDocuments
import Astro.IpxeScripts
import Astro.IpxeSettings
import Astro.IpxeCommands
import Astro.BootScriptLines
import Astro.InterfaceSearch
import Astro.BootScriptRun
import Astro.BootScriptResult
import Astro.InitNetworking
import Astro.ServiceClients
import Astro.RedfishStaging
import Astro.PlaybookRuns
import Astro.DictIteration
import Astro.TelemetryScans
import Astro.JsonDump
import Astro.JsonDelimited
import Astro.JobFiles
import Astro.ShellScripts
import Astro.InstallerLaunch
import Astro.LaunchRuns
import Astro.SecondStage
