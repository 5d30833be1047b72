import Astro.InsertionDict
import Astro.JobPaths
import Astro.RequestModels

/-!
# The state of the config server

`PROGRESS_TRACKER`, `JOB_TRACKER`, the install logs and the files that handlers
and build commands exchange. Contents are kept as the data a later step reads back
from them: a job file as its dictionary, a boot binary as the script it embeds.
-/

namespace Astro

open PythonText JobPaths RequestModels

def stageNames : List Str :=
  ["BOOTING".toList, "STAGING".toList, "STAGING_FAILED".toList, "PHONED_HOME".toList,
    "INSTALLING".toList, "COMPLETED".toList, "INSTALL_FAILED".toList]

/-- A lifecycle stage; progress hooks can store any other text. -/
inductive Stage where
  | booting
  | staging
  | stagingFailed
  | phonedHome
  | installing
  | completed
  | installFailed
  | other (text : {s : Str // s ∉ stageNames})
  deriving DecidableEq

namespace Stage

def text : Stage → Str
  | booting => "BOOTING"
  | staging => "STAGING"
  | stagingFailed => "STAGING_FAILED"
  | phonedHome => "PHONED_HOME"
  | installing => "INSTALLING"
  | completed => "COMPLETED"
  | installFailed => "INSTALL_FAILED"
  | other t => t.val

def ofText (s : Str) : Stage :=
  if h₁ : s = booting.text then booting
  else if h₂ : s = staging.text then staging
  else if h₃ : s = stagingFailed.text then stagingFailed
  else if h₄ : s = phonedHome.text then phonedHome
  else if h₅ : s = installing.text then installing
  else if h₆ : s = completed.text then completed
  else if h₇ : s = installFailed.text then installFailed
  else other ⟨s, by
    simp only [stageNames, List.mem_cons, List.not_mem_nil, or_false, not_or]
    exact ⟨h₁, h₂, h₃, h₄, h₅, h₆, h₇⟩⟩

/-- The two stages the telemetry handler never leaves. -/
def Terminal (s : Stage) : Prop := s = completed ∨ s = installFailed

instance (s : Stage) : Decidable s.Terminal := inferInstanceAs (Decidable (_ ∨ _))

end Stage

/-- The handler that stored an entry. The program does not record it; statements
about the entries of one handler refer to it. -/
inductive Writer where
  | progressHook
  | customIso
  | phoneHome
  | provision
  | launcher
  | telemetry
  | statusQuery
  deriving DecidableEq

structure Entry where
  stage : Stage
  detail : Json
  writer : Writer

structure Release where
  kernel : Option Str
  initrd : Option Str
  iso : Option Str

/-- What the deployment fixes: library conversions, `release-map.yml` with the YAML
loader, `SERVER_IP` and the text of `template2.ipxe`. -/
structure Site where
  py : PythonStr
  coercions : Coercions
  releaseMapFile : Option Str
  safeLoad : Str → Option (List (Str × Release))
  serverIp : Str
  template2 : Str

/-- `load_release_map(host_ip)`; `none` when reading or parsing raises. -/
def Site.loadReleaseMap (site : Site) (hostIp : Str) : Option (List (Str × Release)) :=
  site.releaseMapFile.bind fun content =>
    site.safeLoad (replace "\x7b\x7bAPI_HOST\x7d\x7d"
      (if hostIp ≠ [] then hostIp else site.serverIp) content)

/-- `job.json`: the accepted body and what the handler adds to it. -/
structure JobData where
  request : ProvisionCustomISORequest
  kernelUrl : Str
  initrdUrl : Str
  baseUrl : Str
  customOsUrl : Str

/-- `job.json`, as `json.load` returns it. -/
def jobFields (data : JobData) : Fields :=
  let optional : Option Str → Json := fun v => v.elim .null .str
  [("hostname".toList, .str data.request.hostname.val),
    ("ipv4_address".toList, .str data.request.ipv4.address.val),
    ("ipv4_gateway".toList, .str data.request.ipv4.gateway.val),
    ("ipv4_netmask".toList, .str data.request.ipv4.netmask.val),
    ("os_version".toList, .str data.request.osVersion),
    ("username".toList, .str data.request.username),
    ("password".toList, .str data.request.password),
    ("dns_servers".toList, .str data.request.dnsServers),
    ("raid".toList, .bool data.request.raid),
    ("disable_updates".toList, .bool data.request.disableUpdates),
    ("ipv6_address".toList, optional data.request.ipv6.address.val),
    ("ipv6_gateway".toList, optional data.request.ipv6.gateway),
    ("ipv6_cidr".toList, .str data.request.ipv6Cidr),
    ("kernel_url".toList, .str data.kernelUrl),
    ("initrd_url".toList, .str data.initrdUrl),
    ("base_url".toList, .str data.baseUrl),
    ("custom_os_url".toList, .str data.customOsUrl)]

/-- The contents of a file. A job file is what custom-iso has saved or any other JSON text, as
`json.load` returns it. A boot binary is the file it embeds; a FAT image is followed
through its formatting. -/
inductive File where
  | text (s : Str)
  | jobJson (data : JobData)
  | json (value : Json)
  | efi (embedded : File)
  | zeroes
  | fat
  | fatEfi
  | fatEfiBoot
  | fatBootable (bootx64 : File)
  | iso (bootx64 efiboot : File)
  | damaged

/-- `json.load(f)`. -/
def File.load? : File → Option Json
  | .jobJson data => some (.obj (jobFields data))
  | .json value => some value
  | _ => none

abbrev Files := Path → Option File

/-- `PROGRESS_TRACKER[key] = entry` for the write a handler makes, if it makes one. -/
def applyWrite (progress : Dict Key Entry) : Option (Key × Entry) → Dict Key Entry
  | none => progress
  | some (key, entry) => progress.set key entry

structure Server where
  progress : Dict Key Entry
  jobTracker : Dict Key ℕ
  logs : Path → Str
  files : Files

namespace Server

def started (logs : Path → Str) (files : Files) : Server := ⟨.empty, .empty, logs, files⟩

def setProgress (s : Server) (key : Key) (entry : Entry) : Server :=
  { s with progress := s.progress.set key entry }

@[simp] theorem setProgress_progress (s : Server) (key : Key) (entry : Entry) :
    (s.setProgress key entry).progress = s.progress.set key entry := rfl

@[simp] theorem setProgress_files (s : Server) (key : Key) (entry : Entry) :
    (s.setProgress key entry).files = s.files := rfl

@[simp] theorem setProgress_logs (s : Server) (key : Key) (entry : Entry) :
    (s.setProgress key entry).logs = s.logs := rfl

def stage? (s : Server) (key : Key) : Option Stage := (s.progress.get? key).map Entry.stage

end Server
end Astro
