import Astro.CustomIsoHandler
import Astro.JsonDelimited
import Astro.SeedRendering

/-!
# The text of a job file

custom-iso writes `job.json` with `json.dump`; `compose.py`, which the pipeline runs, and the
phone-home handler read it with `json.load`. Elsewhere in the model the file stands for its
dictionary: here it is the text, between its writer and its readers.
-/

namespace Astro.JobFiles

open PythonText JsonText IpxePipeline CustomIsoHandler SeedRendering

/-- `json.dump(raw_data, f, indent=4)`; `repr` would write a float. -/
def jobText (repr : FloatValue → Str) (data : JobData) : Str :=
  dump repr 4 0 (.obj (jobFields data))

/-- `build_ipxe_context(job_data)` with the conversions of `compose_ipxe`; `none` where a method of
texts is called on something else. -/
def contextOf (py : PythonStr) (jobData : Fields) : Option (List (Str × Str)) := do
  let osVer ← text? (jobData.getD "os_version" (.str "24.04"))
  let majorVer := join "." ((split '.' osVer).take 2)
  let customOsUrl ← text? (jobData.getD "custom_os_url" .null)
  let rawIp := (split '/' (replace "https://" [] (replace "http://" [] customOsUrl))).headD []
  let dnsServers ← text? (jobData.getD "dns_servers" (.str "8.8.8.8"))
  return [("JOB_ID".toList, py.str (jobData.getD "hostname" (.str "unknown-job"))),
    ("OS_VER".toList, osVer),
    ("ARCH".toList, py.str (jobData.getD "arch" (.str "amd64"))),
    ("IPV4".toList, py.str (jobData.getD "ipv4_address" .null)),
    ("MASK".toList, py.str (jobData.getD "ipv4_netmask" .null)),
    ("GW".toList, py.str (jobData.getD "ipv4_gateway" .null)),
    ("CUSTOM_OS_URL".toList, customOsUrl),
    ("KERNEL_URL".toList, py.str (jobData.getD "kernel_url" .null)),
    ("INITRD_URL".toList, py.str (jobData.getD "initrd_url" .null)),
    ("DNS_PRIMARY".toList, stripBlanks ((split ',' dnsServers).headD [])),
    ("DNS_LIST".toList, replace "," ":" dnsServers),
    ("BASE".toList, ("http://releases.ubuntu.com/" : Str) ++ majorVer),
    ("HOSTNAME".toList, py.str (jobData.getD "hostname" .null)),
    ("SERVER_IP".toList, rawIp)]

/-- `compose.py` from the text of the job file to the text of the boot script. -/
def compose (site : Site) (float : Str → FloatValue) (text : Str) : Option Str :=
  match loads float text with
  | some (.obj jobData) => (contextOf site.py jobData).map (hydrate site.template2)
  | _ => none

theorem contextOf_jobFields (py : PythonStr) (data : JobData) :
    contextOf py (jobFields data) = some (buildIpxeContext data) := rfl

theorem textual_jobFields (data : JobData) : Textual (.obj (jobFields data)) := by
  have hoptional : ∀ v : Option Str, Textual (v.elim .null .str) := by
    intro v
    cases v with
    | none => exact .null
    | some s => exact .str s
  refine .obj ?_ ?_
  · have hkeys : (jobFields data).map Prod.fst =
        (["hostname", "ipv4_address", "ipv4_gateway", "ipv4_netmask", "os_version", "username",
          "password", "dns_servers", "raid", "disable_updates", "ipv6_address", "ipv6_gateway",
          "ipv6_cidr", "kernel_url", "initrd_url", "base_url", "custom_os_url"].map
            String.toList) := rfl
    rw [hkeys]
    decide
  · simp only [jobFields, List.forall_mem_cons]
    exact ⟨.str _, .str _, .str _, .str _, .str _, .str _, .str _, .str _, .bool _, .bool _,
      hoptional _, hoptional _, .str _, .str _, .str _, .str _, .str _, List.forall_mem_nil _⟩

/-- For every job, whatever characters its fields have: the file is ASCII, so that no reader's
encoding matters, `json.load` returns the dictionary that was saved, and `compose.py` makes the
boot script of the job from it. -/
theorem job_file_read_back (site : Site) (float : Str → FloatValue) (repr : FloatValue → Str)
    (data : JobData) :
    IsAscii (jobText repr data) ∧ loads float (jobText repr data) = some (.obj (jobFields data)) ∧
      compose site float (jobText repr data) = some (bootScript site data) := by
  have hloads : loads float (jobText repr data) = some (.obj (jobFields data)) :=
    loads_dump float repr 4 (textual_jobFields data)
  refine ⟨isAscii_dump repr 4 (textual_jobFields data) 0, hloads, ?_⟩
  rw [compose, hloads]
  dsimp only
  rw [contextOf_jobFields, Option.map_some]
  rfl

/-- A job file whose writing was interrupted, after however many characters, is neither read by the
phone-home handler nor turned into a boot script. -/
theorem cut_job_file_unreadable (site : Site) (float : Str → FloatValue) (repr : FloatValue → Str)
    (data : JobData) (text : Str) (hcut : text <+: jobText repr data)
    (hne : text ≠ jobText repr data) :
    loads float text = none ∧ compose site float text = none := by
  have hlt : text.length < (jobText repr data).length := by
    refine lt_of_le_of_ne hcut.length_le ?_
    intro hlength
    exact hne (hcut.eq_of_length hlength)
  have hloads : loads float text = none := by
    rw [List.prefix_iff_eq_take.mp hcut]
    exact loads_take float repr 4 (textual_jobFields data) hlt
  refine ⟨hloads, ?_⟩
  rw [compose, hloads]

theorem cut_job_file_unreadable_nodeA :
    loads (fun _ => .nan) "\x7b\n    \"hostname\": \"node-a\"" = none ∧
      compose exampleSite (fun _ => .nan) "\x7b\n    \"hostname\": \"node-a\"" = none := by
  refine cut_job_file_unreadable exampleSite _ (fun _ => []) nodeA _ ⟨_, rfl⟩ ?_
  intro h
  have hnext : (none : Option Char) = some ',' := congrArg (fun text : Str => text[26]?) h
  cases hnext

end Astro.JobFiles
