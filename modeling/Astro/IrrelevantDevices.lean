import Astro.NodeInventory
import Astro.SeedRendering

/-!
# Devices that the disk filter discards

A phone-home reports every block device of the node. The filter of the handler drops the
devices that are no disks to install on, but before it the body has to pass its
validation, which rejects the whole request for one device of less than a megabyte.
-/

namespace Astro.IrrelevantDevices

open PythonText JsonText RequestModels ServerHandlers SeedRendering NodeInventory IpxePipeline

/-- An entry of the inventory, as `init` writes it. -/
structure Inventoried where
  dev : {s : Str // s ≠ []}
  id : {s : Str // s ≠ []}
  sizeMb : ℕ

namespace Inventoried

def entry (e : Inventoried) : Json := diskEntry e.dev.val e.id.val e.sizeMb

/-- The entry once blanks have been removed from its id. -/
def disk (e : Inventoried) : Disk := ⟨e.dev.val, replace " " [] e.id.val, e.sizeMb⟩

def info (e : Inventoried) (h : 0 < e.sizeMb) : DiskInfo :=
  ⟨e.dev, e.id, ⟨e.sizeMb, Int.natCast_pos.mpr h⟩⟩

end Inventoried

section Validation
variable {site : Site} (hint : ∀ n : ℤ, site.coercions.int (.int n) = some n)
include hint

end Validation

/-- The template and the disks that the handler selects, once the body is accepted and the
job file is read. -/
def selection (dep : Deployment) (body : Option Json) (s : Server) : Option DiskChoice :=
  (phoneHomeRequest dep.toSite body).bind fun request =>
    match loadJob s.files request.jobId.val with
    | some (.obj jobData) => chosenDisks request jobData
    | _ => none

/-- The status of the response with the selection. -/
def outcome (dep : Deployment) (hostIp : Str) (write : SeedFile → SeedWrite) (chmod : Bool)
    (body : Option Json) (s : Server) : ℕ × Option DiskChoice :=
  ((servePhoneHome dep hostIp write chmod body s).2, selection dep body s)

section Nodes
variable {node node' : Node} {x : Device}

theorem diskId_ne_nil (node : Node) (d : Device) : diskId node d ≠ [] := by
  unfold diskId
  dsimp only
  split_ifs with hlink
  · rw [List.append_assoc]
    exact List.append_ne_nil_of_right_ne_nil _ (List.cons_ne_nil _ _)
  · exact hlink

/-- The entry of a device. -/
def inventoried (node : Node) (d : Device) (hname : d.name ≠ []) : Inventoried :=
  ⟨⟨d.name, hname⟩, ⟨diskId node d, diskId_ne_nil node d⟩, d.sectors / 2048⟩

/-- The entries of the devices that are not skipped. -/
def inventory (node : Node) (ds : List Device) (hnames : ∀ d ∈ ds, d.name ≠ []) :
    List Inventoried :=
  (ds.filter isReported).pmap (inventoried node) fun d hd => hnames d (List.mem_filter.mp hd).1

end Nodes

def largeDisk : Device := ⟨"vda", 40960000, none, "QEMU", "disk 7"⟩

end Astro.IrrelevantDevices
