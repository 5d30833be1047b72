import Astro.ServerState

/-!
# The deployment that the repository describes

`template2.ipxe`, the versions of `release-map.yml`, and a site that serves them.
General statements are about every site; this one is where they are evaluated.
-/

namespace Astro.RepositorySite

open RequestModels

def template2Lines : List String :=
  ["#!ipxe",
   "echo ====================================================================",
   "echo Astro Provisioning System - Static IP (single-seed, auto-detect)",
   "echo ====================================================================",
   "echo Job ID:        __JOB_ID__",
   "echo OS:            __OS_VER__",
   "echo Arch:          __ARCH__",
   "echo Payload base:  __BASE__",
   "echo Static IP:     __IPV4__",
   "echo Gateway:       __GW__",
   "echo Netmask:       __MASK__",
   "echo DNS (primary): __DNS_PRIMARY__",
   "echo ====================================================================",
   "",
   "echo Detecting network interfaces...",
   "ifstat",
   "",
   "# Try each interface from net0 to net9 to find one that works",
   "set idx:int8 0",
   ":try_interface",
   "echo",
   "echo Trying net$\x7bidx\x7d...",
   "",
   "# Skip non-existent interfaces",
   "isset $\x7bnet$\x7bidx\x7d/mac\x7d || goto next_interface",
   "",
   "# Open interface; if it fails, move on",
   "ifopen net$\x7bidx\x7d || goto next_interface",
   "echo Sleeping for 30 seconds, thanks to Cisco STP",
   "sleep 30",
   "",
   "# Configure static IP on this interface",
   "echo Configuring static IP on net$\x7bidx\x7d...",
   "set net$\x7bidx\x7d/ip __IPV4__       || goto cleanup_interface",
   "set net$\x7bidx\x7d/netmask __MASK__  || goto cleanup_interface",
   "set net$\x7bidx\x7d/gateway __GW__    || goto cleanup_interface",
   "set dns __DNS_PRIMARY__         || goto cleanup_interface",
   "",
   "# Test if gateway is reachable with ping (if available)",
   "echo Testing gateway reachability on net$\x7bidx\x7d...",
   "ping --count 3 --timeout 2000 1.1.1.1 && goto found_interface || goto cleanup_interface",
   "",
   ":cleanup_interface",
   "echo net$\x7bidx\x7d cannot reach gateway, closing and trying next",
   "ifclose net$\x7bidx\x7d",
   "goto next_interface",
   "",
   ":next_interface",
   "inc idx ||",
   "iseq $\x7bidx\x7d 10 && goto failed ||",
   "goto try_interface",
   "",
   ":found_interface",
   "echo Network interface net$\x7bidx\x7d configured successfully",
   "# Use the probed iPXE interface for BOOTIF",
   "set bootif_mac 01-$\x7bnet$\x7bidx\x7d/mac:hexhyp\x7d",
   "",
   "echo Waiting 3 seconds for network to stabilize...",
   "sleep 3",
   "",
   "echo Network configuration:",
   "echo   Interface: net$\x7bidx\x7d (MAC: $\x7bnet$\x7bidx\x7d/mac\x7d)",
   "echo   IP:        $\x7bnet$\x7bidx\x7d/ip\x7d",
   "echo   Netmask:   $\x7bnet$\x7bidx\x7d/netmask\x7d",
   "echo   Gateway:   $\x7bnet$\x7bidx\x7d/gateway\x7d",
   "echo   DNS:       $\x7bdns\x7d",
   "echo ====================================================================",
   "echo Kernel cmdline preview:",
   "echo   ip=__IPV4__::__GW__:__MASK__:::off:__DNS_PRIMARY__",
   "echo   BOOTIF=$\x7bbootif_mac\x7d",
   "echo   jobid=__JOB_ID__",
   "echo   serverip=__SERVER_IP__ ",
   "echo ====================================================================",
   "",
   "kernel __KERNEL_URL__ \\",
   "  ip=__IPV4__::__GW__:__MASK__:::off:__DNS_PRIMARY__ \\",
   "  BOOTIF=$\x7bbootif_mac\x7d \\",
   "  jobid=__JOB_ID__ \\",
   "  serverip=__SERVER_IP__ \\",
   "  init=/init",
   "",
   "# 1. Load the official drivers/scripts first",
   "initrd __INITRD_URL__",
   "",
   "# 2. Load our custom 'phone-home' logic now",
   "initrd __CUSTOM_OS_URL__/customOS/initramfs.cpio.gz",
   "boot",
   "",
   ":failed",
   "echo ===== NETWORK CONFIGURATION FAILED =====",
   "echo Could not find a working network interface that can reach gateway __GW__",
   "echo Tried interfaces net0 through net9",
   "shell"]

/-- The lines of `release-map.yml`. -/
def releaseMapLines : List String :=
  ["# To use a local ISO for a specific version:",
   "# 1. Place the ISO file in configServer/http/customOS/releases.ubuntu.com/<version>/",
   "# 2. Uncomment the \"iso:\" line for that version.",
   "#",
   "# If the \"iso:\" key is commented out or missing, the server will automatically",
   "# download the official ISO directly from canonical's mirrors.",
   "",
   "\"24.04.4\":",
   "  kernel: \"http://releases.ubuntu.com/24.04/netboot/amd64/linux\"",
   "  initrd: \"http://releases.ubuntu.com/24.04/netboot/amd64/initrd\"",
   "  iso: \"http://\x7b\x7bAPI_HOST\x7d\x7d/customOS/releases.ubuntu.com/24.04.4/" ++
     "ubuntu-24.04.4-live-server-amd64.iso\"",
   "",
   "\"24.04.3\":",
   "  kernel: \"http://releases.ubuntu.com/24.04/netboot/amd64/linux\"",
   "  initrd: \"http://releases.ubuntu.com/24.04/netboot/amd64/initrd\"",
   "  iso: \"http://\x7b\x7bAPI_HOST\x7d\x7d/customOS/releases.ubuntu.com/24.04.3/" ++
     "ubuntu-24.04.3-live-server-amd64.iso\"",
   "",
   "\"24.04.2\":",
   "  kernel: \"http://releases.ubuntu.com/24.04/netboot/amd64/linux\"",
   "  initrd: \"http://releases.ubuntu.com/24.04/netboot/amd64/initrd\"",
   "  # To use a local ISO (if available), uncomment the line below:",
   "  # iso: \"http://\x7b\x7bAPI_HOST\x7d\x7d/customOS/releases.ubuntu.com/24.04.2/" ++
     "ubuntu-24.04.2-live-server-amd64.iso\"",
   "",
   "\"22.04.5\":",
   "  kernel: \"http://\x7b\x7bAPI_HOST\x7d\x7d/customOS/releases.ubuntu.com/" ++
     "22.04.5/netboot/amd64/vmlinuz\"",
   "  initrd: \"http://\x7b\x7bAPI_HOST\x7d\x7d/customOS/releases.ubuntu.com/" ++
     "22.04.5/netboot/amd64/initrd\"",
   "  # \"kernel\": \"http://github.com/netbootxyz/ubuntu-squash/releases/download/" ++
     "22.04.5-be230164/vmlinuz\"",
   "  # \"initrd\": \"http://github.com/netbootxyz/ubuntu-squash/releases/download/" ++
     "22.04.5-be230164/initrd\"",
   "  iso: \"http://\x7b\x7bAPI_HOST\x7d\x7d/customOS/releases.ubuntu.com/22.04.5/" ++
     "ubuntu-22.04.5-live-server-amd64.iso\""]

def textOf (lines : List String) : Str := lines.flatMap (fun line => line.toList ++ ['\n'])

def template2 : Str := textOf template2Lines

def mirror (host path : Str) : Str :=
  ("http://" : Str) ++ host ++ ("/customOS/releases.ubuntu.com/" : Str) ++ path

/-- The parsed `release-map.yml`, once the host placeholder has become `host`. -/
def releaseMap (host : Str) : List (Str × Release) :=
  let kernel : Str := "http://releases.ubuntu.com/24.04/netboot/amd64/linux"
  let initrd : Str := "http://releases.ubuntu.com/24.04/netboot/amd64/initrd"
  [("24.04.4".toList, ⟨some kernel, some initrd,
      some (mirror host "24.04.4/ubuntu-24.04.4-live-server-amd64.iso")⟩),
    ("24.04.3".toList, ⟨some kernel, some initrd,
      some (mirror host "24.04.3/ubuntu-24.04.3-live-server-amd64.iso")⟩),
    ("24.04.2".toList, ⟨some kernel, some initrd, none⟩),
    ("22.04.5".toList, ⟨some (mirror host "22.04.5/netboot/amd64/vmlinuz"),
      some (mirror host "22.04.5/netboot/amd64/initrd"),
      some (mirror host "22.04.5/ubuntu-22.04.5-live-server-amd64.iso")⟩)]

/-- JSON booleans and integers are taken as they are; no other value is used here. -/
def coercions : Coercions where
  bool
    | .bool b => some b
    | _ => none
  int
    | .int n => some n
    | _ => none

/-- The site of the repository, addressed as `host`. The YAML loader is only ever
given the release map, so it is the constant function that returns its contents. -/
def site (host : Str) : Site where
  py := { repr := fun _ => [], upper := List.map Char.toUpper }
  coercions := coercions
  releaseMapFile := some (textOf releaseMapLines)
  safeLoad _ := some (releaseMap host)
  serverIp := "localhost"
  template2 := template2

def isoBody (hostname address : Str) : Json :=
  .obj [("hostname".toList, .str hostname), ("ipv4_address".toList, .str address),
    ("ipv4_gateway".toList, .str "10.0.0.254".toList),
    ("ipv4_netmask".toList, .str "255.255.255.0".toList)]

def isoJob (host hostname address : Str) (hhostname : hostname ≠ [])
    (haddress : isIpv4Address address = true) : JobData where
  request :=
    { hostname := ⟨hostname, hhostname⟩
      ipv4 :=
        ⟨⟨address, haddress⟩, ⟨"10.0.0.254".toList, by decide⟩, ⟨"255.255.255.0".toList, by decide⟩⟩
      osVersion := "24.04.4", username := "ubuntu", password := "ubuntu", dnsServers := "8.8.8.8"
      raid := false, disableUpdates := true
      ipv6 := ⟨⟨none, by simp [Given]⟩, none, by simp [Given]⟩, ipv6Cidr := "64" }
  kernelUrl := "http://releases.ubuntu.com/24.04/netboot/amd64/linux"
  initrdUrl := "http://releases.ubuntu.com/24.04/netboot/amd64/initrd"
  baseUrl := "http://releases.ubuntu.com/24.04"
  customOsUrl := ("http://" : Str) ++ host

/-- A body with the texts that the templates quote. -/
def namedBody (hostname username dnsServers : Str) : Json :=
  .obj [("hostname".toList, .str hostname), ("ipv4_address".toList, .str "10.0.0.20".toList),
    ("ipv4_gateway".toList, .str "10.0.0.254".toList),
      ("ipv4_netmask".toList, .str "255.255.255.0".toList),
    ("username".toList, .str username), ("dns_servers".toList, .str dnsServers)]

def namedJob (hostname username dnsServers : Str) (hhostname : hostname ≠ []) : JobData :=
  let job := isoJob "10.0.0.1" hostname "10.0.0.20" hhostname (by decide)
  { job with request := { job.request with username := username, dnsServers := dnsServers } }

def provisionBody (hostname address : Str) : Json :=
  .obj [("bmc_address".toList, .str "10.0.1.2".toList), ("bmc_username".toList, .str "root".toList),
    ("bmc_password".toList, .str "calvin".toList), ("os_type".toList, .str "ubuntu".toList),
    ("os_version".toList, .str "24.04.4".toList), ("arch".toList, .str "amd64".toList),
    ("variant".toList, .str "ipxe-uefi".toList), ("hostname".toList, .str hostname),
    ("username".toList, .str "ubuntu".toList), ("password".toList, .str "ubuntu".toList),
    ("ipv4_address".toList, .str address), ("ipv4_gateway".toList, .str "10.0.0.254".toList),
    ("ipv4_netmask".toList, .str "255.255.255.0".toList)]

end Astro.RepositorySite
