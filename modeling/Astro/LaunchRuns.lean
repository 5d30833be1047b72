import Astro.InstallerLaunch

/-!
# Runs of the launch script

The node runs the script that the server has rendered for it. For the jobs of the repository
there are two ends: the installer is started with the settings of the job, or the node is left
in a rescue shell.
-/

namespace Astro.LaunchRuns

open PythonText TemplateChunks RequestModels ServerHandlers CustomIsoHandler SeedRendering
  RepositorySite
  RepositoryTemplates SimultaneousRendering HostNames ShellText KernelCommandLine StageNetworks
    ShellScripts
  InstallerLaunch

theorem expandPieces_char (vars : Str → Option Str) (text : Str) :
    expandPieces vars (text.map .char) = some text := by
  induction text with
  | nil => rfl
  | cons c text ih => rw [List.map_cons, expandPieces, ih, Option.map_some]

theorem expand_bareWord (vars : Str → Option Str) (text : Str) : expand vars (bareWord text) =
    some text := by
  rw [expand, bareWord, expandPieces, Option.map_some, List.append_nil]

theorem expand_quotedWord (vars : Str → Option Str) (text : Str) :
    expand vars (quotedWord text) = some text := by
  rw [expand, quotedWord, expandPieces_char, Option.map_some, List.nil_append]

theorem expand_var {vars : Str → Option Str} {name value : Str} (h : vars name = some value)
    (bare : Str) :
    expand vars ⟨bare, [.var name]⟩ = some (bare ++ value) := by
  rw [expand, expandPieces, h, Option.bind_some, expandPieces, Option.map_some, Option.map_some,
    List.append_nil]

theorem arguments_plain {words : List Word} (h : ∀ w ∈ words, isRedirection w = false) :
    arguments words = (words, none) := by
  have hne : ∀ w, isRedirection w = false → w ≠ bareWord ">" := by
    rintro w hw rfl
    cases hw
  fun_induction arguments words with
  | case1 => rfl
  | case2 w hw =>
    rw [h w List.mem_cons_self] at hw
    cases hw
  | case3 w hw => rfl
  | case4 file words ih => exact absurd rfl (hne _ (h _ List.mem_cons_self))
  | case5 w file words hw hredirect ih =>
    rw [h w List.mem_cons_self] at hredirect
    cases hredirect
  | case6 w file words hw hredirect ih => rw [ih (List.forall_mem_cons.mp h).2]

section Commands
variable (env : Surroundings) {st st' : State} {words : List Word} {statements : List Statement}
  {passed : Bool}

theorem runCommand_call {first : Word} {name : Str} {args : List Str}
    (hassign : assignment first = none) (hplain : ∀ w ∈ first :: words, isRedirection w = false)
    (hexpand : (first :: words).mapM (expand st.vars) = some (name :: args)) :
    runCommand env st (first :: words) = call env st name args none := by
  rw [runCommand]
  simp only [hassign, arguments_plain hplain, hexpand, Option.map_none]

theorem runCommand_echoed (text : Str) : runCommand env st (echoed text) = .ok (st, true) := by
  have hplain : ∀ w ∈ echoed text, isRedirection w = false := by
    unfold echoed
    simp only [List.forall_mem_cons]
    exact ⟨rfl, by simp [isRedirection, quotedWord], List.forall_mem_nil _⟩
  have hexpand : (echoed text).mapM (expand st.vars) = some ["echo".toList, text] := by
    unfold echoed
    simp only [List.mapM_cons, expand_bareWord, expand_quotedWord]
    rfl
  rw [echoed] at hplain hexpand ⊢
  rw [runCommand_call env rfl hplain hexpand]
  rfl

theorem runCommand_rescue : runCommand env st rescue = .error .shell := by
  rfl

theorem runCommand_downloads {file : Str} (hfile : isRedirection (bareWord file) = false)
    (url : Str) :
    runCommand env st (downloads file url) =
      .ok (⟨st.vars, Function.update st.files file
        (some (if env.reachable url then .download url else .text [])),
        st.loaded⟩, env.reachable url) := by
  have hplain : ∀ w ∈ downloads file url, isRedirection w = false := by
    unfold downloads
    simp only [List.forall_mem_cons]
    exact ⟨rfl, rfl, hfile, by simp [isRedirection, quotedWord], List.forall_mem_nil _⟩
  have hexpand : (downloads file url).mapM (expand st.vars) =
      some ["wget".toList, "-O".toList, file, url] := by
    unfold downloads
    simp only [List.mapM_cons, expand_bareWord, expand_quotedWord]
    rfl
  rw [downloads] at hplain hexpand ⊢
  rw [runCommand_call env rfl hplain hexpand]
  change wget env st ["-O".toList, file, url] = _
  rw [wget, if_pos rfl]
  cases env.reachable url <;> rfl

theorem runStatements_run (h : runCommand env st words = .ok (st', passed)) :
    runStatements env st (.run words :: statements) = runStatements env st' statements := by
  rw [runStatements, runStatement, runBlock, h]
  rfl

theorem runStatements_ends {ending : Ending} (h : runCommand env st words = .error ending) :
    runStatements env st (.run words :: statements) = .error ending := by
  rw [runStatements, runStatement, runBlock, h]

theorem runStatements_passed (h : runCommand env st words = .ok (st', true))
    (block : List (List Word)) :
    runStatements env st (.either words block :: statements) =
      runStatements env st' statements := by
  rw [runStatements, runStatement, h]

theorem runStatements_rescued (h : runCommand env st words = .ok (st', false)) (text : Str) :
    runStatements env st (.either words [echoed text, rescue] :: statements) = .error .shell := by
  rw [runStatements, runStatement, h]
  dsimp only
  rw [runBlock, runCommand_echoed]
  dsimp only
  rw [runBlock, runCommand_rescue]

/-- The name server is written to a file unless there is one; the run goes on in either case. -/
theorem runStatements_dns (dns : Str) : ∃ files, runStatements env st
    (.either
      [bareWord "grep", bareWord "-q", bareWord "nameserver", bareWord "/etc/resolv.conf",
        bareWord "2>/dev/null"]
      [echoed (("nameserver " : Str) ++ dns) ++ [bareWord ">", bareWord "/etc/resolv.conf"]] ::
        statements) =
    runStatements env { st with files := files } statements := by
  have hgrep : ∃ found, runCommand env st [bareWord "grep", bareWord "-q", bareWord "nameserver",
      bareWord "/etc/resolv.conf", bareWord "2>/dev/null"] = .ok (st, found) := by
    change ∃ found, grep st ["-q".toList, "nameserver".toList, "/etc/resolv.conf".toList] =
      .ok (st, found)
    rw [grep, if_pos rfl]
    split
    · exact ⟨_, rfl⟩
    · exact ⟨_, rfl⟩
  have harguments : ∀ text, arguments (echoed text ++ [bareWord ">", bareWord "/etc/resolv.conf"]) =
      (echoed text, some (bareWord "/etc/resolv.conf")) := by
    intro text
    have hquoted : ¬ isRedirection (quotedWord text) = true := by simp [isRedirection, quotedWord]
    have hne : quotedWord text ≠ bareWord ">" := by simp [quotedWord, bareWord]
    change arguments
      [bareWord "echo", quotedWord text, bareWord ">", bareWord "/etc/resolv.conf"] = _
    rw [arguments, if_neg (by decide), if_neg (by decide), arguments, if_neg hne,
      if_neg hquoted, arguments, if_pos rfl]
    rfl
  obtain ⟨found, hgrep⟩ := hgrep
  cases found with
  | true => exact ⟨st.files, runStatements_passed env hgrep _⟩
  | false =>
    refine ⟨Function.update st.files "/etc/resolv.conf"
      (some (.text (join " " [("nameserver " : Str) ++ dns] ++ ['\n']))), ?_⟩
    have hecho : runCommand env st
        (echoed (("nameserver " : Str) ++ dns) ++ [bareWord ">", bareWord "/etc/resolv.conf"]) =
        .ok (⟨st.vars, Function.update st.files "/etc/resolv.conf"
          (some (.text (join " " [("nameserver " : Str) ++ dns] ++ ['\n']))), st.loaded⟩,
              true) := by
      rw [echoed, List.cons_append, runCommand]
      rw [show assignment (bareWord "echo") = none from rfl]
      dsimp only
      have hwords := harguments (("nameserver " : Str) ++ dns)
      rw [echoed, List.cons_append] at hwords
      rw [hwords]
      simp only [List.mapM_cons, List.mapM_nil, expand_bareWord, expand_quotedWord, Option.map_some]
      rfl
    rw [runStatements, runStatement, hgrep]
    dsimp only
    rw [runBlock, hecho]
    rfl

theorem runCommand_append (append : Str) : runCommand env st [⟨"APPEND=", append.map .char⟩] =
    .ok (⟨Function.update st.vars "APPEND" (some append), st.files, st.loaded⟩, true) := by
  have hassign : assignment ⟨"APPEND=", append.map .char⟩ =
      some ("APPEND".toList, quotedWord append) := rfl
  rw [runCommand, hassign]
  dsimp only
  rw [if_pos rfl, expand_quotedWord]

theorem runCommand_loadsImage {append : Str} {kernel initrd : Data}
    (hvar : st.vars "APPEND" = some append) (hkernel : st.files "/linux" = some kernel)
    (hinitrd : st.files "/initrd" = some initrd) :
    runCommand env st loadsImage =
      .ok (⟨st.vars, st.files,
        if env.loads ⟨some kernel, some initrd, append⟩ then some ⟨some kernel, some initrd,
          append⟩ else st.loaded⟩,
        env.loads ⟨some kernel, some initrd, append⟩) := by
  have hplain : ∀ w ∈ loadsImage, isRedirection w = false := by decide
  have hexpand : loadsImage.mapM (expand st.vars) =
      some ["/bin/kexec-amd64".toList, "-l".toList, "/linux".toList, "--initrd=/initrd".toList,
        ("--append=" : Str) ++ append] := by
    unfold loadsImage
    simp only [List.mapM_cons, List.mapM_nil, expand_bareWord, expand_var hvar]
    rfl
  have hafter : after? "--append=" (("--append=" : Str) ++ append) = some append := by
    rw [after?, if_pos (List.prefix_append _ _), List.drop_left]
  rw [loadsImage] at hplain hexpand ⊢
  rw [runCommand_call env rfl hplain hexpand]
  change kexec env st ["-l".toList, "/linux".toList, "--initrd=/initrd".toList,
    ("--append=" : Str) ++ append] = _
  rw [kexec, hafter, show after? "--initrd=" "--initrd=/initrd" = some "/initrd".toList from rfl]
  dsimp only
  rw [if_pos rfl, hkernel, hinitrd]
  cases env.loads ⟨some kernel, some initrd, append⟩ <;> rfl

theorem runCommand_showAppend {append : Str} (hvar : st.vars "APPEND" = some append) :
    runCommand env st [bareWord "echo", ⟨[], [.var "APPEND"]⟩] = .ok (st, true) := by
  have hexpand : [bareWord "echo", ⟨[], [.var "APPEND"]⟩].mapM (expand st.vars) =
      some ["echo".toList, append] := by
    simp only [List.mapM_cons, List.mapM_nil, expand_bareWord, expand_var hvar]
    rfl
  rw [runCommand_call env rfl (by decide) hexpand]
  rfl

theorem runCommand_executes {image : Image} (hloaded : st.loaded = some image) :
    runCommand env st [bareWord "/bin/kexec-amd64", bareWord "-e"] =
      if env.executes image then .error (.kexec image) else .ok (st, false) := by
  change kexec env st ["-e".toList] = _
  rw [kexec, if_pos rfl, hloaded]

/-- From the assignment of `APPEND` on. -/
theorem runStatements_kexec {kernel initrd : Data} (hkernel : st.files "/linux" = some kernel)
    (hinitrd : st.files "/initrd" = some initrd) (dns kernelUrl initrdUrl append : Str) :
    runStatements env st ((launchStatements dns kernelUrl initrdUrl append).drop 9) =
      .error (if env.loads ⟨some kernel, some initrd, append⟩ = true ∧
          env.executes ⟨some kernel, some initrd, append⟩ = true
        then .kexec ⟨some kernel, some initrd, append⟩ else .shell) := by
  have hvar : Function.update st.vars "APPEND" (some append) "APPEND" = some append :=
    Function.update_self _ _ _
  have hload :=
    @runCommand_loadsImage env ⟨Function.update st.vars "APPEND" (some append), st.files, st.loaded⟩
    append kernel initrd hvar hkernel hinitrd
  unfold launchStatements
  simp only [List.drop_succ_cons, List.drop_zero]
  rw [runStatements_run env (runCommand_append env append),
    runStatements_run env (runCommand_echoed env _),
    runStatements_run env (runCommand_echoed env _),
    runStatements_run env (runCommand_showAppend env hvar),
    runStatements_run env (runCommand_echoed env _),
      runStatements_run env (runCommand_echoed env _)]
  cases hloads : env.loads ⟨some kernel, some initrd, append⟩ with
  | false =>
    rw [hloads] at hload
    rw [runStatements_rescued env hload, if_neg fun h => Bool.false_ne_true h.1]
  | true =>
    rw [hloads, if_pos rfl] at hload
    rw [runStatements_passed env hload, runStatements_run env (runCommand_echoed env _)]
    have hexec :=
      @runCommand_executes env ⟨Function.update st.vars "APPEND" (some append), st.files,
        some ⟨some kernel, some initrd, append⟩⟩ _ rfl
    cases hexecutes : env.executes ⟨some kernel, some initrd, append⟩ with
    | true =>
      rw [hexecutes, if_pos rfl] at hexec
      rw [runStatements_ends env hexec, if_pos ⟨rfl, rfl⟩]
    | false =>
      -- the two lines after a `kexec` that returns
      rw [hexecutes, if_neg Bool.false_ne_true] at hexec
      rw [runStatements_run env hexec, runStatements_run env (runCommand_echoed env _),
        runStatements_ends env (runCommand_rescue env), if_neg fun h => Bool.false_ne_true h.2]

/-- Both files are there, the image is loaded and executed, or the script ends in the rescue shell:
after a download that fails, an image that cannot be loaded, or a `kexec` that returns. -/
def launchEnd (kernel initrd append : Str) : Ending :=
  let image : Image := ⟨some (.download kernel), some (.download initrd), append⟩
  if env.reachable kernel = true ∧ env.reachable initrd = true ∧ env.loads image = true ∧
      env.executes image = true
    then .kexec image else .shell

theorem runStatements_launch (dns kernel initrd append : Str) :
    runStatements env st (launchStatements dns kernel initrd append) =
      .error (launchEnd env kernel initrd append) := by
  unfold launchStatements launchEnd
  dsimp only
  -- up to the downloads nothing can fail
  rw [runStatements_run env (rfl : runCommand env st [bareWord "set", bareWord "-ux"] =
    .ok (st, true)), runStatements_run env (runCommand_echoed env _),
      runStatements_run env (runCommand_echoed env _)]
  obtain ⟨files, hdns⟩ := runStatements_dns env dns
  rw [hdns, runStatements_run env (runCommand_echoed env _)]
  have hkernel := @runCommand_downloads env { st with files := files } "/linux" rfl kernel
  cases hreach : env.reachable kernel with
  | false =>
    rw [hreach] at hkernel
    rw [runStatements_rescued env hkernel, if_neg (fun h => absurd h.1 Bool.false_ne_true)]
  | true =>
    rw [hreach, if_pos rfl] at hkernel
    rw [runStatements_passed env hkernel]
    have hinitrd := @runCommand_downloads env
      ⟨st.vars, Function.update files "/linux" (some (.download kernel)), st.loaded⟩
        "/initrd" rfl initrd
    cases hreach' : env.reachable initrd with
    | false =>
      rw [hreach'] at hinitrd
      rw [runStatements_rescued env hinitrd, if_neg (fun h => absurd h.2.1 Bool.false_ne_true)]
    | true =>
      rw [hreach', if_pos rfl] at hinitrd
      rw [runStatements_passed env hinitrd, runStatements_run env (runCommand_echoed env _)]
      have hls : ∀ st : State, runCommand env st
          [bareWord "ls", bareWord "-lh", bareWord "/linux", bareWord "/initrd"] = .ok (st, true) :=
            fun st => rfl
      rw [runStatements_run env (hls _)]
      have hlinux : Function.update
        (Function.update files "/linux" (some (.download kernel))) "/initrd"
          (some (.download initrd)) "/linux" = some (Data.download kernel) := by
        rw [Function.update_of_ne (by decide : ("/linux" : Str) ≠ "/initrd"), Function.update_self]
      have hfile : Function.update
        (Function.update files "/linux" (some (.download kernel))) "/initrd"
          (some (.download initrd)) "/initrd" = some (Data.download initrd) :=
            Function.update_self _ _ _
      have hkexec := @runStatements_kexec env
        ⟨st.vars, Function.update (Function.update files "/linux" (some (.download kernel)))
          "/initrd" (some (.download initrd)), st.loaded⟩ (.download kernel) (.download initrd)
        hlinux hfile dns kernel initrd append
      exact hkexec.trans (by simp only [true_and])

end Commands

theorem isPlain_valueOf {pairs : List (Str × Str)} (h : ∀ pair ∈ pairs, IsPlain pair.2)
    (key : Str) :
    IsPlain (valueOf pairs key) := by
  unfold valueOf
  cases hfind : pairs.find? fun pair => pair.1 = key with
  | none => exact isPlain_nil
  | some pair => exact h pair (List.mem_of_find?_eq_some hfind)

theorem launch_rendered {pairs : List (Str × Str)} (hassigns : launchPlaceholders.Assigns pairs)
    (hvalues : ∀ pair ∈ pairs, IsPlain pair.2) (env : Surroundings) (st : State) :
    launch env st (replaceAll pairs launchTemplate) =
      runStatements env st (launchStatements (valueOf pairs "__DNS_PRIMARY__")
        (valueOf pairs "__KERNEL_URL__")
        (valueOf pairs "__INITRD_URL__") (join " " (launchArguments (valueOf pairs)))) := by
  have hmarks : ∀ pair ∈ pairs, '_' ∉ pair.2 := fun pair hpair => (hvalues pair hpair).not_mem rfl
  rw [launch, render_launchTemplate hassigns hmarks, parse_filled (isPlain_valueOf hvalues)]

section Arguments
variable {value : Str → Str} (hvalue : ∀ key, IsPlain (value key))
include hvalue

/-- Every argument keeps its value on the command line of the second stage. -/
theorem cmdlineArgument_launchArguments :
    cmdlineArgument "ip" (join " " (launchArguments value)) =
      some (fieldsText [value "__IPV4_ADDRESS__", [], value "__IPV4_GATEWAY__",
        value "__IPV4_NETMASK__",
        value "__HOSTNAME__", value "__INTERFACE__", "off".toList] (value "__DNS_PRIMARY__")) ∧
    cmdlineArgument "BOOTIF" (join " " (launchArguments value)) = some (value "__BOOTIF_RAW__") ∧
    cmdlineArgument "url" (join " " (launchArguments value)) = some (value "__ISO_URL__") ∧
    cmdlineArgument "ds" (join " " (launchArguments value)) =
      some ("nocloud;s=".toList ++ (value "__SEED_URL__" ++ ['/'])) := by
  have hwords : words (join " " (launchArguments value)) = launchArguments value :=
    words_join_eq fun arg harg => (isAppendWord_launchArguments hvalue arg harg).isWord
  have hflag : ∀ args, lookup "ds" ("autoinstall".toList :: args) = lookup "ds" args :=
    fun args => rfl
  simp only [cmdlineArgument]
  rw [hwords]
  unfold launchArguments
  simp only [List.cons_append]
  refine ⟨lookup_cons_self (by decide) _ _, ?_, ?_, ?_⟩
  · rw [lookup_cons_ne (by decide) (by decide) (by decide), lookup_cons_self (by decide)]
  · rw [lookup_cons_ne (by decide) (by decide) (by decide), lookup_cons_ne (by decide) (by decide)
      (by decide),
      lookup_cons_self (by decide)]
  · rw [lookup_cons_ne (by decide) (by decide) (by decide), lookup_cons_ne (by decide) (by decide)
      (by decide),
      lookup_cons_ne (by decide) (by decide) (by decide), hflag, lookup_cons_self (by decide)]

end Arguments

/-- The files and the command line that the installer of a job is started with. -/
structure IsInstaller (data : JobData) (host bootif iso : Str) (append : Str) : Prop where
  ip : cmdlineArgument "ip" append =
    some (fieldsText (networkFields data data.request.hostname.val) (firstServer data))
  bootif : cmdlineArgument "BOOTIF" append = some bootif
  url : cmdlineArgument "url" append = some iso
  seed : cmdlineArgument "ds" append = some (("nocloud;s=" : Str) ++ ((("http://" : Str) ++ host ++
    ("/automation/" : Str) ++ data.request.hostname.val) ++ ['/']))

theorem isPlain_isoUrl {host version : Str} {release : Release} (hhost : IsPlain host)
    (h : (version, release) ∈ releaseMap host) : IsPlain (isoUrl version release) := by
  have hfallback : IsPlain (isoUrl "24.04.2" ⟨none, none, none⟩) := by decide
  simp only [releaseMap, List.mem_cons, List.not_mem_nil, or_false, Prod.mk.injEq] at h
  rcases h with ⟨rfl, rfl⟩ | ⟨rfl, rfl⟩ | ⟨rfl, rfl⟩ | ⟨rfl, rfl⟩
  · exact isPlain_mirror hhost (by decide)
  · exact isPlain_mirror hhost (by decide)
  · exact hfallback
  · exact isPlain_mirror hhost (by decide)

section Result
variable {site : Site} {opensslPasswd : Str → Option Str} {host : Str} {request : PhoneHomeRequest}
  {data : JobData}

theorem launchMap_pairs {m : List (Str × Str) × Str}
    (h : launchMap (deployment site opensslPasswd) host request (jobFields data) = some m) :
    m.2 = launchTemplate ∧ ∃ releases release kernel initrd, site.loadReleaseMap host =
      some releases ∧
      (data.request.osVersion, release) ∈ releases ∧ release.kernel = some kernel ∧
        release.initrd = some initrd ∧
      m.1 = [("__DNS_PRIMARY__".toList, firstServer data), ("__KERNEL_URL__".toList, kernel),
        ("__INITRD_URL__".toList, initrd),
          ("__ISO_URL__".toList, isoUrl data.request.osVersion release),
        ("__SEED_URL__".toList, ("http://" : Str) ++ host ++ ("/automation/" : Str) ++
          request.jobId.val),
        ("__IPV4_ADDRESS__".toList, data.request.ipv4.address.val),
        ("__IPV4_GATEWAY__".toList, data.request.ipv4.gateway.val),
        ("__IPV4_NETMASK__".toList, data.request.ipv4.netmask.val),
        ("__HOSTNAME__".toList, data.request.hostname.val), ("__INTERFACE__".toList, []),
        ("__BOOTIF_RAW__".toList, request.bootif.val)] := by
  simp only [launchMap, launchSubstitutions, release?, Option.bind_eq_bind, Option.bind_eq_some_iff,
    Option.pure_def, Option.some.injEq, Option.map_eq_some_iff] at h
  obtain ⟨⟨osVer, release⟩, ⟨version, hversion, releases, hreleases, -,
    ⟨⟨found, release'⟩, hfind, rfl⟩, heq⟩, dns, hdns, pairs,
      ⟨kernel, hkernel, initrd, hinitrd, address, haddress, gateway, hgateway, netmask, hnetmask,
    rfl⟩, template, htemplate, rfl⟩ := h
  cases heq
  have hfound : found = osVer := by simpa using List.find?_some hfind
  subst hfound
  obtain rfl : data.request.osVersion = found := Option.some.inj hversion
  obtain rfl : firstServer data = dns := Option.some.inj hdns
  obtain rfl : Json.str data.request.ipv4.address.val = address := Option.some.inj haddress
  obtain rfl : Json.str data.request.ipv4.gateway.val = gateway := Option.some.inj hgateway
  obtain rfl : Json.str data.request.ipv4.netmask.val = netmask := Option.some.inj hnetmask
  exact ⟨(Option.some.inj htemplate).symm, releases, release', kernel, initrd, hreleases,
    List.mem_of_find?_eq_some hfind, hkernel, hinitrd, rfl⟩

/-- All values of the map are plain. -/
theorem isPlain_launchMap {m : List (Str × Str) × Str} (hsite : ServesRepository site host)
    (hhost : IsHostHeader host) (hname : IsHostName data.request.hostname.val)
    (hdns : IsIpAddress (firstServer data)) (hbootif : IsPlain request.bootif.val)
    (hjob : request.jobId.val = data.request.hostname.val)
    (hm : launchMap (deployment site opensslPasswd) host request (jobFields data) = some m) :
    ∀ pair ∈ m.1, IsPlain pair.2 := by
  obtain ⟨-, releases, release, kernel, initrd, hreleases, hmem, hkernel, hinitrd, hpairs⟩ :=
    launchMap_pairs hm
  obtain rfl := Option.some.inj (hsite.releases.symm.trans hreleases)
  have hmap : IsPlain (if host ≠ [] then host else site.serverIp) := by
    split_ifs
    · exact isPlain_hostHeader hhost
    · exact isPlain_hostHeader hsite.serverIp
  obtain ⟨-, hplainKernel, hplainInitrd⟩ := isPlain_release hmap hmem
  have hseed : IsPlain (("http://" : Str) ++ host ++ ("/automation/" : Str) ++
      request.jobId.val) := by
    rw [hjob]
    exact (((by decide : IsPlain "http://").append (isPlain_hostHeader hhost)).append
      (by decide : IsPlain "/automation/")).append (isPlain_hostName hname)
  rw [hpairs]
  simp only [List.forall_mem_cons]
  exact ⟨isPlain_address hdns, (hplainKernel kernel hkernel).1, hplainInitrd initrd hinitrd,
    isPlain_isoUrl hmap hmem, hseed, isPlain_ipv4 _, isPlain_ipv4 _, isPlain_ipv4 _,
      isPlain_hostName hname,
    isPlain_nil, hbootif, List.forall_mem_nil _⟩

/-- The ends of a script whose values are plain. -/
theorem launch_map {m : List (Str × Str) × Str}
    (hjob : request.jobId.val = data.request.hostname.val)
    (hm : launchMap (deployment site opensslPasswd) host request (jobFields data) = some m)
    (hvalues : ∀ pair ∈ m.1, IsPlain pair.2) :
    ∃ releases release kernel initrd append, site.loadReleaseMap host = some releases ∧
      (data.request.osVersion, release) ∈ releases ∧ release.kernel = some kernel ∧
        release.initrd = some initrd ∧
      IsInstaller data host request.bootif.val (isoUrl data.request.osVersion release) append ∧
      ∀ env st, launch env st (replaceAll m.1 m.2) =
        .error (launchEnd env kernel initrd append) := by
  obtain ⟨htemplate, releases, release, kernel, initrd, hreleases, hmem, hkernel,
      hinitrd, hpairs⟩ :=
    launchMap_pairs hm
  obtain ⟨hip, hboot, hurl, hds⟩ := cmdlineArgument_launchArguments (isPlain_valueOf hvalues)
  refine ⟨releases, release, kernel, initrd, join " " (launchArguments (valueOf m.1)), hreleases,
    hmem, hkernel, hinitrd, ?_, ?_⟩
  · rw [hpairs] at hip hboot hurl hds ⊢
    exact ⟨hip, hboot, hurl, hjob ▸ hds⟩
  · intro env st
    rw [htemplate, launch_rendered (launchMap_cases hm).1 hvalues, hpairs]
    exact runStatements_launch env _ kernel initrd _

/-- For every job of the repository whose first name server is an address, and every node that
phones home with a plain `BOOTIF`, the launch script on the node either starts the installer of
the release with the settings of the job, the interface of the node and the seed of the job, or
ends in the rescue shell because a download, the loading of the image or its execution has
failed. Nothing else happens. -/
theorem launch_installs (hsite : ServesRepository site host) (hhost : IsHostHeader host)
    (hname : IsHostName data.request.hostname.val) (hdns : IsIpAddress (firstServer data))
    (hbootif : IsPlain request.bootif.val) (hjob : request.jobId.val = data.request.hostname.val)
    {script : Str} (hscript : installerLaunch (deployment site opensslPasswd) host request
      (jobFields data) = some script) :
    ∃ release kernel initrd append,
      (data.request.osVersion, release) ∈ releaseMap (if host ≠ [] then host else site.serverIp) ∧
      release.kernel = some kernel ∧ release.initrd = some initrd ∧
      IsInstaller data host request.bootif.val (isoUrl data.request.osVersion release) append ∧
      ∀ env st, launch env st script =
        .error (launchEnd env kernel initrd append) := by
  rw [installerLaunch_eq_map] at hscript
  obtain ⟨m, hm, rfl⟩ := Option.map_eq_some_iff.mp hscript
  have hvalues := isPlain_launchMap hsite hhost hname hdns hbootif hjob hm
  obtain ⟨releases, release, kernel, initrd, append, hreleases, hmem, hrun⟩ :=
    launch_map hjob hm hvalues
  obtain rfl := Option.some.inj (hsite.releases.symm.trans hreleases)
  exact ⟨release, kernel, initrd, append, hmem, hrun⟩

end Result

/-- The two name servers of the example, of which the second stage is given the first. -/
theorem launch_installs_twoServers :
    ∃ script, installerLaunch exampleDep "10.0.0.1" spacedRequest (jobFields twoServersJob) =
      some script ∧
      ∃ release kernel initrd append, (twoServersJob.request.osVersion, release) ∈
        releaseMap "10.0.0.1" ∧
        release.kernel = some kernel ∧ release.initrd = some initrd ∧
        IsInstaller twoServersJob "10.0.0.1" spacedRequest.bootif.val
          (isoUrl twoServersJob.request.osVersion release)
          append ∧
        ∀ env st, launch env st script =
          .error (launchEnd env kernel initrd append) := by
  have hscript : ∃ script,
      installerLaunch exampleDep "10.0.0.1" spacedRequest (jobFields twoServersJob) =
          some script := by
    rw [installerLaunch_eq_map]
    exact ⟨_, rfl⟩
  obtain ⟨script, hscript⟩ := hscript
  exact ⟨script, hscript, launch_installs servesRepository_exampleSite (by decide) (by decide)
    (by decide) (by decide)
    rfl hscript⟩

end Astro.LaunchRuns
