import Astro.IpxeSettings

/-!
# Commands of the boot loader

The commands that a boot script of the repository uses, with their options, over a machine whose
drivers, network and images answer as an environment says. Together with the expansion of settings
they are the shell that runs a script.
-/

namespace Astro.IpxeCommands

open PythonText IpxeScripts IpxeSettings

structure OptionDescriptor where
  longopt : Str
  shortopt : Char
  /-- The parser of the argument, if there is one. -/
  argument : Option (Str → Bool)

structure Descriptor where
  options : List OptionDescriptor
  minArgs : ℕ
  /-- Unlimited if absent. -/
  maxArgs : Option ℕ

/-- What one element of the argument list is to `getopt_long`. -/
inductive Element where
  | argument
  | endOfOptions
  | options (given : List (Char × Str)) (pending : Option OptionDescriptor)
  | invalid

def acceptsArgument (option : OptionDescriptor) (argument : Str) : Bool :=
  option.argument.any (· argument)

/-- `match_long_option`, with an argument behind an equals sign if there is one. -/
def longOption (options : List OptionDescriptor) (opttext : Str) : Element :=
  match options.find? (·.longopt = opttext.takeWhile (· ≠ '=')) with
  | none => .invalid
  | some option =>
    match option.argument, cut '=' opttext with
    | none, none => .options [(option.shortopt, [])] none
    | some _, none => .options [] (some option)
    | _, some (_, argument) =>
      if acceptsArgument option argument then .options [(option.shortopt, argument)]
        none else .invalid

/-- The characters of one element; the rest of it can be the argument of the last one. -/
def shortOptions (options : List OptionDescriptor) : Str → Element
  | [] => .options [] none
  | c :: text =>
    match options.find? (·.shortopt = c) with
    | none => .invalid
    | some option =>
      if option.argument.isNone then
        match shortOptions options text with
        | .options given pending => .options ((c, []) :: given) pending
        | element => element
      else if text = [] then .options [] (some option)
      else if acceptsArgument option text then .options [(c, text)] none
      else .invalid

def element (options : List OptionDescriptor) : Str → Element
  | ['-', '-'] => .endOfOptions
  | '-' :: '-' :: opttext => longOption options opttext
  | ['-'] => .invalid
  | '-' :: opttext => shortOptions options opttext
  | _ => .argument

/-- `getopt_long` along the list: the options and the arguments that are left. An option can take
the next element as its argument, unless that is an option itself. -/
def getoptLong (options : List OptionDescriptor) :
    Option OptionDescriptor → List Str → Option (List (Char × Str) × List Str)
  | none, [] => some ([], [])
  | some _, [] => none
  | some option, arg :: args =>
    if arg.head? = some '-' ∨ acceptsArgument option arg = false then none
    else (getoptLong options none args).map fun (given, rest) =>
      ((option.shortopt, arg) :: given, rest)
  | none, arg :: args =>
    match element options arg with
    | .argument => some ([], arg :: args)
    | .endOfOptions => some ([], args)
    | .options given pending =>
        (getoptLong options pending args).map fun (more, rest) => (given ++ more, rest)
    | .invalid => none

/-- `parse_options`; help is an option that fails. -/
def parseOptions (command : Descriptor) (args : List Str) : Option (List (Char × Str) × List Str) :=
  (getoptLong command.options none args).filter fun (_, rest) =>
    command.minArgs ≤ rest.length ∧ command.maxArgs.all (rest.length ≤ ·)

/-- The last use of an option counts. -/
def optionValue (given : List (Char × Str)) (shortopt : Char) : Option Str :=
  given.reverse.lookup shortopt

structure PingOptions where
  size : ℕ
  timeout : ℕ
  count : ℕ
  quiet : Bool
deriving DecidableEq, Repr

/-- Why a script does not go on. -/
inductive Departure where
  | boot (kernel : Image) (initrds : List Image)
  | shell
deriving DecidableEq, Repr

structure Environment where
  /-- Rounds of expansion that are waited for. -/
  fuel : ℕ
  /-- Settings of all other blocks. -/
  elsewhere : Host → Str → Str → Option Setting
  /-- The driver of a closed device opens it. -/
  opens : Host → Str → Bool
  ping : Host → PingOptions → Str → Bool
  /-- Nobody interrupts. -/
  sleep : Host → ℕ → Bool
  /-- An image, and whether it is of a type that can be executed. -/
  download : Host → Str → Option Bool
  /-- The last part of the path of a URI. -/
  basename : Str → Str
  /-- Nothing if the image does not return, having the others at hand. -/
  exec : Host → Image → List Image → Option Bool

inductive Command where
  | echo | exit | isset | iseq | sleep | goto | shell | set | inc | ifopen | ifclose | ifstat | ping
  | imgfetch | imgselect | imgexec
deriving DecidableEq, Repr

def commands : List (Str × Command) :=
  [("echo", .echo), ("exit", .exit), ("isset", .isset), ("iseq", .iseq), ("sleep", .sleep),
    ("goto", .goto), ("shell", .shell), ("set", .set), ("inc", .inc), ("ifopen", .ifopen),
    ("ifclose", .ifclose),
    ("ifstat", .ifstat), ("ping", .ping), ("imgfetch", .imgfetch), ("module", .imgfetch),
    ("initrd", .imgfetch), ("imgselect", .imgselect), ("imgload", .imgselect),
      ("kernel", .imgselect),
    ("imgexec", .imgexec), ("chain", .imgexec), ("boot", .imgexec)]

def isInteger (text : Str) : Bool := (parseInteger text).isSome

def imgsingleOptions : List OptionDescriptor :=
  [⟨"name", 'n', some fun _ => true⟩, ⟨"timeout", 't', some isInteger⟩, ⟨"autofree", 'a', none⟩]

def Command.descriptor : Command → Descriptor
  | .echo => ⟨[⟨"n", 'n', none⟩], 0, none⟩
  | .exit => ⟨[], 0, some 1⟩
  | .isset | .sleep | .goto => ⟨[], 1, some 1⟩
  | .iseq => ⟨[], 2, some 2⟩
  | .shell => ⟨[], 0, some 0⟩
  | .set => ⟨[], 1, none⟩
  | .inc => ⟨[], 1, some 2⟩
  | .ifopen | .ifclose | .ifstat => ⟨[], 0, none⟩
  | .ping =>
      ⟨[⟨"size", 's', some isInteger⟩, ⟨"timeout", 't', some isInteger⟩,
        ⟨"count", 'c', some isInteger⟩,
      ⟨"quiet", 'q', none⟩], 1, some 1⟩
  | .imgfetch | .imgselect => ⟨imgsingleOptions, 1, none⟩
  | .imgexec => ⟨imgsingleOptions ++ [⟨"replace", 'r', none⟩], 0, none⟩

section Exec

variable (env : Environment)

def status (result : Host × Bool) : Host × Reply Departure := (result.1, .status result.2)

def ifcommonStep (payload : Host → Device → Host × Bool) (result : Host × Bool) (name : Str) :
    Host × Bool :=
  match result.1.findNetdev name with
  | some device => payload result.1 device
  | none => (result.1, false)

/-- `ifcommon_exec`, which never stops early: the status is that of the last device. -/
def ifcommonExec (payload : Host → Device → Host × Bool) (names : List Str) (w : Host) :
    Host × Bool :=
  names.foldl (ifcommonStep payload) (w, false)

def ifopenPayload (w : Host) (device : Device) : Host × Bool :=
  if device.isOpen then (w, true)
  else if env.opens w device.name then (w.modifyNetdev device.name fun d =>
    { d with isOpen := true }, true)
  else (w, false)

def ifclosePayload (w : Host) (device : Device) : Host × Bool :=
  (w.modifyNetdev device.name fun d => { d with isOpen := false }, true)

/-- Without an interface, all of them. -/
def interfaces (w : Host) (args : List Str) : List Str :=
  if args = [] then w.devices.map (·.name) else args

def pingOptions (given : List (Char × Str)) : PingOptions :=
  let value (shortopt : Char) (default : ℕ) : ℕ :=
    ((optionValue given shortopt).bind parseInteger).getD default
  ⟨value 's' 64, value 't' 1000, value 'c' 0, (optionValue given 'q').isSome⟩

/-- `imgdownload_string`: the image comes last. -/
def imgdownload (w : Host) (uri : Str) : Option (Host × ℕ) :=
  (env.download w uri).map fun executable =>
    ({ w with images := w.images ++ [⟨uri, env.basename uri, executable, none⟩] }, w.images.length)

/-- `imgacquire`: an image with that name is used before any download. -/
def imgacquire (w : Host) (nameUri : Str) : Option (Host × ℕ) :=
  match w.images.findIdx? (·.name = nameUri) with
  | some i => some (w, i)
  | none => imgdownload env w nameUri

/-- The name and the command line of an image, where they are given. -/
def imgModify (w : Host) (i : ℕ) (name : Option Str) (cmdline : List Str) : Host :=
  { w with images := w.images.modify i fun image =>
      { image with
        name := name.getD image.name
        cmdline := if cmdline = [] then image.cmdline else some (join " " cmdline) } }

/-- `image_exec`: the image is off the list while it runs and comes last afterwards. -/
def imageExec (w : Host) (i : ℕ) : Host × Reply Departure :=
  match w.images[i]? with
  | none => (w, .status false)
  | some image =>
    if image.executable = false then (w, .status false)
    else match env.exec w image (w.images.eraseIdx i) with
    | none => (w, .gone (.boot image (w.images.eraseIdx i)))
    | some ok =>
      ({ w with
        images := w.images.eraseIdx i ++ [image]
        selected := w.selected.map fun j =>
          if j = i then w.images.length - 1 else if i < j then j - 1 else j }, .status ok)

def imgfetchExec (w : Host) (given : List (Char × Str)) (args : List Str) :
    Host × Reply Departure :=
  match imgdownload env w (args.headD []) with
  | some (w', i) => (imgModify w' i (optionValue given 'n') args.tail, .status true)
  | none => (w, .status false)

/-- `image_select`. -/
def imageSelect (w : Host) (i : ℕ) : Host × Bool :=
  if (w.images[i]?).any (·.executable) then ({ w with selected := some i }, true) else (w, false)

def imgselectExec (w : Host) (given : List (Char × Str)) (args : List Str) :
    Host × Reply Departure :=
  match imgacquire env w (args.headD []) with
  | some (w', i) => status (imageSelect (imgModify w' i (optionValue given 'n') args.tail) i)
  | none => (w, .status false)

/-- Without an image and without a selected one, `boot` does nothing and succeeds. -/
def imgexecExec (w : Host) (given : List (Char × Str)) (args : List Str) : Host × Reply Departure :=
  match args with
  | nameUri :: cmdline =>
    match imgacquire env w nameUri with
    | some (w', i) => imageExec env (imgModify w' i (optionValue given 'n') cmdline) i
    | none => (w, .status false)
  | [] =>
    match w.selected with
    | some i => imageExec env (imgModify w i (optionValue given 'n') []) i
    | none => (w, .status true)

def Command.exec (w : Host) (given : List (Char × Str)) (args : List Str) :
    Command → Host × Reply Departure
  | .echo => (w, .status true)
  | .exit =>
    match args with
    | [] => (w, .exit true)
    | code :: _ =>
      match parseInteger code with
      | some code => (w, .exit (code = 0))
      | none => (w, .status false)
  | .isset => (w, .status (args.headD [] ≠ []))
  | .iseq => (w, .status (args.headD [] = args.tail.headD []))
  | .sleep =>
    match parseInteger (args.headD []) with
    | some seconds => (w, .status (env.sleep w seconds))
    | none => (w, .status false)
  | .goto => (w, .goto (args.headD []))
  | .shell => (w, .gone .shell)
  | .set => status (setExec w (args.headD []) (join " " args.tail))
  | .inc =>
    match args with
    | [name, increment] =>
      match parseInteger increment with
      | some increment => status (incExec env.elsewhere w name increment)
      | none => (w, .status false)
    | _ => status (incExec env.elsewhere w (args.headD []) 1)
  | .ifopen => status (ifcommonExec (ifopenPayload env) (interfaces w args) w)
  | .ifclose => status (ifcommonExec ifclosePayload (interfaces w args) w)
  | .ifstat => status (ifcommonExec (fun w _ => (w, true)) (interfaces w args) w)
  | .ping => (w, .status (env.ping w (pingOptions given) (args.headD [])))
  | .imgfetch => imgfetchExec env w given args
  | .imgselect => imgselectExec env w given args
  | .imgexec => imgexecExec env w given args

/-- A command that does not exist fails, and so does one whose options or arguments do not fit. -/
def exec (argv : List Str) (w : Host) : Host × Reply Departure :=
  match commands.lookup (argv.headD []) with
  | none => (w, .status false)
  | some command =>
    match parseOptions command.descriptor argv.tail with
    | none => (w, .status false)
    | some (given, args) => command.exec env w given args

def shell : Shell Host Departure where
  expand w := expandSettings (fetchText env.elsewhere w) env.fuel
  exec := exec env

theorem element_of_head {options : List OptionDescriptor} {arg : Str} (h : arg.head? ≠ some '-') :
    element options arg = .argument := by
  rw [element]
  all_goals
    intros
    subst_vars
    exact h rfl

theorem parseOptions_nil (command : Descriptor) (h : command.minArgs = 0) :
    parseOptions command [] = some ([], []) := by
  simp [parseOptions, getoptLong, h]

/-- The first argument that is no option ends the options. -/
theorem parseOptions_cons (command : Descriptor) {arg : Str} {args : List Str}
    (h : arg.head? ≠ some '-') (hmin : command.minArgs ≤ args.length + 1)
    (hmax : command.maxArgs.all (args.length + 1 ≤ ·) = true) :
    parseOptions command (arg :: args) = some ([], arg :: args) := by
  have hcount : command.minArgs ≤ (arg :: args).length ∧
      command.maxArgs.all ((arg :: args).length ≤ ·) = true :=
    ⟨hmin, hmax⟩
  rw [parseOptions, getoptLong, element_of_head h, Option.filter_some]
  exact if_pos (decide_eq_true hcount)

variable {env} {w : Host}

theorem exec_eq {name : Str} {command : Command} {args rest : List Str} {given : List (Char × Str)}
    (hname : commands.lookup name = some command)
    (hargs : parseOptions command.descriptor args = some (given, rest)) :
    exec env (name :: args) w = command.exec env w given rest := by
  rw [exec, List.headD_cons, hname]
  simp only [List.tail_cons, hargs]

end Exec

end Astro.IpxeCommands
