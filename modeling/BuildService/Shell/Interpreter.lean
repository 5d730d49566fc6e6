import BuildService.Shell.Command
/-!
Obeying scripts.

A script is obeyed one complete command after the other. Every function counts
down a number of steps, so that a script that would go on for ever comes to an
end here too; it then counts as one that never ends. What happens after the
horizon is not looked at either.
-/

set_option autoImplicit false

namespace BuildService.Shell

open Act

mutual

/-- The items of a word. -/
def expand : Nat → Nat → Word → Act (List Item)
  | 0, _, _ => do
    -- Out of steps: this counts as a script that never ends.
    setSelf fun p => { p with halted := some .never }
    return []
  | _, _, [] => return []
  | n + 1, line, piece :: rest => do
    let front ← match piece with
      | .literal s isQuoted =>
        pure ((if isQuoted then [Item.mark] else []) ++ s.map fun c => Item.char c isQuoted false)
      | .command source isQuoted => do
        let s ← substitute n source
        pure ((if isQuoted then [Item.mark] else []) ++ items s isQuoted)
      | .arithmetic source isQuoted => do
        -- Variables in an expression are replaced before it is looked at.
        match Reader.quotedWhole .braces source with
        | .error e => do
          giveUp line e.message
          pure []
        | .ok w =>
          let is ← expand n line w
          let s := textOf is
          match Arithmetic.evaluate s (← self).bindings with
          | .ok (v, vs) =>
            setSelf fun p => { p with bindings := vs }
            pure (items (Raw.ofInt v) isQuoted)
          | .error e => do
            giveUp line (e.message s)
            pure []
      | .variable name use isQuoted => valueItems n line name use isQuoted
    let back ← expand n line rest
    return front ++ back

/-- The items of a variable and its use. -/
def valueItems : Nat → Nat → Raw → Use → Bool → Act (List Item)
  | 0, _, _, _, _ => return []
  | n + 1, line, name, use, isQuoted => do
    let value ← valueOf name
    let mark : List Item := if isQuoted then [.mark] else []
    let shown (s : Raw) : List Item := mark ++ items s isQuoted
    let plain : Act (List Item) :=
      if name = ['@'] then argumentItems isQuoted false
      else if name = ['*'] then argumentItems isQuoted true
      else return shown (value.getD [])
    let isMissing (orEmpty : Bool) : Bool := value.isNone || (orEmpty && value = some [])
    -- The arguments as a whole are never missing.
    let isRefused := value.isNone && name != ['@'] && name != ['*'] && (← hasOption 'u')
    let refused : Act (List Item) := do
      giveUp line (Raw.text name ++ ": parameter not set")
      return []
    let inner (isQuoted : Bool) (w : Raw) : Act (List Item) := do
      match if isQuoted then Reader.quotedWhole .braces w else Reader.wholeWord w with
      | .ok w => return mark ++ (← expand n line w)
      | .error e => do
        giveUp line e.message
        return []
    match use with
    | .broken => do
      giveUp line "Bad substitution"
      return []
    | .value => if isRefused then refused else plain
    | .length =>
      if isRefused then refused else return shown (toString (value.getD []).length).toList
    | .default orEmpty w => if isMissing orEmpty then inner isQuoted w else plain
    | .instead orEmpty w => if isMissing orEmpty then return mark else inner isQuoted w
    | .assign orEmpty w =>
      if isMissing orEmpty then do
        let s := textOf (← inner isQuoted w)
        assign line "" name s
        return shown s
      else plain
    | .require orEmpty w =>
      if isMissing orEmpty then do
        let s := textOf (← inner isQuoted w)
        let why := if w.isEmpty then
          (if orEmpty then "parameter not set or null" else "parameter not set") else Raw.text s
        giveUp line (Raw.text name ++ ": " ++ why)
        return []
      else plain
    | .trim atEnd longest w => if isRefused then refused else do
      let p := patternOf (← inner false w)
      let s := value.getD []
      return shown (if atEnd then p.trimEnd longest s else p.trimFront longest s)

/-- What a script gives out, without the newlines at its end. -/
def substitute : Nat → Raw → Act Raw
  | 0, _ => return []
  | n + 1, source => do
    let k ← makePipe
    let (_, ending) ← inChild (fun p => { p with
        isGuarded := false
        descriptors := (1, .pipe k) :: p.descriptors.filter (·.1 != 1) }) do
      finish n (← runScript n "" source)
    match ← await ending with
    | .never => setSelf fun p => { p with halted := some .never }
    | _ => pure ()
    -- By now everything that was given out is in the pipe.
    let s := (((← get).world.pipes[k]?).getD .empty).chunks.flatMap (·.2)
    return ((s.filter (· != '\x00')).reverse.dropWhile (· == '\n')).reverse

def fields : Nat → Nat → List Word → Act (List Raw)
  | 0, _, _ => return []
  | _, _, [] => return []
  | n + 1, line, w :: ws => do
    let is ← expand n line w
    let d ← disk
    let isPlain ← hasOption 'f'
    let front := (fieldsOf (← separators) is).flatMap fun f =>
      if isPlain then [f.text] else f.paths d
    let back ← fields n line ws
    return front ++ back

/-- The single text of a word. -/
def single : Nat → Nat → Word → Act Raw
  | 0, _, _ => return []
  | n + 1, line, w => do return textOf (← expand n line w)

def redirect : Nat → Nat → List Redirection → Act (Option String)
  | 0, _, _ => return none
  | _, _, [] => return none
  | n + 1, line, r :: rs => do
    let s ← single n line r.target
    match r.direction with
    | .duplicate =>
      if s = ['-'] then
        setChannel r.descriptor none
        redirect n line rs
      -- A descriptor is named by one digit.
      else match if s.length = 1 then natural? s else none with
        | none =>
          giveUp line "Syntax error: Bad fd number"
          return none
        | some fd =>
          match ← channel? fd with
          | none => return some (toString fd ++ ": Bad file descriptor")
          | some channel =>
            setChannel r.descriptor (some channel)
            redirect n line rs
    | .here =>
      let k ← makePipe
      let p ← self
      -- The whole text is there at once.
      setPipe k fun _ => ⟨[(p.now, s)], .closed p.now⟩
      setChannel r.descriptor (some (.pipe k))
      redirect n line rs
    | direction =>
      match ← openFor direction s with
      | .error e => return some e
      | .ok channel =>
        setChannel r.descriptor (some channel)
        redirect n line rs

def obey : Nat → Tree → Act Flow
  | 0, _ => return .never
  | n + 1, tree => do
    if (← get).world.horizon < (← self).now then return .never
    if ← hasOption 'n' then return .next
    -- With the option `e` a command that fails ends the shell, unless its failure is asked for.
    let checked (flow : Flow) : Act Flow := do
      let p ← self
      match flow with
      | .next =>
        return if p.options.contains 'e' && !p.isGuarded && p.status != 0 then .leave else .next
      | other => return other
    match tree with
    | .nothing => return .next
    | .simple c => checked (← simple n false c)
    | .sequence a b =>
      match ← obey n a with
      | .next => obey n b
      | other => return other
    | .background body => do
      let (pid, ending) ← inChild (fun p => { p with
          now := p.now + 1
          isGuarded := false
          -- A job in the background does not share the input of the shell.
          descriptors := p.descriptors.filter (·.1 != 0) }) do
        finish n (← last n body)
      setSelf fun p => { p with
        jobs := ⟨pid, ending⟩ :: p.jobs, lastJob := some pid, status := 0 }
      return .next
    | .pipe left right => do
      let k ← makePipe
      let (_, first) ← inChild (fun p => { p with
          descriptors := (1, .pipe k) :: p.descriptors.filter (·.1 != 1) }) do
        finish n (← last n left)
      setPipe k fun q => match q.tail, first with
        | .silent, some (t, _) => { q with tail := .closed t }
        | tail, _ => { q with tail }
      let (_, second) ← inChild (fun p => { p with
          descriptors := (0, .pipe k) :: p.descriptors.filter (·.1 != 0) }) do
        finish n (← last n right)
      match first with
      | none => return .never
      | some (t, _) =>
        -- A pipe is over when both sides are.
        let flow ← await second
        waitUntil t
        checked flow
    | .negate body =>
      match ← guarded (obey n body) with
      | .next => do
        setSelf fun p => { p with status := if p.status = 0 then 1 else 0 }
        return .next
      | other => return other
    | .andThen a b =>
      match ← guarded (obey n a) with
      | .next => if (← self).status = 0 then obey n b else return .next
      | other => return other
    | .orElse a b =>
      match ← guarded (obey n a) with
      | .next => if (← self).status = 0 then return .next else obey n b
      | other => return other
    | .subshell body => do
      let (_, ending) ← inChild id do finish n (← last n body)
      checked (← await ending)
    | .conditional condition yes no =>
      match ← guarded (obey n condition) with
      | .next =>
        if (← self).status = 0 then obey n yes
        else do
          setStatus 0
          obey n no
      | other => return other
    | .loop answer condition body => inLoop (repeated n answer condition body)
    | .each name words body => do
      let values ← match words with
        | some ws => fields n 1 ws
        | none => pure (← self).args
      setStatus 0
      inLoop (each n name values body)
    | .choice subject patterns body rest => do
      let s ← single n 1 subject
      let mut fits := false
      for w in patterns do
        -- Patterns behind the first that fits are not expanded.
        if !fits then
          let p := patternOf (← expand n 1 w)
          fits := p.fits s
      if fits then
        setStatus 0
        obey n body
      else if rest matches .nothing then
        setStatus 0
        return .next
      else obey n rest
    | .function name body => do
      setSelf fun p => { p with
        functions := (name, body) :: p.functions.filter (·.1 != name), status := 0 }
      return .next
    | .redirected body rs => do
      let saved := (← self).descriptors
      match ← redirect n 1 rs with
      | some e => do
        let p ← self
        setSelf fun p => { p with descriptors := saved }
        complain (Raw.text p.name ++ ": 1: " ++ e)
        setStatus 2
        return .next
      | none => do
        let flow ← obey n body
        noteHold (flow = .never)
        -- The trace is not subject to the redirections of the command.
        setSelf fun p => { p with descriptors := saved }
        return flow

/-- Obeys the last command of a process; a program takes the place of the process. -/
def last : Nat → Tree → Act Flow
  | 0, _ => return .never
  | n + 1, tree =>
    match tree with
    | .simple c => simple n true c
    | other => obey n other

/-- Repeats a body as long as a condition has an answer. -/
def repeated : Nat → Bool → Tree → Tree → Act Flow
  | 0, _, _, _ => return .never
  | n + 1, answer, condition, body => do
    let before := (← self).status
    match ← guarded (obey n condition) with
    | .next =>
      if ((← self).status = 0) = answer then
        match ← obey n body with
        | .next => repeated n answer condition body
        -- Every loop on the way takes one level off.
        | .out (k + 2) => return .out (k + 1)
        | .out _ => return .next
        | .again (k + 2) => return .again (k + 1)
        | .again _ => repeated n answer condition body
        | other => return other
      else do
        setStatus (if before = (← self).status then 0 else before)
        return .next
    | .out (k + 2) => return .out (k + 1)
    | .out _ => return .next
    | other => return other

def each : Nat → Raw → List Raw → Tree → Act Flow
  | 0, _, _, _ => return .never
  | _, _, [], _ => return .next
  | n + 1, name, v :: vs, body => do
    assign 1 "" name v
    if let some flow := (← self).halted then return flow
    match ← obey n body with
    | .next => each n name vs body
    | .out (k + 2) => return .out (k + 1)
    | .out _ => return .next
    | .again (k + 2) => return .again (k + 1)
    | .again _ => each n name vs body
    | other => return other

def simple : Nat → Bool → Simple → Act Flow
  | 0, _, _ => return .never
  | n + 1, isLast, c => do
    let words ← fields n c.line c.words
    if let some flow := (← self).halted then return flow
    let saved := (← self).descriptors
    let name := words.head?.getD []
    let isOwn := specialNames.contains (Raw.text name)
    match ← redirect n c.line c.redirections with
    | some e => do
      let p ← self
      setSelf fun p => { p with descriptors := saved }
      complain (Raw.text p.name ++ ": " ++ toString c.line ++ ": " ++ e)
      setStatus 2
      -- Only for a command that changes the shell is this the end of the shell.
      return if isOwn then .leave else .next
    | none => do
      if let some flow := (← self).halted then return flow
      if words.isEmpty then setStatus 0
      let old := (← self).bindings
      let oldExported := (← self).exported
      let mut shown : List Raw := []
      for (variableName, w) in c.assignments do
        let s ← single n c.line w
        shown := shown ++ [variableName ++ '=' :: s]
        assign c.line "" variableName s
        if !words.isEmpty && !isOwn then exportVariable variableName
      if let some flow := (← self).halted then return flow
      if ← hasOption 'x' then
        let inForce := (← self).descriptors
        setSelf fun p => { p with descriptors := saved }
        complain ("+ " ++ Raw.text ([' '].intercalate (shown ++ words)))
        setSelf fun p => { p with descriptors := inForce }
      if words.isEmpty then
        setSelf fun p => { p with descriptors := saved }
        return .next
      else
        let flow ← invoke n isLast c.line words
        -- What `exec` has redirected stays so.
        if name != "exec".toList then
          noteHold (flow = .never)
          setSelf fun p => { p with descriptors := saved }
        -- Assignments in front of a command hold for this command only.
        if !isOwn then
          for (variableName, _) in c.assignments do
            setSelf fun p => { p with
              bindings := (old.filter (·.1 == variableName)) ++
                p.bindings.filter (·.1 != variableName)
              exported := oldExported }
        return (← self).halted.getD flow

def invoke : Nat → Bool → Nat → List Raw → Act Flow
  | 0, _, _, _ => return .never
  | _, _, _, [] => return .next
  | n + 1, isLast, line, name :: args => do
    match (← self).functions.lookup name with
    | some body => inFunction args (obey n body)
    | none =>
      if ownNames.contains (Raw.text name) then own n isLast line (Raw.text name) args
      -- The last command of a process takes its place; any other one gets a process of its own.
      else if isLast then execute n line "" (name :: args)
      else do
        let (_, ending) ← inChild id do execute n line "" (name :: args)
        await ending

def own : Nat → Bool → Nat → String → List Raw → Act Flow
  | 0, _, _, _, _ => return .never
  | n + 1, isLast, line, name, args => do
    let p ← self
    let label := Raw.text p.name ++ ": " ++ toString line ++ ": " ++ name
    let done (status : Nat) : Act Flow := do
      setStatus status
      return .next
    let tool (t : Tools.Tool) : Act Flow := do
      match ← t args with
      | some status => done status
      | none => return .never
    let stop (message : String) : Act Flow := do
      complain (label ++ ": " ++ message)
      setStatus 2
      return .leave
    let declared : Act Flow := do
      if (← self).halted.isSome then return .leave else done 0
    let number (f : Nat → Act Flow) (default : Nat) : Act Flow :=
      match args with
      | [] => f default
      | a :: _ => match natural? a with
        | some k => if k < Nat.pow 2 31 then f k else stop ("Illegal number: " ++ Raw.text a)
        | none => stop ("Illegal number: " ++ Raw.text a)
    match name with
    | ":" => done 0
    | "true" => done 0
    | "false" => done 1
    | "umask" => do
      if args.isEmpty then
        let _ ← write 1 "0022\n".toList
      done 0
    | "echo" => tool (Tools.echo label true)
    | "printf" => tool (Tools.printf label)
    | "test" => tool (Tools.test label false)
    | "[" => tool (Tools.test label true)
    | "exit" => number (fun k => do
        setStatus (k % 256)
        return .leave) p.status
    | "return" => number (fun k => do
        setStatus (k % 256)
        return .back) p.status
    -- Outside of loops there is nothing to leave.
    | "break" => number (fun k => if p.loops = 0 then done 0 else return .out (min k p.loops)) 1
    | "continue" =>
      number (fun k => if p.loops = 0 then done 0 else return .again (min k p.loops)) 1
    | "shift" => number (fun k => do
        if p.args.length < k then stop "can't shift that many"
        else
          setSelf fun p => { p with args := p.args.drop k }
          done 0) 1
    | "export" => do
      if args = [['-', 'p']] then showVariables "export" p.exported
      else declareAll line "export: " args (fun _ => pure ()) exportVariable
      declared
    | "readonly" => do
      if args.isEmpty || args = [['-', 'p']] then showVariables "readonly" p.fixed
      else declareAll line "readonly: " args (fun _ => pure ()) fixVariable
      declared
    | "local" =>
      if p.hidden.isNone then stop "not in a function"
      else do
        declareAll line "local: " args hideVariable (fun _ => pure ())
        declared
    | "unset" => do
      let names := args.filter fun a => a.head? != some '-'
      match names.find? p.fixed.contains with
      | some v => stop (Raw.text v ++ ": is read only")
      | none => match names.find? (!Reader.isName ·) with
        | some v => stop (Raw.text v ++ ": bad variable name")
        | none => do
          if !args.contains ['-', 'f'] then
            for v in names do dropVariable v
          if !args.contains ['-', 'v'] then
            setSelf fun p => { p with
              functions := p.functions.filter fun (v, _) => !names.contains v }
          done 0
    | "set" =>
      match optionsAfter p.options args with
      | .error a => stop ("Illegal option " ++ Raw.text a)
      | .ok (options, args) => do
        setSelf fun p => { p with options := options, args := args.getD p.args }
        done 0
    | "cd" => do
      let isBack := args = [['-']]
      let path := if isBack then (p.bindings.lookup "OLDPWD".toList).getD []
        else args.head?.getD ((p.bindings.lookup "HOME".toList).getD [])
      if ← changeDirectory path then
        -- Whoever goes back is told where that is.
        if isBack then
          let _ ← write 1 (path ++ ['\n'])
        done 0
      else do
        complain (label ++ ": can't cd to " ++ Raw.text path)
        done 2
    | "pwd" => do
      let _ ← write 1 (Raw.ofText ((← disk).pathOf p.base) ++ ['\n'])
      done 0
    | "eval" => do
      if args.isEmpty then setStatus 0
      runScript n "eval: " ([' '].intercalate args)
    | "." => do
      let path := args.head?.getD []
      if !path.contains '/' then stop (Raw.text path ++ ": not found")
      else match (← disk).read (Raw.text path) with
        | .ok bs => do
          match ← runScript n "" (Raw.ofBytes bs) with
          | .back => return .next
          | flow => return flow
        | .error _ => stop ("cannot open " ++ Raw.text path ++ ": No such file")
    | "type" => do done (← describe args)
    | "command" =>
      match args with
      | [] => done 0
      | ['-', 'v'] :: names => do done (← whereabouts (names.take 1))
      | ['-', 'V'] :: names => do done (← describe (names.take 1))
      | first :: rest =>
        if ownNames.contains (Raw.text first) then own n isLast line (Raw.text first) rest
        else do
          let (_, ending) ← inChild id do execute n line "" args
          await ending
    | "exec" => if args.isEmpty then done 0 else execute n line "exec: " args
    | "read" => do
      let (isRaw, names) := readOptions false args
      if names.isEmpty then
        complain (label ++ ": arg count")
        done 2
      else readLine line isRaw names
    | "wait" =>
      match args.find? fun a => (natural? a).isNone with
      | some a => do
        complain (label ++ ": Illegal number: " ++ Raw.text a)
        done 2
      | none => waitFor args
    | "trap" =>
      match args with
      | [] => do
        showTraps
        done 0
      | ['-'] :: names => do done (← setTraps none names)
      | [only] => do done (← setTraps none [only])
      | action :: names => do done (← setTraps (some action) names)
    | "kill" => killAll n line label args
    | _ => done 0

def killAll : Nat → Nat → String → List Raw → Act Flow
  | 0, _, _, _ => return .never
  | n + 1, line, label, args => do
    let p ← self
    let done (status : Nat) : Act Flow := do
      setStatus status
      return .next
    let bad (message : String) : Act Flow := do
      complain (label ++ ": " ++ message)
      done 2
    let send (signal : Signal) (pids : List Raw) : Act Flow := do
      let mut flow := Flow.next
      let mut status := 0
      for pid in pids do
        match natural? pid with
        | none => do
          complain (label ++ ": Illegal number: " ++ Raw.text pid)
          status := 2
        | some target =>
          if target = p.shellPid && p.pid = p.shellPid then
            match p.traps.lookup (Raw.ofInt signal) with
            | some action =>
              if signal = Signal.kill then flow := .dead signal
              else flow := ← runScript n "" action
            | none =>
              if Signal.isStop signal then flow := .never
              else if !Signal.isPassedOver signal then flow := .dead signal
          else if !(← killJob target signal) then
            complain (Raw.text p.name ++ ": " ++ toString line ++ ": kill: No such process\n")
            status := 1
      if flow = .next then setStatus status
      return flow
    match args with
    | [['-', 'l']] => do
      let _ ← write 1 ((("0" :: Signal.names.drop 1).flatMap fun s => s.toList ++ ['\n']))
      done 0
    | ['-', 'l'] :: numbers :: _ =>
      match natural? numbers with
      | some k => do
        let _ ← write 1 ((Signal.name (k % 128)).toList ++ ['\n'])
        done 0
      | none => bad ("Illegal number: " ++ Raw.text numbers)
    | ['-', 's'] :: s :: pids =>
      match Signal.ofText? s with
      | some signal => send signal pids
      | none => bad ("invalid signal number or name: " ++ Raw.text s)
    | ['-', '-'] :: pids => send Signal.terminate pids
    | ('-' :: c :: s) :: pids =>
      match Signal.ofText? (c :: s) with
      | some signal => send signal pids
      | none => bad ("Illegal option -" ++ Raw.text [c])
    | [] => bad ("Usage: kill [-s sigspec | -signum | -sigspec] [pid | job]... or\n" ++
        "kill -l [exitstatus]")
    | pids => send Signal.terminate pids

/-- Runs a program in the place of the current process. `label` says which command asked for it. -/
def execute : Nat → Nat → String → List Raw → Act Flow
  | 0, _, _, _ => return .never
  | _, _, _, [] => return .leave
  | n + 1, line, label, name :: args => do
    match ← program name with
    | .error (status, why) => do
      let p ← self
      complain (Raw.text p.name ++ ": " ++ toString line ++ ": " ++ label ++ Raw.text name ++
        ": " ++ why)
      setStatus status
      return .leave
    | .ok (_, node) => load n node name args

def load : Nat → Node → Raw → List Raw → Act Flow
  | 0, _, _, _ => return .never
  | n + 1, node, name, args => do
    -- Signals that are passed over stay so in the new program; other traps are gone.
    setSelf fun p => { p with traps := p.traps.filter (·.2.isEmpty) }
    match node with
    | .tool "sh" => shell n name args
    | .tool "dash" => shell n name args
    | .tool "env" => environment n args
    | .tool other =>
      match Tools.find? other with
      | some t => do ofTool (← t args)
      | none => ofTool (some 127)
    | .file c _ =>
      match interpreter? c.bytes with
      | some (path, extra) => do
        match ← program path with
        | .ok (_, node) => load n node path (extra ++ name :: args)
        | .error _ => ofTool (some 127)
      -- Without such a line a file is read as a script.
      | none => shell n ['s', 'h'] (name :: args)
    | _ => ofTool (some 126)

/-- Becomes a program with other variables. -/
def environment : Nat → List Raw → Act Flow
  | 0, _ => return .never
  | n + 1, args => do
    match args with
    | ['-', 'i'] :: rest => do
      setSelf fun p => { p with exported := [] }
      environment n rest
    | ['-', 'u'] :: name :: rest => do
      dropVariable name
      environment n rest
    | first :: rest =>
      if first.contains '=' then do
        let name := first.takeWhile (· != '=')
        setVariable name (first.drop (name.length + 1))
        exportVariable name
        environment n rest
      else if first.head? = some '-' && 1 < first.length then
        ofTool (← Tools.refuse "env" ("invalid option -- '" ++ Raw.text ((first.drop 1).take 1) ++
          "'") 125)
      else match ← program first with
        | .ok (_, node) => load n node first rest
        | .error (status, why) => do
          let why := if status = 127 then "No such file or directory" else why
          complain ("env: '" ++ Raw.text first ++ "': " ++ why)
          setStatus status
          return .leave
    | [] => ofTool (← Tools.printenv [])

def shell : Nat → Raw → List Raw → Act Flow
  | 0, _, _ => return .never
  | n + 1, name, args => do
    let isOption (a : Raw) : Bool := a.head? = some '-' && 1 < a.length
    let letters := (args.takeWhile isOption).flatMap (·.drop 1)
    let rest := args.dropWhile isOption
    let stop (message : String) : Act Flow := do
      complain (Raw.text name ++ ": 0: " ++ message)
      setStatus 2
      return .leave
    let become (name : Raw) (args : List Raw) : Act Unit :=
      setSelf (freshShell name args (letters.filter (· != 'c')))
    match letters.find? fun l => !("cs".toList ++ optionNames.map (·.2)).contains l with
    | some l => stop ("Illegal option -" ++ Raw.text [l])
    | none =>
      if letters.contains 'c' then
        match rest with
        | [] => stop "-c requires an argument"
        | script :: others => do
          become (others.head?.getD name) (others.drop 1)
          finish n (← runScript n "" script)
      else match rest with
        | path :: others => do
          match (← disk).read (Raw.text path) with
          | .ok bs => do
            become path others
            finish n (← runScript n "" (Raw.ofBytes bs))
          | .error _ => stop ("cannot open " ++ Raw.text path ++ ": No such file")
        | [] => do
          become name []
          match ← readAll 0 with
          | .error _ => return .leave
          | .ok q =>
            match q.whole? with
            | none => return .never
            | some (s, t) => do
              waitUntil t
              finish n (← runScript n "" s)

/-- Obeys a script. `label` says which command asked for it. -/
def runScript : Nat → String → Raw → Act Flow
  | 0, _, _ => return .never
  | n + 1, label, s => commands n label (1 + s.count '\n') s

/-- Obeys the commands of a script that has so many lines. -/
def commands : Nat → String → Nat → Raw → Act Flow
  | 0, _, _, _ => return .never
  | _, _, _, [] => return .next
  | n + 1, label, lines, s => do
    -- One command at a time: what stands above a fault has been obeyed by then.
    match Reader.nextCommand lines s with
    | .error e => do
      let p ← self
      complain (Raw.text p.name ++ ": " ++ toString (Reader.lineOf lines s) ++ ": " ++ label ++
        e.message)
      setStatus 2
      return .leave
    | .ok (tree, rest) =>
      match ← obey n tree with
      | .next => commands n label lines rest
      | other => return other

/-- Ends a shell: what is to be done at its end is done. -/
def finish : Nat → Flow → Act Flow
  | 0, _ => return .never
  | n + 1, flow => do
    let p ← self
    match flow with
    | .never => return .never
    | .dead k => return .dead k
    | _ =>
      match p.traps.lookup ['0'] with
      | none => return .leave
      | some action => do
        setSelf fun p => { p with
          -- It is taken away first, so that it does not set off itself.
          traps := p.traps.filter (·.1 != ['0']), halted := none, isGuarded := false }
        match ← runScript n "" action with
        | .never => return .never
        | .dead k => return .dead k
        | .leave => return .leave
        | _ => do
          setStatus p.status
          return .leave

end

end BuildService.Shell
