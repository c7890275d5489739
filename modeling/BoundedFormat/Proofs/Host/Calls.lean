import BoundedFormat.Proofs.Boot.Level
import BoundedFormat.Proofs.Host.Console

/-!
# Calls and what they come to

All that an action does on a host it does by calls into the log and the console: it makes settings,
logs lines and writes bytes. `HostM.Makes` says which calls an action comes to. Where a row of calls
starts on a fresh host, the settings in force are those that were made last (`settings`), and each
call causes what these settings have in store for it and nothing more; `Account` says so call by
call, and `account_performAll` that it holds of every row.
-/

namespace BoundedFormat

/-- A call into the log or the console. -/
inductive Call where
  | setLevel (level : Level)
  /-- Register a backend, or clear it. -/
  | setBackend (backend : Option Backend)
  /-- Register a sink, or unregister it. -/
  | setSink (sink : Option Sink)
  | log (level : Level) (text : String)
  | write (bytes : Bytes)
  deriving DecidableEq, Repr

namespace Call

/-- Make a call. -/
def perform : Call → HostM Unit
  | setLevel level => HostM.modifyHost fun host => { host with level := level }
  | setBackend backend => HostM.modifyHost fun host => { host with backend := backend }
  | setSink sink => HostM.modifyHost fun host => { host with sink := sink }
  | log level text => HostM.ofReport (Report.log level text)
  | write bytes => HostM.ofReport (Report.consoleWrite bytes)

/-- Make calls in order. -/
def performAll : List Call → HostM Unit
  | [] => pure ()
  | call :: rest => do
    call.perform
    performAll rest

/-- Calls made in two rows are made in one. -/
theorem performAll_append (first second : List Call) :
    performAll (first ++ second) = (do
      performAll first
      performAll second) := by
  induction first with
  | nil => rfl
  | cons call rest ih => simp only [List.cons_append, performAll, ih, bind_assoc]

/-- The level that the call sets. -/
def level? : Call → Option Level
  | setLevel level => some level
  | _ => none

/-- The backend that the call puts in force, if it registers or clears one. -/
def backend? : Call → Option (Option Backend)
  | setBackend backend => some backend
  | _ => none

/-- The sink that the call puts in force, if it registers or unregisters one. -/
def sink? : Call → Option (Option Sink)
  | setSink sink => some sink
  | _ => none

/-- Does the call say something, and make no setting? -/
def isSaid : Call → Bool
  | log _ _ | write _ => true
  | setLevel _ | setBackend _ | setSink _ => false

/-- Is the call a log line? -/
def isLine : Call → Bool
  | log _ _ => true
  | _ => false

/-- A log line says something. -/
theorem isSaid_of_isLine {call : Call} (h : call.isLine = true) : call.isSaid = true := by
  cases call with
  | log | write => rfl
  | setLevel | setBackend | setSink => cases h

/-- Calls that only say something leave the host as it is. -/
theorem performAll_of_isSaid {calls : List Call} (h : ∀ call ∈ calls, call.isSaid = true)
    (host : Host) :
    performAll calls host = ⟨(), host, calls.flatMap fun call => (call.perform host).events⟩ := by
  induction calls with
  | nil => rfl
  | cons call rest ih =>
    have hcall : (call.perform host).host = host := by
      have hsaid := h call List.mem_cons_self
      cases call with
      | log | write => rfl
      | setLevel | setBackend | setSink => cases hsaid
    rw [performAll, HostM.bind_apply, hcall, ih fun c hc => h c (List.mem_cons_of_mem _ hc)]
    rfl

end Call

/-! ## The settings in force -/

/-- The settings that were made last, on a host that was fresh before. -/
def settings (calls : List Call) : Host where
  level := lastOr .info (calls.filterMap Call.level?)
  backend := lastOr none (calls.filterMap Call.backend?)
  sink := lastOr none (calls.filterMap Call.sink?)

/-- One call more changes the setting that it makes. -/
theorem settings_concat (calls : List Call) (call : Call) :
    settings (calls ++ [call]) = (call.perform (settings calls)).host := by
  simp only [settings, List.filterMap_append, lastOr_append]
  cases call <;> rfl

/-- After a row of calls the settings made last are in force. -/
theorem host_performAll (before row : List Call) :
    (Call.performAll row (settings before)).host = settings (before ++ row) := by
  induction row generalizing before with
  | nil => rw [List.append_nil]; rfl
  | cons call rest ih =>
    rw [Call.performAll, HostM.bind_apply, ← settings_concat, ih, List.append_assoc]
    rfl

/-! ## What calls cause -/

/-- What has to come of bytes written to the console of a host. -/
structure Host.Passes (host : Host) (bytes : Bytes) (events : List Event) : Prop where
  /-- No bytes come to nothing. -/
  quiet : bytes = [] → events = []
  /-- Without a sink nothing is passed on. -/
  dropped : host.sink = none → events = []
  /-- The sink is called once, with all of the bytes. -/
  passed : bytes ≠ [] → ∀ sink, host.sink = some sink → events = [.write sink bytes]

/-- Bytes written to the console are passed on. -/
theorem Host.consoleEvents_passes (host : Host) (bytes : Bytes) :
    host.Passes bytes (host.consoleEvents bytes) := by
  refine ⟨?_, fun hsink => ?_, fun hne sink hsink => ?_⟩
  · rintro rfl
    rfl
  · rw [consoleEvents, hsink, ite_self]
  · have hempty : ¬bytes.isEmpty = true := by simpa using hne
    rw [consoleEvents, if_neg hempty, hsink]

/-- What has to come of a call on a host. -/
def Call.Causes (host : Host) : Call → List Event → Prop
  | log level text, events => host.Delivers level text events
  | write bytes, events => host.Passes bytes events
  | setLevel _, events | setBackend _, events | setSink _, events => events = []

/-- Every call causes what it has to. -/
theorem Call.causes_perform (call : Call) (host : Host) :
    call.Causes host (call.perform host).events := by
  cases call with
  | log level text => exact host.logEvents_delivers level text
  | write bytes => exact host.consoleEvents_passes bytes
  | setLevel | setBackend | setSink => rfl

/-- The events are those of a row of calls, in order and without any others, if `before` are the
calls made before it: each call causes what has to come of it under the settings made last. -/
inductive Account : (before row : List Call) → List Event → Prop
  | nil {before : List Call} : Account before [] []
  | cons {before row : List Call} {call : Call} {events others : List Event}
      (hcall : call.Causes (settings before) events)
      (hrow : Account (before ++ [call]) row others) :
      Account before (call :: row) (events ++ others)

/-- A row of calls is accounted for. -/
theorem account_performAll (before row : List Call) :
    Account before row (Call.performAll row (settings before)).events := by
  induction row generalizing before with
  | nil => exact .nil
  | cons call rest ih =>
    rw [Call.performAll, HostM.bind_apply, ← settings_concat]
    exact .cons (call.causes_perform _) (ih _)

/-! ## Actions that act by calls -/

namespace HostM

variable {α β : Type}

/-- On this host the action comes to these calls. -/
structure Makes (action : HostM α) (calls : List Call) (host : Host) : Prop where
  host_eq : (action host).host = (Call.performAll calls host).host
  events_eq : (action host).events = (Call.performAll calls host).events

/-- On every host the action comes to some row of calls. -/
def ActsByCalls (action : HostM α) : Prop :=
  ∃ calls : Host → List Call, ∀ host, action.Makes (calls host) host

variable {host : Host}

theorem makes_pure (a : α) : (pure a : HostM α).Makes [] host := ⟨rfl, rfl⟩

theorem makes_perform (call : Call) : call.perform.Makes [call] host where
  host_eq := rfl
  events_eq := (List.append_nil _).symm

/-- One action after another makes the calls of both. -/
theorem Makes.bind {action : HostM α} {next : α → HostM β} {first second : List Call}
    (hfirst : action.Makes first host)
    (hsecond : (next (action host).value).Makes second (action host).host) :
    (action >>= next).Makes (first ++ second) host where
  host_eq := by
    rw [Call.performAll_append, bind_apply, bind_apply, hsecond.host_eq, hfirst.host_eq]
  events_eq := by
    rw [Call.performAll_append, bind_apply, bind_apply, hsecond.events_eq, hfirst.events_eq,
      hfirst.host_eq]

/-- What becomes of its value is no matter. -/
theorem Makes.bind_pure {action : HostM α} {calls : List Call} (h : action.Makes calls host)
    (f : α → β) : (action >>= fun a => pure (f a)).Makes calls host := by
  rw [← List.append_nil calls]
  exact h.bind (makes_pure _)

/-- The calls of one thing after another, each on the host that the calls before it leave. -/
def callsAlong (calls : α → Host → List Call) : List α → Host → List Call
  | [], _ => []
  | a :: rest, host =>
    calls a host ++ callsAlong calls rest (Call.performAll (calls a host) host).host

/-- A row of actions makes the calls of all of them. -/
theorem makes_mapM {action : α → HostM β} {calls : α → Host → List Call} {row : List α}
    (h : ∀ a ∈ row, ∀ host, (action a).Makes (calls a host) host) (host : Host) :
    (row.mapM action).Makes (callsAlong calls row host) host := by
  induction row generalizing host with
  | nil => exact makes_pure _
  | cons a rest ih =>
    have hfirst := h a List.mem_cons_self host
    rw [List.mapM_cons, callsAlong, ← hfirst.host_eq]
    exact hfirst.bind ((ih (fun b hb => h b (List.mem_cons_of_mem _ hb)) _).bind_pure _)

/-- One report after another, as host actions. -/
theorem ofReport_bind (report : Report α) (next : α → Report β) :
    ofReport (report >>= next) = ofReport report >>= fun a => ofReport (next a) := rfl

/-- A report that causes what is said in calls makes these calls. -/
theorem makes_ofReport {report : Report α} {calls : List Call}
    (hsaid : ∀ call ∈ calls, call.isSaid = true)
    (hevents : (report host).events = calls.flatMap fun call => (call.perform host).events) :
    (ofReport report).Makes calls host where
  host_eq := by rw [Call.performAll_of_isSaid hsaid]; rfl
  events_eq := by rw [Call.performAll_of_isSaid hsaid]; exact hevents

end HostM

/-! ## Formatting and printing -/

/-- The calls of a formatting call are its log lines. -/
def formattedCalls (template : Bytes) (arguments : List Argument) : List Call :=
  (logLines template arguments).map (.log .debug)

/-- The calls of a line for the console: its log lines, what fits of it, and a warning where
something does not. -/
def printedCalls (template : Bytes) (arguments : List Argument) : List Call :=
  let line := output template arguments
  formattedCalls template arguments ++ .write (line.take 255) ::
    if 255 < line.length then [.log .warn (cutWarning line.length)] else []

/-- The calls of a number printed in hexadecimal. -/
def hexCalls (n : UInt64) : List Call :=
  if n.toNat < UInt32.size then printedCalls Report.shortHexTemplate [toArgument n.toUInt32]
  else printedCalls Report.longHexTemplate [toArgument n]

section

variable (template : Bytes) (arguments : List Argument) (counters : Counters) (host : Host)

/-- Log lines say something. -/
theorem isSaid_of_mem_formattedCalls {call : Call}
    (h : call ∈ formattedCalls template arguments) : call.isSaid = true := by
  obtain ⟨line, -, rfl⟩ := List.mem_map.1 h
  rfl

/-- A line for the console makes no setting. -/
theorem isSaid_of_mem_printedCalls {call : Call}
    (h : call ∈ printedCalls template arguments) : call.isSaid = true := by
  rw [printedCalls] at h
  obtain hline | hcall := List.mem_append.1 h
  · exact isSaid_of_mem_formattedCalls template arguments hline
  · obtain rfl | hwarning := List.mem_cons.1 hcall
    · rfl
    · split at hwarning
      · rw [List.mem_singleton.1 hwarning]
        rfl
      · cases hwarning

/-- A number printed in hexadecimal makes no setting. -/
theorem isSaid_of_mem_hexCalls {n : UInt64} {call : Call} (h : call ∈ hexCalls n) :
    call.isSaid = true := by
  rw [hexCalls] at h
  split at h <;> exact isSaid_of_mem_printedCalls _ _ h

/-- The log lines of a formatting call are delivered as such calls. -/
theorem events_formattedCalls :
    (formattedCalls template arguments).flatMap (fun call => (call.perform host).events) =
      (logLines template arguments).flatMap (host.logEvents .debug) := by
  rw [formattedCalls, List.flatMap_map]
  rfl

/-- A formatting call makes its calls. -/
theorem makes_formatInto (cells : Array UInt8) :
    (HostM.ofReport (Report.formatInto cells template arguments counters)).Makes
      (formattedCalls template arguments) host := by
  refine HostM.makes_ofReport (fun _ => isSaid_of_mem_formattedCalls template arguments) ?_
  rw [events_formattedCalls, Report.formatInto_apply]

/-- A line for the console makes its calls. -/
theorem makes_printf :
    (HostM.ofReport (Report.printf template arguments counters)).Makes
      (printedCalls template arguments) host := by
  refine HostM.makes_ofReport (fun _ => isSaid_of_mem_printedCalls template arguments) ?_
  have hwrite : ∀ bytes, ((Call.write bytes).perform host).events = host.consoleEvents bytes :=
    fun _ => rfl
  rw [Report.printf_apply, printedCalls, List.flatMap_append, List.flatMap_cons,
    events_formattedCalls, hwrite, ← Host.consoleEvents_take, List.append_assoc]
  split <;> simp [Call.perform, Report.log]

/-- A number printed in hexadecimal makes its calls. -/
theorem makes_printHex (n : UInt64) :
    (HostM.ofReport (Report.printHex n)).Makes (hexCalls n) host := by
  rw [Report.printHex, hexCalls]
  split
  · rw [HostM.ofReport_bind]
    exact (makes_printf _ _ _ host).bind_pure fun _ => ()
  · rw [HostM.ofReport_bind]
    exact (makes_printf _ _ _ host).bind_pure fun _ => ()

end

end BoundedFormat
