import BoundedFormat.Host.Basic

/-!
# Actions on a host

There are two kinds of action. A `Report` reads the host and may log or print, but leaves the host
as it is; a `HostM` action may also change it. Both collect the events that they cause, in order,
and every report is a host action.
-/

namespace BoundedFormat

/-- What came of a report. -/
structure Reported (α : Type) where
  value : α
  /-- The events caused, in order. -/
  events : List Event
  deriving DecidableEq, Repr

/-- An action that logs and prints. -/
def Report (α : Type) : Type := Host → Reported α

namespace Report

instance : Monad Report where
  pure a := fun _ => ⟨a, []⟩
  bind action next := fun host =>
    let first := action host
    let second := next first.value host
    ⟨second.value, first.events ++ second.events⟩

/-- A finished report causes nothing. -/
@[simp]
theorem pure_apply {α : Type} (a : α) (host : Host) : (pure a : Report α) host = ⟨a, []⟩ := rfl

/-- One report after another: the events of the first come first. -/
@[simp]
theorem bind_apply {α β : Type} (action : Report α) (next : α → Report β) (host : Host) :
    (action >>= next) host =
      ⟨(next (action host).value host).value,
        (action host).events ++ (next (action host).value host).events⟩ := rfl

instance : LawfulMonad Report := LawfulMonad.mk' Report
  (by intro α action; funext host; exact congrArg (Reported.mk _) (List.append_nil _))
  (by intro α β a next; rfl)
  (by intro α β γ action f g; funext host; simp [List.append_assoc])

/-- Log a line. -/
def log (level : Level) (text : String) : Report Unit := fun host =>
  ⟨(), host.logEvents level text⟩

/-- Send bytes to the console. -/
def consoleWrite (bytes : Bytes) : Report Unit := fun host => ⟨(), host.consoleEvents bytes⟩

end Report

/-- What came of an action that may change the host. -/
structure Step (α : Type) where
  value : α
  /-- The host after the action. -/
  host : Host
  /-- The events caused, in order. -/
  events : List Event
  deriving DecidableEq, Repr

/-- An action that logs, prints and may change the host. -/
def HostM (α : Type) : Type := Host → Step α

namespace HostM

instance : Monad HostM where
  pure a := fun host => ⟨a, host, []⟩
  bind action next := fun host =>
    let first := action host
    let second := next first.value first.host
    ⟨second.value, second.host, first.events ++ second.events⟩

/-- A finished action changes and causes nothing. -/
@[simp]
theorem pure_apply {α : Type} (a : α) (host : Host) : (pure a : HostM α) host = ⟨a, host, []⟩ :=
  rfl

/-- One action after another: the second starts on the host that the first left. -/
@[simp]
theorem bind_apply {α β : Type} (action : HostM α) (next : α → HostM β) (host : Host) :
    (action >>= next) host =
      ⟨(next (action host).value (action host).host).value,
        (next (action host).value (action host).host).host,
        (action host).events ++ (next (action host).value (action host).host).events⟩ := rfl

instance : LawfulMonad HostM := LawfulMonad.mk' HostM
  (by intro α action; funext host; exact congrArg (Step.mk _ _) (List.append_nil _))
  (by intro α β a next; rfl)
  (by intro α β γ action f g; funext host; simp [List.append_assoc])

/-- A report as a host action. -/
def ofReport {α : Type} (report : Report α) : HostM α := fun host =>
  let reported := report host
  ⟨reported.value, host, reported.events⟩

instance : MonadLift Report HostM := ⟨ofReport⟩

/-- A report leaves the host as it is. -/
@[simp]
theorem ofReport_apply {α : Type} (report : Report α) (host : Host) :
    ofReport report host = ⟨(report host).value, host, (report host).events⟩ := rfl

/-- The host as it is. -/
def host : HostM Host := fun host => ⟨host, host, []⟩

/-- Change the host, quietly. -/
def modifyHost (change : Host → Host) : HostM Unit := fun host => ⟨(), change host, []⟩

end HostM

end BoundedFormat
