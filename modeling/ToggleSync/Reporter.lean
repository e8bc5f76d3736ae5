-- Reports to the server: the client makes itself known when it starts, and says from time to
-- time what was asked of it.
import ToggleSync.Span
import ToggleSync.Sync

namespace ToggleSync

def Identity.registration (i : Identity) (interval : Span) (started : Instant) : Registration where
  appName := i.appName
  instanceId := i.instanceId
  connectionId := i.connectionId
  sdkVersion := i.sdkVersion
  strategies := knownStrategies
  started
  intervalMs := .ofNat interval.wordMillis

namespace Machine

def registerTask : String := "register-client"

def reportTask : String := "send-metrics"

/-- Starts to report. Without an interval, or with one of no length, nothing is reported. -/
def startReports (m : Machine) (interval : Option Span) (i : Identity) : Machine × Bool :=
  match interval.filter (!·.isZero) with
  | none => (m, false)
  | some interval =>
    let r := i.registration interval m.state.calendar
    let m := m.configure ⟨registerTask, 0, true, .register r⟩ clientToken true
    (m.configure ⟨reportTask, interval.ticks, false, .report i⟩ clientToken true, true)

end Machine

end ToggleSync
