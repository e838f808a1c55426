import CoordinatorGateway.Launch.Launcher
import CoordinatorGateway.Supervisor.Start
import CoordinatorGateway.Supervisor.Status
import CoordinatorGateway.Supervisor.Stop

namespace CoordinatorGateway

structure Gateway (σ : Type) where
  coordinator : Coordinator σ
  launcher : Launcher
  supervisor : Supervisor
  /-- Origins whose pages may read the answers; `*` stands for all. -/
  corsOrigins : List String
  /-- Whether a proxy is believed that says who a client is. -/
  trustProxy : Bool
  names : NameSource

def Gateway.ofSettings {σ : Type} (s : Settings) (c : Coordinator σ) (host : Host)
    (around : Supervisor.Surroundings) (names : NameSource) : Gateway σ :=
  { coordinator := c
    launcher := .ofSettings s
    supervisor := .ofSettings s host.files host.directory around
    corsOrigins := s.server.corsOrigins
    trustProxy := s.server.trustProxy
    names }

def World.initial {σ : Type} (coordinator : σ) (host : Host) (time : String) : World σ :=
  { coordinator, host, time
    store := .empty
    tracking := .empty
    started := []
    trace := []
    now := 0
    madeUp := 0 }

end CoordinatorGateway
