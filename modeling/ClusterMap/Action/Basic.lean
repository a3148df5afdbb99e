/-!
# Actions

What a user can ask to be done to a cluster, a zone or a server.
-/

namespace ClusterMap

/-- An action. The last one stands in menus that offer nothing. -/
inductive Action where
  | createTenant
  | addZone
  | addServer
  | upgrade
  | changePassword
  | restart
  | stop
  | start
  | delete
  | stopProcess
  | stopService
  | toggleAutoDetect
  | downloadLogs
  | noOperation
deriving DecidableEq, Repr, Inhabited

namespace Action

/-- The actions in their order. -/
def all : List Action :=
  [.createTenant, .addZone, .addServer, .upgrade, .changePassword, .restart, .stop, .start, .delete,
    .stopProcess, .stopService, .toggleAutoDetect, .downloadLogs, .noOperation]

/-- The name of an action in documents. -/
def name : Action → String
  | .createTenant => "create_tenant"
  | .addZone => "add_zone"
  | .addServer => "add_server"
  | .upgrade => "upgrade"
  | .changePassword => "change_password"
  | .restart => "restart"
  | .stop => "stop"
  | .start => "start"
  | .delete => "delete"
  | .stopProcess => "stop_process"
  | .stopService => "stop_service"
  | .toggleAutoDetect => "toggle_auto_detect"
  | .downloadLogs => "download_logs"
  | .noOperation => "no_operation"

/-- The text of an action in a menu. -/
def label : Action → String
  | .createTenant => "Create tenant"
  | .addZone => "Add zone"
  | .addServer => "Add server"
  | .upgrade => "Upgrade"
  | .changePassword => "Change password"
  | .restart => "Restart"
  | .stop => "Stop"
  | .start => "Start"
  | .delete => "Delete"
  | .stopProcess => "Stop process"
  | .stopService => "Stop service"
  | .toggleAutoDetect => "Toggle auto detection"
  | .downloadLogs => "Download logs"
  | .noOperation => "No operation available in the current state"

end Action

end ClusterMap
