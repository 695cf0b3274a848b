/-
# Telematics.Role -- the well-known components of the client

The client is made of eleven components that are known beforehand.  Each has a
code, a tag by which it is written in JSON and a name by which people know it;
tag and name differ for the three whose name begins with an abbreviation.

`ofCode?_code` says that the code tells a role from the others, and `ofTag?_tag`
the same of the tag.
-/
namespace Telematics

set_option autoImplicit false

/-- A well-known component. -/
inductive Role where
  | messageController
  | mqttClient
  | mqttUploader
  | notificationListener
  | uploadController
  | messageQueue
  | midHandler
  | cacheTransport
  | dbTransport
  | externalReceiveBridge
  | lifecycleController
  deriving Repr, DecidableEq

namespace Role

/-- Every role, in the order of the codes. -/
def all : List Role :=
  [.messageController, .mqttClient, .mqttUploader, .notificationListener, .uploadController,
   .messageQueue, .midHandler, .cacheTransport, .dbTransport, .externalReceiveBridge,
   .lifecycleController]

/-- The number of a role, from one upwards. -/
def code : Role → Nat
  | .messageController => 1
  | .mqttClient => 2
  | .mqttUploader => 3
  | .notificationListener => 4
  | .uploadController => 5
  | .messageQueue => 6
  | .midHandler => 7
  | .cacheTransport => 8
  | .dbTransport => 9
  | .externalReceiveBridge => 10
  | .lifecycleController => 11

/-- The word that stands for a role in JSON. -/
def tag : Role → String
  | .messageController => "MessageController"
  | .mqttClient => "MqttClient"
  | .mqttUploader => "MqttUploader"
  | .notificationListener => "NotificationListener"
  | .uploadController => "UploadController"
  | .messageQueue => "MessageQueue"
  | .midHandler => "MidHandler"
  | .cacheTransport => "CacheTransport"
  | .dbTransport => "DbTransport"
  | .externalReceiveBridge => "ExternalReceiveBridge"
  | .lifecycleController => "LifecycleController"

def name : Role → String
  | .mqttClient => "MQTTClient"
  | .mqttUploader => "MQTTUploader"
  | .dbTransport => "DBTransport"
  | role => role.tag

def ofCode? (code : Nat) : Option Role :=
  all.find? (·.code = code)

def ofTag? (tag : String) : Option Role :=
  all.find? (·.tag = tag)

/-- The name of the role with a code, also where there is none. -/
def nameOfCode (code : Nat) : String :=
  ((ofCode? code).map name).getD "unknown"

theorem mem_all (role : Role) : role ∈ all := by
  cases role <;> decide

/-- The code tells a role from the others. -/
theorem ofCode?_code (role : Role) : ofCode? role.code = some role := by
  cases role <;> decide

/-- The tag tells a role from the others. -/
theorem ofTag?_tag (role : Role) : ofTag? role.tag = some role := by
  cases role <;> decide

theorem code_injective {r s : Role} (h : r.code = s.code) : r = s := by
  have hr := ofCode?_code r
  rw [h, ofCode?_code s] at hr
  exact (Option.some.inj hr).symm

end Role

end Telematics
