import CursorPaging.Error
import CursorPaging.Json.Decode

/-!
# Resources

The catalogue of paged lists: for each resource its name, the path of its endpoint, the key of the
items in a response, the column it is sorted by at first, and the properties it can be filtered by.
-/

namespace CursorPaging

/-- A resource that is listed page by page. -/
inductive Resource where
  | sessions
  | servers
  | sessionTemplates
  | users
  | userGroups
  deriving DecidableEq

namespace Resource

/-- Every resource, in the order of the catalogue. -/
def all : List Resource := [.sessions, .servers, .sessionTemplates, .users, .userGroups]

/-- The name on the command line. -/
def name : Resource → String
  | .sessions => "sessions"
  | .servers => "servers"
  | .sessionTemplates => "session-templates"
  | .users => "users"
  | .userGroups => "user-groups"

/-- The path of the endpoint below the base URL. -/
def endpoint : Resource → String
  | .sessions => "/describeSessions"
  | .servers => "/describeServers"
  | .sessionTemplates => "/describeSessionTemplates"
  | .users => "/describeUsers"
  | .userGroups => "/describeUserGroups"

/-- The key of the items in a response. -/
def itemsKey : Resource → String
  | .sessions => "Sessions"
  | .servers => "Servers"
  | .sessionTemplates => "SessionTemplates"
  | .users => "Users"
  | .userGroups => "UserGroups"

/-- The column that the list is sorted by unless another one is chosen. -/
def defaultSortColumn : Resource → String
  | .sessions | .sessionTemplates => "Name"
  | .servers => "Hostname"
  | .users | .userGroups => "DisplayName"

/-- The properties that the list can be filtered by, in the order of the catalogue. -/
def filterProperties : Resource → List String
  | .sessions =>
    ["SessionIds", "SessionNames", "Owners", "Types", "States", "Ips", "Hostnames",
      "CreationTimes", "LastDisconnectionTimes", "NumOfConnections", "Tags"]
  | .servers =>
    ["Ids", "Ips", "Hostnames", "EndpointIpAddresses", "Ports", "WebUrlPaths", "Protocols",
      "DefaultDnsNames", "Versions", "SessionManagerAgentVersions", "Availabilities",
      "UnavailabilityReasons", "ConsoleSessionCounts", "VirtualSessionCounts", "OsFamilies",
      "OsNames", "OsVersions", "MemoryTotalBytes", "MemoryUsedBytes", "SwapTotalBytes",
      "SwapUsedBytes", "AwsRegions", "AwsEc2InstanceTypes", "AwsEc2InstanceIds", "CpuVendors",
      "CpuArchitectures", "NumberOfCpus", "GpuVendors", "LoggedInUsers", "Tags"]
  | .sessionTemplates =>
    ["Ids", "CreatedBy", "CreationTimes", "Names", "Descriptions", "OsFamilies", "OsVersions",
      "InstanceIds", "InstanceTypes", "InstanceRegions", "HostNumberOfCpus",
      "HostMemoryTotalBytes", "LastModifiedTimes", "LastModifiedBy", "Types", "AutorunFiles",
      "MaxConcurrentClients", "InitFiles", "StorageRoots", "PermissionsFiles", "Requirements",
      "AutorunFileArguments", "DcvGlEnabled", "UsersSharedWith", "GroupsSharedWith"]
  | .users =>
    ["UserIds", "DisplayNames", "Roles", "IsDisabled", "DisabledReasons", "IsImported",
      "CreationTimes", "LastModifiedTimes", "LastLoggedInTimes", "UserGroupIds"]
  | .userGroups =>
    ["UserGroupIds", "DisplayNames", "UserIds", "IsImported", "CreationTimes",
      "LastModifiedTimes"]

/-- The properties whose values are points in time. -/
def dateProperties : List String :=
  ["CreationTimes", "LastDisconnectionTimes", "LastModifiedTimes", "LastLoggedInTimes"]

/-- Whether the list can be filtered by a property. -/
def accepts (r : Resource) (property : String) : Bool := r.filterProperties.contains property

/-- Whether the list can be filtered by a property whose values are points in time. -/
def isDate (r : Resource) (property : String) : Bool :=
  r.accepts property && dateProperties.contains property

/-- Refuses a property that the list cannot be filtered by. -/
def checkProperty (r : Resource) (property : String) : Except Error Unit :=
  if r.accepts property then .ok () else .error (.unknownProperty r.name property)

/-- A text with the ASCII letters in lower case. -/
def foldCase (s : String) : List Char := s.toList.map Char.toLower

/-- The resource with a name, or with a key of items in any case. -/
def ofName (s : String) : Except Error Resource :=
  match all.find? fun r => r.name = s ∨ foldCase r.itemsKey = foldCase s with
  | some r => .ok r
  | none => .error (.config ("Unknown resource: " ++ s))

/-- The resources by name. -/
def names : List (String × Resource) := all.map fun r => (r.name, r)

/-- The written form of a resource. -/
def toJson (r : Resource) : Json := .str r.name

/-- The resource of a written form. -/
def ofJson : Json → Except DecodeError Resource := Json.decodeVariant names

end Resource

end CursorPaging
