import Adcaas.Repository.Common

/-!
# The classes of entities

`src/models`: of each class of entities, what its decorators say of its properties, as far
as it is read: the properties themselves, with the values that some of them have when
nothing is said, what the schemas of the requests require and refuse, what a response
shows, and how the properties are declared in AS3.

## Main definitions

* `EntityClass` — what is said of a class of entities.
* `Model`, `Model.cls` — the models, and the class of each.
* `Model.repository` — the repository of a model.
* `createRequest`, `updateRequest` — the schemas of the requests.
-/

namespace Adcaas

/-! ### What is said of a class -/

/-- How a property is declared in AS3. -/
inductive AS3Type
  | plain | name | use | bigip | extends
  deriving DecidableEq

/-- A property that is declared in AS3: its key, and its name and its form there. -/
structure AS3Property where
  key : String
  property : String
  type : AS3Type

/-- A property that is declared as it is. -/
def plain (key : String) : AS3Property := ⟨key, key, .plain⟩

/-- What the decorators of a class say of the properties of its own: what the model requires of a
row is `mandatory`, and what the schema of a creation requires of a body is `required`. -/
structure EntityClass where
  name : String
  as3Class : Option String := none
  own : List String := []
  defaults : List (String × Json) := []
  mandatory : List String := []
  required : List String := []
  refusedOnCreate : List String := []
  refusedOnUpdate : List String := []
  hidden : List String := []
  as3 : List AS3Property := []

namespace EntityClass

variable (c : EntityClass)

/-- The properties of an entity, with those of `CommonEntity`. -/
def keys : List String := commonKeys ++ c.own

/-- The properties declared in AS3, with that of `CommonEntity`. -/
def as3Properties : List AS3Property := ⟨"id", "label", .plain⟩ :: c.as3

/-- The properties that `CommonEntity` lets no request set. -/
def commonRefused : List String := ["id", "tenantId", "createdAt", "updatedAt"]

/-- The values that properties of `CommonEntity` have when nothing is said. -/
def commonDefaults : List (String × Json) := [("name", .str "NAME"), ("tenantId", .str "default")]

/-- What the model is defined with. -/
def definition : Definition where
  keys := c.keys
  defaults := (commonDefaults ++ c.defaults).foldl (fun r e => r.insert e.1 e.2) ∅
  required := "id" :: c.mandatory

/-- `Schema.createRequest(entity)`. -/
def createRequest : Schema := ⟨c.required, commonRefused ++ c.refusedOnCreate⟩

/-- `Schema.updateRequest(entity)`. -/
def updateRequest : Schema := ⟨[], commonRefused ++ c.refusedOnUpdate⟩

/-- `buildResponse(entity, data)`: what a response shows of an entity. -/
def buildResponse (r : Row) : Row := r.only (c.keys.filter fun k => k ∉ c.hidden)

/-- The repository of the class. -/
def repository : CommonRepository where
  entityName := c.name
  modelKeys := c.keys
  common _ hk := List.mem_append_left _ hk

/-! ### The classes -/

/-- `class Application`. -/
def application : EntityClass where
  name := "Application"
  as3Class := some "Application"
  own := ["status", "adcId", "defaultDeclarationId"]

/-- `class Service`. -/
def service : EntityClass where
  name := "Service"
  own := ["type", "applicationId", "addressStatus", "clientTLS", "clonePools", "enable",
    "fallbackPersistenceMethod", "iRules", "lastHop", "layer4", "maxConnections", "metadata",
    "mirroring", "nat64Enabled", "persistenceMethods", "policyFirewallEnforced",
    "policyFirewallStaged", "policyIAM", "policyNAT", "defaultPoolId", "profileAnalytics",
    "profileClassification", "profileConnectivity", "profileDiameterEndpoint", "profileDNS",
    "profileDOS", "profileEnforcement", "profileFIX", "profileFTP", "profileHTTP", "profileHTTP2",
    "profileHTTPAcceleration", "profileHTTPCompression", "profileIPOther", "profileMultiplex",
    "profileL4", "profileRADIUS", "profileRewrite", "profileSIP", "profileSubscriberManagement",
    "profileTCP", "profileTrafficLog", "profileUDP", "redirect80", "serverTLS", "snat",
    "translateClientPort", "translateServerAddress", "translateServerPort", "virtualAddresses",
    "virtualPort"]
  defaults := [("addressStatus", .bool true), ("enable", .bool true), ("iRules", .arr []),
    ("maxConnections", .num 0), ("redirect80", .bool true), ("translateClientPort", .bool false),
    ("translateServerAddress", .bool true), ("translateServerPort", .bool true),
    ("virtualPort", .num 80)]
  mandatory := ["type", "applicationId", "virtualAddresses"]
  required := ["type", "applicationId", "virtualAddresses"]
  refusedOnCreate := ["addressStatus", "clonePools", "enable", "fallbackPersistenceMethod",
    "lastHop", "layer4", "maxConnections", "metadata", "persistenceMethods",
    "policyFirewallEnforced", "policyFirewallStaged", "policyIAM", "policyNAT", "profileAnalytics",
    "profileClassification", "profileDiameterEndpoint", "profileDNS", "profileDOS",
    "profileEnforcement", "profileFIX", "profileFTP", "profileHTTPAcceleration", "profileIPOther",
    "profileMultiplex", "profileL4", "profileRADIUS", "profileRewrite", "profileSIP",
    "profileSubscriberManagement", "profileTCP", "profileTrafficLog", "profileUDP", "redirect80",
    "translateClientPort", "translateServerAddress", "translateServerPort"]
  refusedOnUpdate := ["type", "applicationId", "addressStatus", "clonePools", "enable",
    "fallbackPersistenceMethod", "lastHop", "layer4", "maxConnections", "metadata",
    "persistenceMethods", "policyFirewallEnforced", "policyFirewallStaged", "policyIAM",
    "policyNAT", "profileClassification", "profileDiameterEndpoint", "profileDNS", "profileDOS",
    "profileEnforcement", "profileFIX", "profileFTP", "profileHTTPAcceleration", "profileIPOther",
    "profileMultiplex", "profileL4", "profileRADIUS", "profileRewrite", "profileSIP",
    "profileSubscriberManagement", "profileTCP", "profileTrafficLog", "profileUDP", "redirect80",
    "translateClientPort", "translateServerAddress", "translateServerPort", "virtualAddresses",
    "virtualPort"]
  hidden := ["addressStatus", "clonePools", "enable", "fallbackPersistenceMethod", "lastHop",
    "layer4", "maxConnections", "metadata", "mirroring", "persistenceMethods",
    "policyFirewallEnforced", "policyFirewallStaged", "policyIAM", "policyNAT", "profileAnalytics",
    "profileClassification", "profileConnectivity", "profileDiameterEndpoint", "profileDNS",
    "profileDOS", "profileEnforcement", "profileFIX", "profileFTP", "profileHTTPAcceleration",
    "profileIPOther", "profileMultiplex", "profileL4", "profileRADIUS", "profileRewrite",
    "profileSIP", "profileSubscriberManagement", "profileTCP", "profileTrafficLog", "profileUDP",
    "redirect80", "translateClientPort", "translateServerAddress", "translateServerPort"]
  as3 := [⟨"clientTLS", "clientTLS", .bigip⟩, ⟨"iRules", "iRules", .extends⟩, plain "nat64Enabled",
    ⟨"defaultPoolId", "pool", .name⟩, ⟨"profileConnectivity", "profileConnectivity", .bigip⟩,
    ⟨"profileHTTP", "profileHTTP", .extends⟩, ⟨"profileHTTP2", "profileHTTP2", .extends⟩,
    ⟨"profileHTTPCompression", "profileHTTPCompression", .extends⟩,
    ⟨"serverTLS", "serverTLS", .name⟩, ⟨"snat", "snat", .extends⟩, plain "virtualAddresses",
    plain "virtualPort"]

/-- `class Pool`. -/
def pool : EntityClass where
  name := "Pool"
  as3Class := some "Pool"
  own := ["loadBalancingMode", "minimumMembersActive", "minimumMonitors", "reselectTries",
    "serviceDownAction", "slowRampTime"]
  defaults := [("loadBalancingMode", .str "round-robin"), ("minimumMembersActive", .num 1),
    ("minimumMonitors", .num 1), ("reselectTries", .num 0), ("serviceDownAction", .str "none"),
    ("slowRampTime", .num 10)]
  as3 := ["loadBalancingMode"].map plain

/-- `class Member`. -/
def member : EntityClass where
  name := "Member"
  own := ["address", "port", "poolId"]
  mandatory := ["address", "port", "poolId"]

/-- `class Monitor`. -/
def monitor : EntityClass where
  name := "Monitor"
  as3Class := some "Monitor"
  own := ["interval", "timeout", "targetAddress", "targetPort", "monitorType", "acceptRCODE",
    "adaptive", "adaptiveDivergenceMilliseconds", "adaptiveDivergencePercentage",
    "adaptiveDivergenceType", "adaptiveLimitMilliseconds", "adaptiveWindow", "answerContains",
    "arguments", "base", "chaseReferrals", "ciphers", "clientCertificate", "codesDown", "codesUp",
    "domain", "dscp", "expand", "filter", "headers", "label", "mandatoryAttributes", "nasIpAddress",
    "passphrase", "pathname", "protocol", "queryName", "queryType", "receive", "receiveDown",
    "remark", "request", "reverse", "script", "secret", "security", "send", "timeUntilUp",
    "transparent", "upInterval", "username"]
  defaults := [("interval", .num 5), ("timeout", .num 16), ("targetAddress", .str ""),
    ("targetPort", .num 0), ("monitorType", .str "tcp"), ("acceptRCODE", .str "no-error"),
    ("adaptive", .bool false), ("adaptiveDivergenceMilliseconds", .num 500),
    ("adaptiveDivergencePercentage", .num 100), ("adaptiveDivergenceType", .str "relative"),
    ("adaptiveLimitMilliseconds", .num 1000), ("adaptiveWindow", .num 180),
    ("answerContains", .str "query-type"), ("arguments", .str ""), ("chaseReferrals", .bool true),
    ("ciphers", .str ""), ("domain", .str ""), ("dscp", .num 0), ("expand", .bool true),
    ("headers", .str ""), ("mandatoryAttributes", .bool false), ("protocol", .str "udp"),
    ("queryType", .str "a"), ("receiveDown", .str ""), ("request", .str ""),
    ("reverse", .bool false), ("security", .str "none"), ("timeUntilUp", .num 0),
    ("transparent", .bool false), ("upInterval", .num 0)]
  mandatory := ["monitorType"]
  hidden := ["acceptRCODE", "adaptive", "adaptiveDivergenceMilliseconds",
    "adaptiveDivergencePercentage", "adaptiveDivergenceType", "adaptiveLimitMilliseconds",
    "adaptiveWindow", "answerContains", "arguments", "base", "chaseReferrals", "ciphers",
    "clientCertificate", "codesDown", "codesUp", "domain", "dscp", "expand", "filter", "headers",
    "label", "mandatoryAttributes", "nasIpAddress", "passphrase", "pathname", "queryName",
    "queryType", "receive", "receiveDown", "remark", "request", "reverse", "script", "secret",
    "security", "send", "timeUntilUp", "transparent", "upInterval", "username"]
  as3 := ["monitorType"].map plain

/-- `class Endpointpolicy`. -/
def endpointpolicy : EntityClass where
  name := "Endpointpolicy"
  as3Class := some "Endpoint_Policy"

/-- `class Rule`. -/
def rule : EntityClass where
  name := "Rule"
  own := ["endpointpolicyId"]
  mandatory := ["endpointpolicyId"]
  required := ["endpointpolicyId"]

/-- `class Condition`. -/
def condition : EntityClass where
  name := "Condition"
  own := ["all", "alpn", "event", "extension", "host", "index", "normalized", "npn", "path",
    "pathSegment", "port", "queryParameter", "queryString", "scheme", "serverName", "type",
    "unnamedQueryParameter", "ruleId"]
  defaults := [("event", .str "request"), ("normalized", .bool false)]
  mandatory := ["ruleId"]
  as3 := ["all", "alpn", "extension", "host", "index", "normalized", "npn", "path", "pathSegment",
    "port", "queryParameter", "queryString", "scheme", "serverName", "type",
    "unnamedQueryParameter"].map plain

/-- `class Action`. -/
def action : EntityClass where
  name := "Action"
  own := ["enabled", "event", "insert", "location", "policy", "remove", "replace", "select", "type",
    "ruleId"]
  defaults := [("enabled", .bool true), ("event", .str "request")]
  mandatory := ["ruleId"]
  required := ["type"]
  hidden := ["enabled"]
  as3 := [plain "insert", ⟨"policy", "policy", .bigip⟩, plain "remove", plain "replace",
    ⟨"select", "select", .use⟩, plain "type"]

/-- `class Wafpolicy`. -/
def wafpolicy : EntityClass where
  name := "Wafpolicy"
  as3Class := some "WAF_Policy"
  own := ["file", "ignoreChanges", "url", "public"]
  defaults := [("ignoreChanges", .bool false), ("public", .bool false)]
  mandatory := ["url", "public"]
  required := ["url"]
  refusedOnCreate := ["file", "ignoreChanges"]
  refusedOnUpdate := ["file", "ignoreChanges", "url", "public"]
  hidden := ["ignoreChanges"]
  as3 := ["file", "url"].map plain

/-- `class TLSServer`. -/
def tlsserver : EntityClass where
  name := "TLSServer"
  as3Class := some "TLS_Server"
  own := ["allowExpiredCRL", "authenticationFrequency", "authenticationInviteCA",
    "authenticationMode", "authenticationTrustCA", "c3dEnabled", "c3dOCSP",
    "c3dOCSPUnknownStatusAction", "certificates", "ciphers", "crlFile", "ldapStartTLS",
    "requireSNI", "staplerOCSPEnabled"]
  defaults := [("allowExpiredCRL", .bool false), ("authenticationFrequency", .str "one-time"),
    ("authenticationMode", .str "ignore"), ("c3dOCSPUnknownStatusAction", .str "drop"),
    ("ciphers", .str "DEFAULT"), ("requireSNI", .bool false), ("staplerOCSPEnabled", .bool false)]
  refusedOnCreate := ["allowExpiredCRL", "authenticationFrequency", "authenticationInviteCA",
    "authenticationMode", "authenticationTrustCA", "c3dEnabled", "c3dOCSP",
    "c3dOCSPUnknownStatusAction", "ciphers", "crlFile", "ldapStartTLS", "requireSNI",
    "staplerOCSPEnabled"]
  refusedOnUpdate := ["allowExpiredCRL", "authenticationFrequency", "authenticationInviteCA",
    "authenticationMode", "authenticationTrustCA", "c3dEnabled", "c3dOCSP",
    "c3dOCSPUnknownStatusAction", "ciphers", "crlFile", "ldapStartTLS", "requireSNI",
    "staplerOCSPEnabled"]

/-- `class Certificate`. -/
def certificate : EntityClass where
  name := "Certificate"
  as3Class := some "Certificate"
  own := ["certificate", "chainCA", "issuerCertificate", "passphrase", "pkcs12", "pkcs12Options",
    "privateKey", "staplerOCSP"]
  mandatory := ["certificate"]
  as3 := [⟨"certificate", "certificate", .bigip⟩, ⟨"privateKey", "privateKey", .bigip⟩]

/-- `class IRule`. -/
def irule : EntityClass where
  name := "IRule"
  as3Class := some "iRule"
  own := ["expand", "iRule", "label", "remark"]
  defaults := [("expand", .bool true), ("remark", .str "")]
  as3 := ["expand", "iRule", "label", "remark"].map plain

/-- `class ProfileHTTPCompression`. -/
def profileHTTPCompression : EntityClass where
  name := "ProfileHTTPCompression"
  as3Class := some "HTTP_Compress"
  own := ["allowHTTP10", "bufferSize", "contentTypeExcludes", "contentTypeIncludes", "cpuSaver",
    "cpuSaverHigh", "cpuSaverLow", "gzipLevel", "gzipMemory", "gzipWindowSize",
    "keepAcceptEncoding", "label", "minimumSize", "preferMethod", "remark", "selective",
    "uriExcludes", "uriIncludes", "varyHeader"]
  defaults := [("allowHTTP10", .bool false), ("bufferSize", .num 4096),
    ("contentTypeExcludes", .arr []),
    ("contentTypeIncludes", .arr [.str "text/", .str "application/(xml|x-javascript)"]),
    ("cpuSaver", .bool true), ("cpuSaverHigh", .num 90), ("cpuSaverLow", .num 75),
    ("gzipLevel", .num 1), ("gzipMemory", .num 8), ("gzipWindowSize", .num 16),
    ("keepAcceptEncoding", .bool false), ("minimumSize", .num 1024), ("preferMethod", .str "gzip"),
    ("remark", .str ""), ("selective", .bool false), ("uriExcludes", .arr []),
    ("uriIncludes", .arr []), ("varyHeader", .bool true)]
  as3 := ["allowHTTP10", "bufferSize", "contentTypeExcludes", "contentTypeIncludes", "cpuSaver",
    "cpuSaverHigh", "cpuSaverLow", "gzipLevel", "gzipMemory", "gzipWindowSize",
    "keepAcceptEncoding", "label", "minimumSize", "preferMethod", "remark", "selective",
    "uriExcludes", "uriIncludes", "varyHeader"].map plain

/-- `class ProfileHttpProfile`. -/
def profileHTTPProfile : EntityClass where
  name := "ProfileHttpProfile"
  as3Class := some "HTTP_Profile"
  own := ["allowedResponseHeaders", "badRequestMessage", "badResponseMessage",
    "connectErrorMessage", "defaultConnectAction", "dnsErrorMessage", "doNotProxyHosts",
    "encryptCookies", "fallbackRedirect", "fallbackStatusCodes", "hstsIncludeSubdomains",
    "hstsInsert", "hstsPeriod", "hstsPreload", "ipv6", "knownMethods", "maxHeaderCount",
    "maxHeaderSize", "maxRequests", "multiplexTransformations", "otherXFF", "pipelineAction",
    "proxyType", "remark", "requestChunking", "responseChunking", "rewriteRedirects", "routeDomain",
    "serverHeaderValue", "truncatedRedirects", "trustXFF", "tunnelName", "unknownMethodAction",
    "viaHost", "viaRequest", "viaResponse", "webSocketMasking", "webSocketsEnabled",
    "whiteOutHeader", "xForwardedFor"]
  defaults := [("allowedResponseHeaders", .arr []),
    ("badRequestMessage", .str ("<html><head><title>Bad Request" ++
      "</title></head><body><h2>Invalid proxy request</h2></body></html>")),
    ("badResponseMessage", .str ("<html><head><title>Bad Response" ++
      "</title></head><body><h2>Proxy request provoked invalid response</h2></body></html>")),
    ("connectErrorMessage", .str ("<html><head><title>Connection Error" ++
      "</title></head><body><h2>Unable to connect to host in proxy request</h2></body></html>")),
    ("defaultConnectAction", .str "deny"),
    ("dnsErrorMessage", .str ("<html><head><title>DNS Resolution Error" ++
      "</title></head><body><h2>Cannot resolve hostname in proxy request</h2></body></html>")),
    ("hstsIncludeSubdomains", .bool false), ("hstsInsert", .bool false),
    ("hstsPeriod", .num 7862400), ("hstsPreload", .bool false), ("ipv6", .bool false),
    ("knownMethods", .arr (["CONNECT", "DELETE", "GET", "HEAD", "LOCK", "OPTIONS", "POST",
      "PROPFIND", "PUT", "TRACE", "UNLOCK"].map .str)),
    ("maxHeaderCount", .num 64), ("maxHeaderSize", .num 32768), ("maxRequests", .num 0),
    ("multiplexTransformations", .bool true), ("pipelineAction", .str "allow"),
    ("proxyType", .str "reverse"), ("requestChunking", .str "preserve"),
    ("responseChunking", .str "selective"), ("rewriteRedirects", .str "none"),
    ("routeDomain", .num 0), ("serverHeaderValue", .str "BigIP"),
    ("truncatedRedirects", .bool false), ("trustXFF", .bool false),
    ("tunnelName", .str "http-tunnel"), ("unknownMethodAction", .str "allow"),
    ("viaRequest", .str "remove"), ("viaResponse", .str "remove"),
    ("webSocketMasking", .str "unmask"), ("webSocketsEnabled", .bool false),
    ("xForwardedFor", .bool true)]
  as3 := ["allowedResponseHeaders", "badRequestMessage", "badResponseMessage",
    "connectErrorMessage", "defaultConnectAction", "dnsErrorMessage", "doNotProxyHosts",
    "encryptCookies", "fallbackRedirect", "fallbackStatusCodes", "hstsIncludeSubdomains",
    "hstsInsert", "hstsPeriod", "hstsPreload", "ipv6", "knownMethods", "maxHeaderCount",
    "maxHeaderSize", "maxRequests", "multiplexTransformations", "otherXFF", "pipelineAction",
    "proxyType", "remark", "requestChunking", "responseChunking", "rewriteRedirects", "routeDomain",
    "serverHeaderValue", "truncatedRedirects", "trustXFF", "tunnelName", "unknownMethodAction",
    "viaHost", "viaRequest", "viaResponse", "webSocketMasking", "webSocketsEnabled",
    "whiteOutHeader", "xForwardedFor"].map plain

/-- `class ProfileHTTP2Profile`. -/
def profileHTTP2Profile : EntityClass where
  name := "ProfileHTTP2Profile"
  as3Class := some "HTTP2_Profile"
  own := ["activationMode", "concurrentStreamsPerConnection", "connectionIdleTimeout",
    "enforceTlsRequirements", "frameSize", "headerTableSize", "includeContentLength",
    "insertHeader", "insertHeaderName", "receiveWindow", "remark", "writeSize"]
  defaults := [("activationMode", .str "alpn"), ("concurrentStreamsPerConnection", .num 10),
    ("connectionIdleTimeout", .num 300), ("enforceTlsRequirements", .bool true),
    ("frameSize", .num 2048), ("headerTableSize", .num 4096), ("includeContentLength", .bool false),
    ("insertHeader", .bool false), ("insertHeaderName", .str "X-HTTP2"), ("receiveWindow", .num 32),
    ("writeSize", .num 16384)]
  as3 := ["activationMode", "concurrentStreamsPerConnection", "connectionIdleTimeout",
    "enforceTlsRequirements", "frameSize", "headerTableSize", "includeContentLength",
    "insertHeader", "insertHeaderName", "receiveWindow", "remark", "writeSize"].map plain

/-- `class Declaration`. -/
def declaration : EntityClass where
  name := "Declaration"
  own := ["applicationId", "content"]
  mandatory := ["applicationId", "content"]

/-- `class Adc`. -/
def adc : EntityClass where
  name := "Adc"
  own := ["type", "networks", "compute", "management", "license", "status", "lastErr"]
  defaults := [("type", .str "VE"), ("status", .str "NEW"), ("lastErr", .str "")]
  mandatory := ["type", "networks", "compute", "status"]
  required := ["type", "compute"]

/-- `class Cert`. -/
def cert : EntityClass where
  name := "Cert"
  as3Class := some "Cert"
  own := ["remotepath", "installed"]
  defaults := [("installed", .bool false)]
  refusedOnUpdate := ["remotepath", "installed"]
  as3 := ["remotepath"].map plain

/-- `class Key`. -/
def key : EntityClass where
  name := "Key"
  as3Class := some "Key"
  own := ["remotepath", "installed"]
  defaults := [("installed", .bool false)]
  refusedOnUpdate := ["remotepath", "installed"]
  as3 := ["remotepath"].map plain

end EntityClass

/-! ### The models -/

/-- The models that have a `CommonRepository`. -/
inductive Model
  | application | service | pool | member | monitor | endpointpolicy | rule | condition | action
  | wafpolicy | tlsserver | certificate | irule
  | profileHTTPCompression | profileHTTPProfile | profileHTTP2Profile
  | declaration | adc | cert | key
  deriving DecidableEq

/-- The class of the entities of a model. -/
def Model.cls : Model → EntityClass
  | .application => .application
  | .service => .service
  | .pool => .pool
  | .member => .member
  | .monitor => .monitor
  | .endpointpolicy => .endpointpolicy
  | .rule => .rule
  | .condition => .condition
  | .action => .action
  | .wafpolicy => .wafpolicy
  | .tlsserver => .tlsserver
  | .certificate => .certificate
  | .irule => .irule
  | .profileHTTPCompression => .profileHTTPCompression
  | .profileHTTPProfile => .profileHTTPProfile
  | .profileHTTP2Profile => .profileHTTP2Profile
  | .declaration => .declaration
  | .adc => .adc
  | .cert => .cert
  | .key => .key

/-- The models of the associations, whose rows are the ids of what is associated. -/
inductive Association
  | serviceEndpointpolicy | poolMonitor | memberMonitor | adcTenant
  deriving DecidableEq

end Adcaas
